import WordPairs.Writer.Basic

/-!
# Devices of limited room

A device keeps the bytes it takes. It may take only small pieces, may have room for only so many
bytes, may be interrupted now and then, and may fail to be flushed.
-/

namespace WordPairs

/-- What a full device does with an offer. -/
inductive WhenFull where
  /-- The offer fails. -/
  | fails
  /-- The offer succeeds, and no byte is taken. -/
  | takesNothing
  deriving DecidableEq

/-- A writer of limited room and patience. -/
structure Device where
  /-- The most bytes that one offer can bring in. -/
  piece : Option Nat
  /-- The most bytes that the device can hold. -/
  room : Option Nat
  /-- What happens once the room is used up. -/
  whenFull : WhenFull
  /-- Every how many offers one is interrupted. -/
  interruptEvery : Option Nat
  /-- Whether flushing fails. -/
  flushFails : Bool
  /-- The bytes taken so far. -/
  data : Array UInt8
  /-- The number of offers made so far. -/
  offers : Nat
  /-- The number of times the device was flushed, failures included. -/
  flushes : Nat

namespace Device

/-- A device without limits that holds nothing. -/
def unlimited : Device := ⟨none, none, .fails, none, false, #[], 0, 0⟩

/-- Whether the offer of this number is interrupted. -/
def isInterrupted (device : Device) (offer : Nat) : Bool :=
  match device.interruptEvery with
  | some every => offer % every == 0
  | none => false

/-- How many more bytes fit, if there is a limit. -/
def free (device : Device) : Option Nat := device.room.map (· - device.data.size)

/-- How many bytes of an offer of `length` bytes are taken by a device that is not full. -/
def share (device : Device) (length : Nat) : Nat :=
  let piece := match device.piece with
    | some piece => min piece length
    | none => length
  match device.free with
  | some free => min free piece
  | none => piece

/-- Takes the bytes that one offer brings in. -/
def write (bytes : List UInt8) (device : Device) : Except IoError Nat × Device :=
  let device := { device with offers := device.offers + 1 }
  if device.isInterrupted device.offers then (.error .interrupted, device)
  else if device.free = some 0 then
    match device.whenFull with
    | .fails => (.error .storageFull, device)
    | .takesNothing => (.ok 0, device)
  else
    let taken := bytes.take (device.share bytes.length)
    (.ok taken.length, { device with data := device.data ++ taken })

/-- Counts the flush, which takes no bytes. -/
def flush (device : Device) : Except IoError Unit × Device :=
  let device := { device with flushes := device.flushes + 1 }
  (if device.flushFails then .error .brokenPipe else .ok (), device)

instance : ByteWriter Device where
  write := write
  flush := flush

end Device

end WordPairs
