import WordPairs.Proofs.Writer.Quota

/-!
# Records in limited room

Records are written back to back, and the writer is flushed when all of them are in. If there is no
room for one of them, the writer keeps what there is room for and is not flushed. This holds of all
writers with a `Quota` that obey the laws of `Quota.Flushing`, of which a device is one. The bytes
of records that are all in can be cut into the records again, since each takes as many bytes.
-/

namespace WordPairs

namespace ByteWriter

variable {ω : Type} [ByteWriter ω] {property : ω → Prop}
  (kept : ∀ bytes writer, property writer → property (write bytes writer).2)
include kept

/-- What no offer destroys is there after all of the offers that are made for some bytes. -/
theorem offer_keeps (left : Nat) (bytes : List UInt8) {writer : ω} (holds : property writer) :
    property (offer left bytes writer).2 := by
  induction left generalizing bytes writer with
  | zero => cases bytes <;> exact holds
  | succ left ih =>
    cases bytes with
    | nil => exact holds
    | cons byte rest =>
      have after := kept (byte :: rest) writer holds
      rw [offer]
      split
      · next wrote =>
        rw [wrote] at after
        exact after
      · next wrote =>
        rw [wrote] at after
        exact ih _ after
      · next wrote =>
        rw [wrote] at after
        exact ih _ after
      · next wrote =>
        rw [wrote] at after
        exact after

/-- What no offer destroys is there after records are written. -/
theorem writeEach_keeps (records : List Record) (written : Nat) {writer : ω}
    (holds : property writer) : property (writeEach records written writer).2 := by
  induction records generalizing written writer with
  | nil => exact holds
  | cons record records ih =>
    have after : property (writeAll record.bytes writer).2 := offer_keeps kept _ _ holds
    rw [writeEach]
    split
    · next wrote =>
      rw [wrote] at after
      exact ih _ after
    · next wrote =>
      rw [wrote] at after
      exact after

end ByteWriter

namespace Record

/-- A string of bytes cut into blocks of the size of a record; the last may be shorter. -/
def blocks (bytes : List UInt8) : List (List UInt8) :=
  if bytes.isEmpty then [] else bytes.take size :: blocks (bytes.drop size)
termination_by bytes.length
decreasing_by
  rename_i filled
  have positive : 0 < bytes.length := List.length_pos_iff.2 (by simpa using filled)
  simp only [List.length_drop, size]
  omega

/-- A record at the front is the first block. -/
theorem blocks_bytes_append (record : Record) (rest : List UInt8) :
    blocks (record.bytes ++ rest) = record.bytes :: blocks rest := by
  have filled : ¬(record.bytes ++ rest).isEmpty := by
    have width := record.length_bytes
    rw [List.isEmpty_iff_length_eq_zero, List.length_append]
    omega
  have front : (record.bytes ++ rest).take size = record.bytes :=
    List.take_left' record.length_bytes
  have back : (record.bytes ++ rest).drop size = rest := List.drop_left' record.length_bytes
  rw [blocks, if_neg filled, front, back]

/-- The blocks of records back to back are the bytes of each. -/
theorem blocks_concat (records : List Record) : blocks (concat records) = records.map bytes := by
  induction records with
  | nil =>
    rw [blocks]
    rfl
  | cons record records ih =>
    have split : concat (record :: records) = record.bytes ++ concat records := rfl
    rw [split, blocks_bytes_append, ih, List.map_cons]

/-- The bytes of a record are those of the record. -/
theorem ofBytes?_bytes (record : Record) : ofBytes? record.bytes = some record :=
  dif_pos record.length_bytes

/-- Records back to back can be cut into the records again. -/
theorem map_ofBytes?_blocks (records : List Record) :
    (blocks (concat records)).map ofBytes? = records.map some := by
  rw [blocks_concat, List.map_map]
  exact List.map_congr_left fun record _ => ofBytes?_bytes record

end Record

namespace Quota

variable {ω : Type} [ByteWriter ω]

/-- How flushing goes with the writers of a quota. An offer is no flush and does not change what one
comes to, and a flush is counted and takes no bytes. -/
structure Flushing (quota : Quota ω) where
  /-- The number of times a writer was flushed, failures included. -/
  flushes : ω → Nat
  /-- What flushing a writer comes to. -/
  answer : ω → Except IoError Unit
  /-- An offer is no flush. -/
  flushes_write : ∀ bytes writer, flushes (ByteWriter.write bytes writer).2 = flushes writer
  /-- An offer does not change what a flush comes to. -/
  answer_write : ∀ bytes writer, answer (ByteWriter.write bytes writer).2 = answer writer
  /-- A flush comes to what it is known to. -/
  result_flush : ∀ writer, (ByteWriter.flush writer).1 = answer writer
  /-- A flush is counted. -/
  flushes_flush : ∀ writer, flushes (ByteWriter.flush writer).2 = flushes writer + 1
  /-- A flush takes no bytes. -/
  taken_flush : ∀ writer, quota.taken (ByteWriter.flush writer).2 = quota.taken writer

variable {quota : Quota ω} (flushing : quota.Flushing)
include flushing

/-- Records that are written are no flush, and change nothing of what one comes to. -/
theorem Flushing.writeEach_keeps (records : List Record) (written : Nat) (writer : ω) :
    let last := (ByteWriter.writeEach records written writer).2
    flushing.flushes last = flushing.flushes writer ∧
      flushing.answer last = flushing.answer writer := by
  have kept (bytes : List UInt8) (other : ω)
      (same : flushing.flushes other = flushing.flushes writer ∧
        flushing.answer other = flushing.answer writer) :
      flushing.flushes (ByteWriter.write bytes other).2 = flushing.flushes writer ∧
        flushing.answer (ByteWriter.write bytes other).2 = flushing.answer writer := by
    rw [flushing.flushes_write, flushing.answer_write]
    exact same
  exact ByteWriter.writeEach_keeps kept records written ⟨rfl, rfl⟩

section Room

variable {records : List Record} {writer : ω} (willing : quota.Willing writer)
include willing

/-- A writer with room for all the records is flushed once it has them, and the flush decides. -/
theorem writeRecords_of_fits
    (fits : ∀ limit ∈ quota.room writer, (Record.concat records).length ≤ limit) :
    ∃ full, quota.taken full = quota.taken writer ++ Record.concat records ∧
      flushing.flushes full = flushing.flushes writer ∧
      ByteWriter.writeRecords records writer =
        ((flushing.answer writer).map fun () => (Record.concat records).length,
          (ByteWriter.flush full).2) := by
  have kept := flushing.writeEach_keeps records 0 writer
  obtain ⟨full, landed, each, wrote⟩ | ⟨last, landed, _⟩ := quota.writeRecords_lands records willing
  · rw [each] at kept
    cases landed with
    | whole room grown less again =>
      refine ⟨full, grown, kept.1, ?_⟩
      rw [wrote, flushing.result_flush, kept.2]
  · cases landed with
    | cut room short grown => exact absurd short (Nat.not_lt.2 (fits _ room))

/-- A writer without room for all the records is filled and not flushed. -/
theorem writeRecords_of_short {limit : Nat} (room : quota.room writer = some limit)
    (short : limit < (Record.concat records).length) :
    ∃ last, quota.taken last = quota.taken writer ++ (Record.concat records).take limit ∧
      flushing.flushes last = flushing.flushes writer ∧
      ByteWriter.writeRecords records writer = (.error quota.whenFull.cause, last) := by
  have kept := flushing.writeEach_keeps records 0 writer
  obtain ⟨full, landed, _⟩ | ⟨last, landed, each, wrote⟩ := quota.writeRecords_lands records willing
  · exact absurd short (Nat.not_lt.2 (landed.length_le limit room))
  · rw [each] at kept
    cases landed with
    | cut other _ grown =>
      cases room.symm.trans other
      exact ⟨last, grown, kept.1, wrote⟩

end Room

/-- Two writers with as much room, that do the same when they are full and come to the same when
they are flushed, end with the same result and the same bytes behind those that they had, and are
flushed as often. -/
theorem writeRecords_alike {τ : Type} [ByteWriter τ] {another : Quota τ}
    (others : another.Flushing) (records : List Record) {writer : ω} {other : τ}
    (willing : quota.Willing writer) (ready : another.Willing other)
    (room : quota.room writer = another.room other) (full : quota.whenFull = another.whenFull)
    (answer : flushing.answer writer = others.answer other) :
    let written := ByteWriter.writeRecords records writer
    let again := ByteWriter.writeRecords records other
    written.1 = again.1 ∧ ∃ bytes flushes, quota.taken written.2 = quota.taken writer ++ bytes ∧
      another.taken again.2 = another.taken other ++ bytes ∧
      flushing.flushes written.2 = flushing.flushes writer + flushes ∧
      others.flushes again.2 = others.flushes other + flushes := by
  intro written again
  by_cases fits : ∀ limit ∈ quota.room writer, (Record.concat records).length ≤ limit
  · obtain ⟨last, grown, unflushed, wrote⟩ := writeRecords_of_fits flushing willing fits
    obtain ⟨same, alike, never, rewrote⟩ := writeRecords_of_fits others ready (room ▸ fits)
    have wrote : written = _ := wrote
    have rewrote : again = _ := rewrote
    rw [wrote, rewrote, answer]
    refine ⟨rfl, Record.concat records, 1, ?_⟩
    rw [flushing.taken_flush, others.taken_flush, flushing.flushes_flush, others.flushes_flush,
      unflushed, never]
    exact ⟨grown, alike, rfl, rfl⟩
  · simp only [Classical.not_forall, Nat.not_le] at fits
    obtain ⟨limit, known, short⟩ := fits
    obtain ⟨last, grown, unflushed, wrote⟩ := writeRecords_of_short flushing willing known short
    obtain ⟨same, alike, never, rewrote⟩ :=
      writeRecords_of_short others ready (room.symm.trans known) short
    have wrote : written = _ := wrote
    have rewrote : again = _ := rewrote
    rw [wrote, rewrote, full]
    exact ⟨rfl, (Record.concat records).take limit, 0, grown, alike, unflushed, never⟩

/-- What becomes of records is decided by the room of the writer. If there is room for all of their
bytes, the writer takes them all, and then it is flushed once; the number of bytes is returned,
unless the flush fails. Otherwise the writer takes as many of the bytes as there is room for, the
result tells what a full writer does, and it is not flushed. Beyond that, what it does when it is
full and what a flush of it comes to, nothing of the writer makes a difference. -/
theorem writeRecords_decided_by_room (records : List Record) {writer : ω}
    (willing : quota.Willing writer) :
    let due := Record.concat records
    let written := ByteWriter.writeRecords records writer
    ((∀ limit ∈ quota.room writer, due.length ≤ limit) →
      written.1 = ((flushing.answer writer).map fun () => due.length) ∧
        quota.taken written.2 = quota.taken writer ++ due ∧
        flushing.flushes written.2 = flushing.flushes writer + 1 ∧
        ∃ full, quota.taken full = quota.taken written.2 ∧
          flushing.flushes full = flushing.flushes writer ∧
          written.2 = (ByteWriter.flush full).2) ∧
    (∀ limit ∈ quota.room writer, limit < due.length →
      written.1 = .error quota.whenFull.cause ∧
        quota.taken written.2 = quota.taken writer ++ due.take limit ∧
        flushing.flushes written.2 = flushing.flushes writer) ∧
    ∀ {τ : Type} [ByteWriter τ] {another : Quota τ} (others : another.Flushing) (other : τ),
      another.Willing other → quota.room writer = another.room other →
      quota.whenFull = another.whenFull → flushing.answer writer = others.answer other →
      let again := ByteWriter.writeRecords records other
      written.1 = again.1 ∧ ∃ bytes flushes, quota.taken written.2 = quota.taken writer ++ bytes ∧
        another.taken again.2 = another.taken other ++ bytes ∧
        flushing.flushes written.2 = flushing.flushes writer + flushes ∧
        others.flushes again.2 = others.flushes other + flushes := by
  intro due written
  refine ⟨fun fits => ?_, fun limit room short => ?_, fun others other ready room full answer =>
    writeRecords_alike flushing others records willing ready room full answer⟩
  · obtain ⟨full, grown, unflushed, wrote⟩ := writeRecords_of_fits flushing willing fits
    have wrote : written = _ := wrote
    rw [wrote, flushing.taken_flush, flushing.flushes_flush, unflushed]
    exact ⟨rfl, grown, rfl, full, rfl, unflushed, rfl⟩
  · obtain ⟨last, grown, unflushed, wrote⟩ := writeRecords_of_short flushing willing room short
    have wrote : written = _ := wrote
    rw [wrote]
    exact ⟨rfl, grown, unflushed⟩

end Quota

namespace Device

/-- Flushing a device fails always or never, and is counted. -/
def flushing (whenFull : WhenFull) : (quota whenFull).Flushing where
  flushes := flushes
  answer device := if device.flushFails then .error .brokenPipe else .ok ()
  flushes_write := flushes_write
  answer_write bytes device := by
    obtain ⟨offers, data, offered⟩ := exists_write bytes device
    rw [offered]
  result_flush _ := rfl
  flushes_flush _ := rfl
  taken_flush _ := rfl

/-- What becomes of records on a device is decided by its room. If there is room for all of their
bytes, the device holds them all, and then it is flushed once; the number of bytes is returned,
unless the flush fails. Otherwise the device holds as many of the bytes as there is room for, the
result tells what a full device does, and it is not flushed. The size of the pieces in which bytes
are taken and the offers that are interrupted change nothing. Cut into blocks of 32 bytes, the bytes
are the records again. -/
theorem writeRecords_by_room (records : List Record) (device : Device) (steady : device.Steady) :
    let due := Record.concat records
    let written := ByteWriter.writeRecords records device
    ((∀ limit, device.free = some limit → due.length ≤ limit) →
      written.1 = (if device.flushFails then .error .brokenPipe else .ok due.length) ∧
        due.length = 32 * records.length ∧ written.2.data.toList = device.data.toList ++ due ∧
        written.2.flushes = device.flushes + 1 ∧
        ∃ full, full.data = written.2.data ∧ full.flushes = device.flushes ∧
          written.2 = (Device.flush full).2) ∧
    (∀ limit, device.free = some limit → limit < due.length →
      written.1 = .error device.whenFull.cause ∧
        written.2.data.toList = device.data.toList ++ due.take limit ∧
        written.2.flushes = device.flushes) ∧
    (∀ piece every, Steady { device with piece := piece, interruptEvery := every } →
      let again := ByteWriter.writeRecords records
        { device with piece := piece, interruptEvery := every }
      again.1 = written.1 ∧ again.2.data = written.2.data ∧
        again.2.flushes = written.2.flushes) ∧
    (Record.blocks due).map Record.ofBytes? = records.map some := by
  intro due written
  have width : due.length = 32 * records.length := Record.length_concat records
  have willing : (quota device.whenFull).Willing device := ⟨steady, rfl⟩
  obtain ⟨whole, cut, alike⟩ :=
    Quota.writeRecords_decided_by_room (flushing device.whenFull) records willing
  refine ⟨fun fits => ?_, cut, fun piece every other => ?_, Record.map_ofBytes?_blocks records⟩
  · obtain ⟨result, grown, flushed, full, same, unflushed, last⟩ := whole fits
    refine ⟨?_, width, grown, flushed, full, Array.toList_inj.1 same, unflushed, last⟩
    have result : written.1 = _ := result
    rw [result]
    cases fails : device.flushFails <;> simp [flushing, fails, Except.map, due]
  · intro again
    obtain ⟨result, bytes, count, grown, regrown, flushed, reflushed⟩ :=
      alike (flushing device.whenFull) { device with piece := piece, interruptEvery := every }
        ⟨other, rfl⟩ rfl rfl rfl
    exact ⟨result.symm, Array.toList_inj.1 (regrown.trans grown.symm),
      reflushed.trans flushed.symm⟩

/-- A device that cannot be flushed takes one record, seven bytes at a time and interrupted every
other time, but it has room for no more than eight bytes of another. -/
theorem writeRecords_by_room_narrow :
    let record := Record.encode [99, 97, 116] [100, 111, 103]
    let device : Device := { Device.unlimited with
      piece := some 7, room := some 40, whenFull := .takesNothing, interruptEvery := some 2,
      flushFails := true }
    let one := ByteWriter.writeRecords [record] device
    let two := ByteWriter.writeRecords [record, record] device
    device.Steady ∧ one.1 = .error .brokenPipe ∧ one.2.data.toList = record.bytes ∧
      one.2.flushes = 1 ∧ two.1 = .error .writeZero ∧
      two.2.data.toList = record.bytes ++ record.bytes.take 8 ∧ two.2.flushes = 0 := by
  intro record device one two
  have steady : device.Steady := ⟨by decide, by decide⟩
  have fits : ∀ limit, device.free = some limit → (Record.concat [record]).length ≤ limit := by
    intro limit room
    cases room
    decide
  have short : 40 < (Record.concat [record, record]).length := by decide
  obtain ⟨stopped, _, kept, flushed, _⟩ := (writeRecords_by_room [record] device steady).1 fits
  obtain ⟨filled, cut, never⟩ :=
    (writeRecords_by_room [record, record] device steady).2.1 40 rfl short
  exact ⟨steady, stopped, kept, flushed, filled, cut, never⟩

end Device

end WordPairs
