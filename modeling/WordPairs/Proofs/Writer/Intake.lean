import WordPairs.Proofs.Writer.Quota

/-!
# Writers that take everything

An offer to such a writer brings in one byte at least, unless it is interrupted, and of two offers
in a row one is not. However small the pieces are in which it takes them, it ends up with all of
the bytes that are written to it, in their order. What counts as taken is told by an `Intake`, so
that a writer may hold bytes back before it passes them on.
-/

namespace WordPairs

/-- What a writer has taken, and the writers that take whatever is written to them. -/
structure Intake (ω : Type) [ByteWriter ω] where
  /-- The bytes taken so far, in order. -/
  taken : ω → List UInt8
  /-- The writers that take everything. -/
  Willing : ω → Prop
  /-- The writers whose next offer is not interrupted. -/
  Calm : ω → Prop
  /-- An offer that is not interrupted brings in some bytes from the front. -/
  takes : ∀ {writer : ω} {bytes : List UInt8}, Willing writer → Calm writer → bytes ≠ [] →
    ∃ count next, ByteWriter.write bytes writer = (.ok count, next) ∧ 0 < count ∧
      taken next = taken writer ++ bytes.take count ∧ Willing next
  /-- An interrupted offer brings in nothing, and the one after it is not interrupted. -/
  resumes : ∀ {writer : ω} {bytes : List UInt8}, Willing writer → ¬Calm writer → bytes ≠ [] →
    ∃ next, ByteWriter.write bytes writer = (.error .interrupted, next) ∧
      taken next = taken writer ∧ Willing next ∧ Calm next
  /-- Passing on what is held back takes no bytes, whether it succeeds or not. -/
  flushes : ∀ {writer : ω}, Willing writer → taken (ByteWriter.flush writer).2 = taken writer

namespace Intake

variable {ω : Type} [ByteWriter ω] (intake : Intake ω)

/-- Willing writers with a property that no offer destroys. -/
def keeping (property : ω → Prop)
    (kept : ∀ bytes writer, property writer → property (ByteWriter.write bytes writer).2) :
    Intake ω where
  taken := intake.taken
  Willing writer := intake.Willing writer ∧ property writer
  Calm := intake.Calm
  takes {writer bytes} willing calm nonempty := by
    obtain ⟨count, next, wrote, positive, grown, again⟩ :=
      intake.takes willing.1 calm nonempty
    have same := kept bytes writer willing.2
    rw [wrote] at same
    exact ⟨count, next, wrote, positive, grown, again, same⟩
  resumes {writer bytes} willing disturbed nonempty := by
    obtain ⟨next, wrote, grown, again, calmed⟩ := intake.resumes willing.1 disturbed nonempty
    have same := kept bytes writer willing.2
    rw [wrote] at same
    exact ⟨next, wrote, grown, ⟨again, same⟩, calmed⟩
  flushes willing := intake.flushes willing.1

/-- Writers that take everything as writers whose room is not limited. -/
def quota : Quota ω where
  taken := intake.taken
  room _ := none
  whenFull := .fails
  Willing := intake.Willing
  Calm := intake.Calm
  takes willing calm nonempty _ := by
    obtain ⟨count, next, wrote, positive, grown, again⟩ := intake.takes willing calm nonempty
    exact ⟨count, next, wrote, positive, nofun, grown, rfl, again⟩
  refuses _ _ _ full := nomatch full
  resumes willing disturbed nonempty := by
    obtain ⟨next, wrote, same, again, calmed⟩ := intake.resumes willing disturbed nonempty
    exact ⟨next, wrote, same, rfl, again, calmed⟩

/-- All of the bytes that are written are taken. -/
theorem writeAll_takes (bytes : List UInt8) {writer : ω} (willing : intake.Willing writer) :
    ∃ next, ByteWriter.writeAll bytes writer = (.ok (), next) ∧
      intake.taken next = intake.taken writer ++ bytes ∧ intake.Willing next := by
  have landed := intake.quota.writeAll_lands bytes willing
  rcases written : ByteWriter.writeAll bytes writer with ⟨result, next⟩
  rw [written] at landed
  cases landed with
  | whole fits grown less again => exact ⟨next, rfl, grown, again⟩
  | cut room short grown => cases room

/-- Writing records takes their bytes and ends with one flush, whose result counts. -/
theorem writeRecords_takes (records : List Record) {writer : ω}
    (willing : intake.Willing writer) :
    ∃ last, intake.taken last = intake.taken writer ++ Record.concat records ∧
      intake.Willing last ∧ ByteWriter.writeRecords records writer =
        ((ByteWriter.flush last).1.map fun () => (Record.concat records).length,
          (ByteWriter.flush last).2) := by
  rcases intake.quota.writeRecords_lands records willing with
    ⟨last, landed, _, wrote⟩ | ⟨last, landed, _⟩
  · cases landed with
    | whole fits grown less again => exact ⟨last, grown, again, wrote⟩
  · cases landed with
    | cut room short grown => cases room

end Intake

namespace Device

/-- A device takes everything if it has room for all, takes a byte at least with every offer, and
is not interrupted twice in a row. -/
structure Willing (device : Device) : Prop where
  /-- There is no limit to what the device can hold. -/
  roomy : device.room = none
  /-- A piece has one byte at least. -/
  pieces : ∀ piece ∈ device.piece, 0 < piece
  /-- Not every offer is interrupted. -/
  pauses : ∀ every ∈ device.interruptEvery, 2 ≤ every

/-- A device that takes everything is steady. -/
theorem Willing.steady {device : Device} (willing : device.Willing) : device.Steady :=
  ⟨willing.pieces, willing.pauses⟩

/-- A device that takes everything is never full. -/
theorem Willing.free {device : Device} (willing : device.Willing) : device.free ≠ some 0 := by
  rw [Device.free, willing.roomy, Option.map_none]
  exact nofun

/-- Devices as writers that take everything. -/
def intake : Intake Device where
  taken device := device.data.toList
  Willing := Willing
  Calm device := device.isInterrupted (device.offers + 1) = false
  takes {device bytes} willing calm nonempty := by
    have positive := taken_pos willing.steady willing.free nonempty
    refine ⟨_, _, write_of_calm willing.free calm bytes, positive, ?_,
      ⟨willing.1, willing.2, willing.3⟩⟩
    rw [take_taken]
    simp
  resumes {device bytes} willing disturbed nonempty := by
    have interrupted : device.isInterrupted (device.offers + 1) = true := by
      simpa using disturbed
    refine ⟨{ device with offers := device.offers + 1 }, ?_, rfl,
      ⟨willing.1, willing.2, willing.3⟩, calm_of_interrupted willing.steady interrupted⟩
    exact if_pos interrupted
  flushes _ := rfl

end Device

end WordPairs
