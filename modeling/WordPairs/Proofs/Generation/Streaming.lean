import WordPairs.Draw.Replay
import WordPairs.Proofs.Generation.Draft

/-!
# Writing and returning records

Records can be returned as a list or written as they are drawn. Both ways draw the same records from
the same source, tell the same events and fail in the same way. A failure keeps the records that
were completed from being returned, but not from being written.
-/

namespace WordPairs.Generator

variable {σ : Type} [IndexSource σ]

/-- A list of records and the stream of their bytes agree. Success is the same for both: the bytes
written are those of the records returned, which writing the records at once would bring in as
well. Failure is the same for both: the bytes written are those of the records completed before,
each of them whole. Source and events are always the same, and the writer is changed by offers
alone, so that it is never flushed. -/
theorem writeTo_agrees_with_generate {ω : Type} [ByteWriter ω] (intake : Intake ω)
    (generator : Generator) (list : WordList) (budget : UInt64) (source : σ) (writer : ω)
    (willing : intake.Willing writer) :
    let generated := generator.generate list budget source
    let written := generator.writeTo list budget source writer
    written.state.1 = generated.state ∧ written.events = generated.events ∧
      (∀ property : ω → Prop,
        (∀ bytes other, property other → property (ByteWriter.write bytes other).2) →
          property writer → property written.state.2) ∧
      (∀ records, generated.result = .ok records →
        (∃ total, written.result = .ok total ∧ total.toNat = 32 * records.length) ∧
          intake.taken written.state.2 = intake.taken writer ++ Record.concat records ∧
          intake.taken written.state.2 =
            intake.taken (ByteWriter.writeRecords records writer).2) ∧
      (∀ failure, generated.result = .error failure →
        written.result = .error failure ∧
          ∃ done, intake.taken written.state.2 = intake.taken writer ++ Record.concat done ∧
            generator.BrokeAfter list budget source done failure generated.state) := by
  intro generated written
  obtain ⟨last, wrote, total, _⟩ := writeTo_eq_draftFor intake generator list budget source willing
  have returned : generated = _ := generate_eq_draftFor generator list budget source
  have wrote : written = _ := wrote
  rw [returned, wrote]
  refine ⟨rfl, rfl, fun property kept holds => ?_, fun records succeeded => ?_,
    fun failure failed => ?_⟩
  · obtain ⟨other, again, _, _, same⟩ := writeTo_eq_draftFor (intake.keeping property kept)
      generator list budget source ⟨willing, holds⟩
    have ends := congrArg (·.state.2) (wrote.symm.trans again)
    exact ends ▸ same
  · cases ended : (generator.draftFor list budget source).result with
    | error => simp [ended, Except.map] at succeeded
    | ok =>
      simp only [ended, Except.map, Except.ok.injEq] at succeeded
      subst succeeded
      obtain ⟨flushed, all, still, together⟩ :=
        intake.writeRecords_takes (generator.draftFor list budget source).records willing
      refine ⟨⟨_, rfl, ?_⟩, total, ?_⟩
      · rw [toNat_recordCount_mul, length_draftFor_of_ok ended]
      · rw [together, intake.flushes still, all, total]
  · cases ended : (generator.draftFor list budget source).result with
    | ok => simp [ended, Except.map] at failed
    | error cause =>
      simp only [ended, Except.map, Except.error.injEq] at failed
      subst failed
      exact ⟨rfl, _, total, draftFor_of_error ended⟩

/-- A device that takes five bytes at a time and is interrupted every other time gets the record
that was completed before two draws in a row gave a long word, and is not flushed. -/
theorem writeTo_agrees_with_generate_broken :
    let list : WordList := ⟨#[List.replicate 17 97, [99, 97, 116]], by decide⟩
    let source := Replay.ofList [1, 0, 0, 0]
    let device : Device := { Device.unlimited with piece := some 5, interruptEvery := some 2 }
    let written := (withAttempts 2).writeTo list 96 source device
    Device.intake.Willing device ∧ written.result = .error (.error (.noQualifyingWord 2)) ∧
      written.state.1 = ((withAttempts 2).generate list 96 source).state ∧
      written.state.2.flushes = 0 := by
  intro list source device written
  have willing : Device.intake.Willing device := ⟨rfl, by decide, by decide⟩
  obtain ⟨sources, _, kept, _, failures⟩ :=
    writeTo_agrees_with_generate Device.intake (withAttempts 2) list 96 source device willing
  have broken : ((withAttempts 2).generate list 96 source).result =
      .error (.error (.noQualifyingWord 2)) := by cbv
  refine ⟨willing, (failures _ broken).1, sources, ?_⟩
  exact kept (·.flushes = 0)
    (fun bytes other none => (Device.flushes_write bytes other).trans none) rfl

end WordPairs.Generator
