import WordPairs.Draw.Replay
import WordPairs.Proofs.Generation.Draft

/-!
# Writing records until the writer is full

Drawing and writing can both fail. A writer that has room for all the records which can be drawn
gets these, and the drawing ends as it ends for any such writer. A writer without that room gets as
many bytes as it has room for, whole records or not, and the drawing ends with the record that does
not fit. In which pieces the bytes are taken, and how often an offer is interrupted, changes
nothing.
-/

namespace WordPairs.Generator

variable {σ : Type} [IndexSource σ]

section Beginning

variable {generator : Generator} {list : WordList} {budget : UInt64} {source next : σ}
  {front : List Record}

/-- No more records are drawn than the budget pays for. -/
theorem length_draftFor_le :
    (generator.draftFor list budget source).records.length ≤ (recordCount budget).toNat := by
  by_cases admitted : (recordCount budget).toNat = 0 ∨ list.hasShortWord
  · rw [draftFor_of_admitted admitted]
    cases ended : (generator.draft list (recordCount budget).toNat source).result with
    | ok => exact Nat.le_of_eq (length_draft_of_ok ended)
    | error failure =>
      obtain ⟨_, _, fewer, _⟩ := draft_of_error ended
      exact Nat.le_of_lt fewer
  · rw [draftFor_of_refused admitted]
    exact Nat.zero_le _

/-- A list that records were drawn from has a short word. -/
theorem hasShortWord_of_draftFor (drawn : (generator.draftFor list budget source).records ≠ []) :
    list.hasShortWord := by
  by_cases short : list.hasShortWord
  · exact short
  · exfalso
    apply drawn
    by_cases empty : (recordCount budget).toNat = 0
    · rw [draftFor_of_admitted (.inl empty), empty]
      rfl
    · rw [draftFor_of_refused (not_or.2 ⟨empty, short⟩)]

/-- The records that a draft begins with are the records of a budget that pays for just these. -/
theorem generate_of_beginning (nonempty : front ≠ [])
    (begins : front <+: (generator.draftFor list budget source).records)
    (reached : generator.draft list front.length source = ⟨front, .ok (), next⟩) :
    let begun := generator.generate list (UInt64.ofNat (32 * front.length)) source
    begun.result = .ok front ∧ begun.state = next := by
  have drawn : (generator.draftFor list budget source).records ≠ [] := by
    intro none
    rw [none] at begins
    exact nonempty (List.prefix_nil.1 begins)
  have short : list.hasShortWord := hasShortWord_of_draftFor drawn
  have fits : 32 * front.length < Word64.modulus := by
    have bound : budget.toNat < Word64.modulus := budget.toNat_lt
    have few : front.length ≤ (recordCount budget).toNat :=
      Nat.le_trans begins.length_le length_draftFor_le
    have paid : (recordCount budget).toNat = budget.toNat / 32 := rfl
    omega
  have same : generator.draftFor list (UInt64.ofNat (32 * front.length)) source =
      ⟨front, .ok (), next⟩ := by
    rw [draftFor_of_admitted (.inr short), toNat_recordCount_ofNat fits, reached]
  intro begun
  have made : begun = _ := generate_eq_draftFor generator list _ source
  rw [made, same]
  exact ⟨rfl, rfl⟩

end Beginning

/-- Writing without limits brings in the bytes of the draft. -/
theorem writeTo_unlimited (generator : Generator) (list : WordList) (budget : UInt64)
    (source : σ) :
    let draft := generator.draftFor list budget source
    let unlimited := generator.writeTo list budget source Device.unlimited
    unlimited.result = (draft.result.map fun () => recordCount budget * 32) ∧
      unlimited.state.1 = draft.source ∧
      unlimited.state.2.data.toList = Record.concat draft.records := by
  have willing : Device.intake.Willing Device.unlimited := ⟨rfl, nofun, nofun⟩
  obtain ⟨last, wrote, total, _⟩ :=
    writeTo_eq_draftFor Device.intake generator list budget source willing
  intro draft unlimited
  have wrote : unlimited = _ := wrote
  rw [wrote]
  exact ⟨rfl, rfl, total⟩

/-- Records that are returned are written if there is no limit. -/
theorem writeTo_unlimited_of_generate {generator : Generator} {list : WordList} {budget : UInt64}
    {source : σ} (records : List Record)
    (returned : (generator.generate list budget source).result = .ok records) :
    (generator.writeTo list budget source Device.unlimited).state.2.data.toList =
      Record.concat records := by
  obtain ⟨_, rfl⟩ := generate_eq_ok_iff.1 returned
  exact (writeTo_unlimited generator list budget source).2.2

section Room

variable {ω : Type} [ByteWriter ω] {quota : Quota ω} {generator : Generator} {list : WordList}
  {budget : UInt64} {source : σ} {writer : ω} {limit : Nat}

/-- A writer that has room for all that is due ends as one without limits. -/
theorem writeTo_of_fits (willing : quota.Willing writer) (room : quota.room writer = some limit) :
    let unlimited := generator.writeTo list budget source Device.unlimited
    let due := unlimited.state.2.data.toList
    let written := generator.writeTo list budget source writer
    due.length ≤ limit →
      written.result = unlimited.result ∧ written.state.1 = unlimited.state.1 ∧
        quota.taken written.state.2 = quota.taken writer ++ due := by
  intro unlimited due written fits
  obtain ⟨result, left, bytes⟩ := writeTo_unlimited generator list budget source
  have bytes : due = _ := bytes
  obtain ⟨last, landed, wrote⟩ | ⟨front, next, last, landed, _⟩ :=
    writeTo_lands quota generator list budget source willing
  · have wrote : written = _ := wrote
    cases landed with
    | whole fits grown less again =>
      rw [wrote, result, left, bytes]
      exact ⟨rfl, rfl, grown⟩
  · have short := landed.lt_length limit room
    rw [bytes] at fits
    omega

/-- A writer that has no room for all that is due is filled, and the drawing ends with the record
that does not fit. -/
theorem writeTo_of_short (willing : quota.Willing writer) (room : quota.room writer = some limit) :
    let unlimited := generator.writeTo list budget source Device.unlimited
    let due := unlimited.state.2.data.toList
    let written := generator.writeTo list budget source writer
    let begun := generator.generate list (UInt64.ofNat (32 * (limit / 32 + 1))) source
    limit < due.length →
      written.result = .error (.error (.io quota.whenFull.cause)) ∧
        quota.taken written.state.2 = quota.taken writer ++ due.take limit ∧
        ∃ records, begun.result = .ok records ∧ records.length = limit / 32 + 1 ∧
          Record.concat records <+: due ∧ written.state.1 = begun.state := by
  intro unlimited due written begun short
  obtain ⟨_, _, bytes⟩ := writeTo_unlimited generator list budget source
  have bytes : due = _ := bytes
  obtain ⟨last, landed, _⟩ | ⟨front, next, last, landed, count, begins, reached, wrote⟩ :=
    writeTo_lands quota generator list budget source willing
  · have fits := landed.length_le limit room
    rw [bytes] at short
    omega
  · have wrote : written = _ := wrote
    have count : front.length = limit / 32 + 1 := count limit room
    have nonempty : front ≠ [] := List.ne_nil_of_length_eq_add_one count
    obtain ⟨returned, left⟩ := generate_of_beginning nonempty begins reached
    rw [count] at returned left
    have filled : quota.taken last = quota.taken writer ++ due.take limit := by
      cases landed with
      | cut other short grown =>
        cases room.symm.trans other
        rw [bytes]
        exact grown
    have prefixes : Record.concat front <+: due := by
      obtain ⟨rest, whole⟩ := begins
      rw [bytes, ← whole, Record.concat_append]
      exact List.prefix_append _ _
    refine ⟨by rw [wrote], by rw [wrote]; exact filled, front, returned, count, prefixes, ?_⟩
    rw [wrote]
    exact left.symm

end Room

/-- Writing to a writer of limited room. What is due is what a writer without limits gets, which are
the records of the budget if all can be drawn. A writer with room for it gets it, and result and
source are those of the writer without limits. A writer without that room gets as much of it as it
has room for, the result tells what a full writer does, and the source has made the draws of the
records up to the first that does not fit, and no others. So two such writers with the same room
that do the same when they are full cannot be told apart, whatever the pieces in which they take
bytes and the offers that are interrupted. -/
theorem writeTo_until_full {ω : Type} [ByteWriter ω] (quota : Quota ω) (generator : Generator)
    (list : WordList) (budget : UInt64) (source : σ) (writer : ω) (limit : Nat)
    (willing : quota.Willing writer) (room : quota.room writer = some limit) :
    let unlimited := generator.writeTo list budget source Device.unlimited
    let due := unlimited.state.2.data.toList
    let written := generator.writeTo list budget source writer
    let begun := generator.generate list (UInt64.ofNat (32 * (limit / 32 + 1))) source
    (∀ records, (generator.generate list budget source).result = .ok records →
      due = Record.concat records) ∧
    (due.length ≤ limit →
      written.result = unlimited.result ∧ written.state.1 = unlimited.state.1 ∧
        quota.taken written.state.2 = quota.taken writer ++ due) ∧
    (limit < due.length →
      written.result = .error (.error (.io quota.whenFull.cause)) ∧
        quota.taken written.state.2 = quota.taken writer ++ due.take limit ∧
        ∃ records, begun.result = .ok records ∧ records.length = limit / 32 + 1 ∧
          Record.concat records <+: due ∧ written.state.1 = begun.state) ∧
    (∀ (rival : Quota ω) (other : ω), rival.Willing other → rival.room other = some limit →
      rival.whenFull = quota.whenFull →
      let again := generator.writeTo list budget source other
      again.result = written.result ∧ again.state.1 = written.state.1 ∧
        ∃ bytes, quota.taken written.state.2 = quota.taken writer ++ bytes ∧
          rival.taken again.state.2 = rival.taken other ++ bytes) := by
  intro unlimited due written begun
  refine ⟨writeTo_unlimited_of_generate, writeTo_of_fits willing room,
    writeTo_of_short willing room, ?_⟩
  intro rival other otherWilling otherRoom same again
  by_cases fits : due.length ≤ limit
  · obtain ⟨result, left, bytes⟩ := writeTo_of_fits willing room fits
    obtain ⟨otherResult, otherLeft, otherBytes⟩ := writeTo_of_fits otherWilling otherRoom fits
    exact ⟨otherResult.trans result.symm, otherLeft.trans left.symm, due, bytes, otherBytes⟩
  · have short : limit < due.length := Nat.lt_of_not_le fits
    obtain ⟨result, bytes, _, _, _, _, left⟩ := writeTo_of_short willing room short
    obtain ⟨otherResult, otherBytes, _, _, _, _, otherLeft⟩ :=
      writeTo_of_short otherWilling otherRoom short
    rw [same] at otherResult
    exact ⟨otherResult.trans result.symm, otherLeft.trans left.symm, due.take limit, bytes,
      otherBytes⟩

/-- Three records can be drawn before two draws in a row give a long word. A device with room for
70 bytes is full within the third, so that the fourth is not tried; it ends like one that takes five
bytes at a time and is interrupted every other time. -/
theorem writeTo_until_full_within :
    let list : WordList := ⟨#[List.replicate 17 97, [99, 97, 116]], by decide⟩
    let source := Replay.ofList [1, 0, 1, 0, 1, 1, 0, 0]
    let device : Device := { Device.unlimited with room := some 70, whenFull := .takesNothing }
    let slow : Device := { device with piece := some 5, interruptEvery := some 2 }
    let written := (withAttempts 2).writeTo list 128 source device
    let again := (withAttempts 2).writeTo list 128 source slow
    written.result = .error (.error (.io .writeZero)) ∧ written.state.2.data.size = 70 ∧
      written.state.1 = ((withAttempts 2).generate list 96 source).state ∧
      again.result = written.result ∧ again.state.1 = written.state.1 ∧
      again.state.2.data.toList = written.state.2.data.toList := by
  intro list source device slow written again
  have willing : (Device.quota .takesNothing).Willing device := ⟨⟨nofun, nofun⟩, rfl⟩
  have slowWilling : (Device.quota .takesNothing).Willing slow :=
    ⟨⟨by decide, by decide⟩, rfl⟩
  obtain ⟨_, _, cut, alike⟩ := writeTo_until_full (Device.quota .takesNothing) (withAttempts 2) list
    128 source device 70 willing rfl
  let unlimited := (withAttempts 2).writeTo list 128 source Device.unlimited
  have due : unlimited.state.2.data.toList.length = 96 := by decide +kernel
  have short : 70 < unlimited.state.2.data.toList.length := by
    rw [due]
    decide
  obtain ⟨result, bytes, _, _, _, _, left⟩ := cut short
  obtain ⟨sameResult, sameLeft, _, firstBytes, otherBytes⟩ :=
    alike (Device.quota .takesNothing) slow slowWilling rfl rfl
  have size : written.state.2.data.toList.length = 70 := by
    have filled : written.state.2.data.toList = [] ++ unlimited.state.2.data.toList.take 70 := bytes
    rw [filled, List.nil_append, List.length_take, due]
    rfl
  exact ⟨result, size, left, sameResult, sameLeft, otherBytes.trans firstBytes.symm⟩

end WordPairs.Generator
