import WordPairs.Draw.Replay
import WordPairs.Proofs.Generation.Draft

/-!
# Generating records in parts

A drawing can be stopped behind any of its records and taken up again from the source that it left.
The records of both parts are those of the whole, and a part that fails is where the whole fails.
What a budget pays for beyond its whole records is dropped in each part, and a list that is refused
is refused by the first part that pays for a record, so that budgets can be parted as their records
can.
-/

namespace WordPairs

namespace Draft

variable {σ : Type}

/-- Goes on from the source that a drawing left, if the drawing succeeded. -/
def andThen (draft : Draft σ) (next : σ → Draft σ) : Draft σ :=
  match draft.result with
  | .ok () =>
    let rest := next draft.source
    ⟨draft.records ++ rest.records, rest.result, rest.source⟩
  | .error _ => draft

/-- Behind a drawing that succeeded come the records of the next. -/
theorem andThen_of_ok {draft : Draft σ} (succeeded : draft.result = .ok ()) (next : σ → Draft σ) :
    draft.andThen next =
      ⟨draft.records ++ (next draft.source).records, (next draft.source).result,
        (next draft.source).source⟩ := by
  rw [andThen, succeeded]

/-- Behind a drawing that failed nothing is drawn. -/
theorem andThen_of_error {draft : Draft σ} {failure : Failure}
    (failed : draft.result = .error failure) (next : σ → Draft σ) :
    draft.andThen next = draft := by
  rw [andThen, failed]

/-- A record in front of a drawing is in front of what the drawing goes on with. -/
theorem andThen_cons (record : Record) (draft : Draft σ) (next : σ → Draft σ) :
    andThen ⟨record :: draft.records, draft.result, draft.source⟩ next =
      ⟨record :: (draft.andThen next).records, (draft.andThen next).result,
        (draft.andThen next).source⟩ := by
  cases ended : draft.result with
  | ok =>
    rw [andThen_of_ok ended, andThen_of_ok rfl]
    rfl
  | error failure =>
    rw [andThen_of_error ended, andThen_of_error rfl, ended]

end Draft

namespace Generator

variable {σ : Type} [IndexSource σ] {generator : Generator} {list : WordList}

/-- Drawing so many records and then so many more is drawing all of them. -/
theorem draft_add (first second : Nat) (source : σ) :
    generator.draft list (first + second) source =
      (generator.draft list first source).andThen (generator.draft list second) := by
  induction first generalizing source with
  | zero =>
    rw [Nat.zero_add, draft, Draft.andThen_of_ok rfl]
    rfl
  | succ first ih =>
    -- The first record is drawn by the whole and by the first part alike.
    rw [Nat.add_right_comm, draft, draft]
    rcases drawn : generator.drawRecord list source with ⟨failure | record, next⟩
    · exact (Draft.andThen_of_error rfl _).symm
    · dsimp only
      rw [ih next, Draft.andThen_cons]

/-- The draft of a budget depends on no more than the number of its records. -/
theorem draftFor_congr {budget other : UInt64}
    (same : (recordCount budget).toNat = (recordCount other).toNat) (source : σ) :
    generator.draftFor list budget source = generator.draftFor list other source := by
  rw [draftFor, draftFor, same]

/-- The draft of a budget is that of a part of it and then that of the rest. -/
theorem draftFor_add {first second whole : UInt64}
    (adds : (recordCount whole).toNat = (recordCount first).toNat + (recordCount second).toNat)
    (source : σ) :
    generator.draftFor list whole source =
      (generator.draftFor list first source).andThen (generator.draftFor list second) := by
  by_cases short : list.hasShortWord
  · have next : (generator.draftFor list second : σ → Draft σ) =
        generator.draft list (recordCount second).toNat := by
      funext middle
      exact draftFor_of_admitted (.inr short)
    rw [next, draftFor_of_admitted (.inr short), draftFor_of_admitted (.inr short), adds, draft_add]
  · by_cases empty : (recordCount first).toNat = 0
    · have begun : generator.draftFor list first source = ⟨[], .ok (), source⟩ := by
        rw [draftFor_of_admitted (.inl empty), empty, draft]
      rw [empty, Nat.zero_add] at adds
      rw [begun, Draft.andThen_of_ok rfl]
      exact draftFor_congr adds source
    · -- The first part pays for a record, so that it is refused as the whole is.
      have paid : (recordCount whole).toNat ≠ 0 := by omega
      have failed : (generator.draftFor list first source).result =
          .error (.error (.noQualifyingWord 0)) := by
        rw [draftFor_of_refused (not_or.2 ⟨empty, short⟩)]
      rw [Draft.andThen_of_error failed, draftFor_of_refused (not_or.2 ⟨paid, short⟩),
        draftFor_of_refused (not_or.2 ⟨empty, short⟩)]

/-- The records of a budget begin with those of every smaller one, if they can be drawn. -/
theorem draftFor_of_le {smaller larger : UInt64} {source : σ} (ordered : smaller ≤ larger)
    (succeeded : (generator.draftFor list larger source).result = .ok ()) :
    let draft := generator.draftFor list smaller source
    draft.result = .ok () ∧ draft.records <+: (generator.draftFor list larger source).records := by
  intro draft
  have fewer : (recordCount smaller).toNat ≤ (recordCount larger).toNat :=
    Nat.div_le_div_right (UInt64.le_iff_toNat_le.1 ordered)
  obtain ⟨missing, adds⟩ := Nat.exists_eq_add_of_le fewer
  have fits : 32 * missing < Word64.modulus := by
    have bound : larger.toNat < Word64.modulus := larger.toNat_lt
    have paid : (recordCount larger).toNat = larger.toNat / 32 := rfl
    omega
  have parted : generator.draftFor list larger source =
      draft.andThen (generator.draftFor list (UInt64.ofNat (32 * missing))) := by
    apply draftFor_add
    rw [toNat_recordCount_ofNat fits, adds]
  rw [parted] at succeeded ⊢
  cases ended : draft.result with
  | ok =>
    rw [Draft.andThen_of_ok ended]
    exact ⟨rfl, List.prefix_append _ _⟩
  | error failure =>
    rw [Draft.andThen_of_error ended, ended] at succeeded
    contradiction

/-- Generating the records of a budget in two parts, the second from the source that the first has
left, is generating them at once. If both parts succeed, their records one behind the other are
those of the whole; if not, the whole fails as the first part that fails; and the source ends in the
same state. So the records of a smaller budget are the first of those of a larger one. -/
theorem generate_in_parts (generator : Generator) (list : WordList) (first second whole : UInt64)
    (source : σ)
    (adds : (recordCount whole).toNat = (recordCount first).toNat + (recordCount second).toNat) :
    let begun := generator.generate list first source
    let rest := generator.generate list second begun.state
    let outcome := generator.generate list whole source
    (∀ front back, begun.result = .ok front → rest.result = .ok back →
      outcome.result = .ok (front ++ back) ∧ outcome.state = rest.state) ∧
    (∀ front failure, begun.result = .ok front → rest.result = .error failure →
      outcome.result = .error failure ∧ outcome.state = rest.state) ∧
    (∀ failure, begun.result = .error failure →
      outcome.result = .error failure ∧ outcome.state = begun.state) ∧
    ∀ smaller ≤ whole, ∀ records, outcome.result = .ok records →
      ∃ front, (generator.generate list smaller source).result = .ok front ∧ front <+: records := by
  intro begun rest outcome
  have left : begun.state = _ := state_generate generator list first source
  have last : rest.state = _ := state_generate generator list second begun.state
  have ends : outcome.state = _ := state_generate generator list whole source
  rw [left] at last
  rw [draftFor_add adds] at ends
  refine ⟨fun front back returned others => ?_, fun front failure returned failed => ?_,
    fun failure failed => ?_, fun smaller ordered records returned => ?_⟩
  · obtain ⟨succeeded, rfl⟩ := generate_eq_ok_iff.1 returned
    obtain ⟨again, rfl⟩ := generate_eq_ok_iff.1 others
    rw [left] at again ⊢
    rw [Draft.andThen_of_ok succeeded] at ends
    refine ⟨generate_eq_ok_iff.2 ?_, ends.trans last.symm⟩
    rw [draftFor_add adds, Draft.andThen_of_ok succeeded]
    exact ⟨again, rfl⟩
  · obtain ⟨succeeded, _⟩ := generate_eq_ok_iff.1 returned
    have failed := generate_eq_error_iff.1 failed
    rw [left] at failed
    rw [Draft.andThen_of_ok succeeded] at ends
    refine ⟨generate_eq_error_iff.2 ?_, ends.trans last.symm⟩
    rw [draftFor_add adds, Draft.andThen_of_ok succeeded]
    exact failed
  · have failed := generate_eq_error_iff.1 failed
    rw [Draft.andThen_of_error failed] at ends
    refine ⟨generate_eq_error_iff.2 ?_, ends.trans left.symm⟩
    rw [draftFor_add adds, Draft.andThen_of_error failed]
    exact failed
  · obtain ⟨succeeded, rfl⟩ := generate_eq_ok_iff.1 returned
    obtain ⟨reached, begins⟩ := draftFor_of_le ordered succeeded
    exact ⟨_, generate_eq_ok_iff.2 ⟨reached, rfl⟩, begins⟩

/-- Budgets of 40 and of 63 bytes pay for one record each, as many as one of 64 bytes. Behind the
first part two long words are drawn, so that the second part fails, and so does the whole. -/
theorem generate_in_parts_broken :
    let list : WordList := ⟨#[List.replicate 17 97, [99, 97, 116]], by decide⟩
    let source := Replay.ofList [0, 1, 0, 0, 0]
    let begun := (withAttempts 2).generate list 40 source
    let rest := (withAttempts 2).generate list 63 begun.state
    let outcome := (withAttempts 2).generate list 64 source
    (recordCount 64).toNat = (recordCount 40).toNat + (recordCount 63).toNat ∧
      begun.result = .ok [Record.encode [99, 97, 116] (List.replicate 17 97)] ∧
      outcome.result = .error (.error (.noQualifyingWord 2)) ∧ outcome.state = rest.state := by
  intro list source begun rest outcome
  have adds : (recordCount 64).toNat = (recordCount 40).toNat + (recordCount 63).toNat := by decide
  have one : begun.result = .ok [Record.encode [99, 97, 116] (List.replicate 17 97)] :=
    generate_eq_ok_iff.2 ⟨by cbv, by cbv⟩
  have left : begun.state = ((withAttempts 2).draftFor list 40 source).source := state_generate ..
  have broken : rest.result = .error (.error (.noQualifyingWord 2)) := by
    rw [generate_eq_error_iff, left]
    cbv
  have parts := generate_in_parts (withAttempts 2) list 40 63 64 source adds
  exact ⟨adds, one, parts.2.1 _ _ one broken⟩

end Generator

end WordPairs
