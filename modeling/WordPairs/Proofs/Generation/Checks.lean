import WordPairs.Generation.Output

/-!
# Checks before drawing

`eachRecord` leaves where there is nothing to draw, and checks the list before it draws. `writeTo`
relies on it for both, while `generate` leaves and checks beforehand as well. The exit that follows
is then never taken and the check that follows never refuses: what the first check lets through is
let through again, and a list is only warned of when it is refused. So a warning is told once,
whichever way the records go.
-/

namespace WordPairs

namespace WordList

/-- A list with a short word is not refused, and nothing is told. -/
theorem check_of_short {list : WordList} (short : list.hasShortWord) :
    list.check = (.ok (), []) := if_pos short

/-- A list without a short word is refused, and a warning is told. -/
theorem check_of_long {list : WordList} (long : ¬list.hasShortWord) :
    list.check = (.error (.error (.noQualifyingWord 0)), [.noShortWord list.size]) := if_neg long

end WordList

namespace Generator

variable {σ : Type} [IndexSource σ]

section Checks

variable {ω : Type} {generator : Generator} {list : WordList} {count : UInt64}
  {receive : Record → ω → Except Failure Unit × ω} {source : σ} {receiver : ω}

/-- Where no record is to be drawn, the list is not looked at. -/
theorem eachRecord_of_none (none : count.toNat = 0) :
    generator.eachRecord list count receive source receiver = ⟨.ok (), (source, receiver), []⟩ :=
  if_pos (UInt64.toNat.inj none)

/-- A list that is refused is not drawn from. -/
theorem eachRecord_of_long (some : count.toNat ≠ 0) (long : ¬list.hasShortWord) :
    generator.eachRecord list count receive source receiver =
      ⟨.error (.error (.noQualifyingWord 0)), (source, receiver), [.noShortWord list.size]⟩ := by
  have nonzero : count ≠ 0 := fun zero => some (congrArg UInt64.toNat zero)
  rw [eachRecord, if_neg nonzero, WordList.check_of_long long]

/-- A list with a short word is drawn from, once that is told. -/
theorem eachRecord_of_short (some : count.toNat ≠ 0) (short : list.hasShortWord) :
    generator.eachRecord list count receive source receiver =
      ⟨(generator.drawEach list receive count.toNat source receiver).1,
        (generator.drawEach list receive count.toNat source receiver).2,
        [.generating count.toNat list.size generator.attempts]⟩ := by
  have nonzero : count ≠ 0 := fun zero => some (congrArg UInt64.toNat zero)
  rw [eachRecord, if_neg nonzero, WordList.check_of_short short]
  rfl

/-- The exit and the check that come beforehand make no difference to records that are collected.
Where one of them ends the work, so would the one that follows, without a draw and with the same
events; where both let the work go on, they tell nothing. -/
theorem generate_eq_eachRecord (generator : Generator) (list : WordList) (budget : UInt64)
    (source : σ) :
    let outcome := generator.eachRecord list (recordCount budget) collect source #[]
    generator.generate list budget source =
      ⟨outcome.result.map fun () => outcome.state.2.toList, outcome.state.1, outcome.events⟩ := by
  intro outcome
  by_cases none : (recordCount budget).toNat = 0
  · have idle : outcome = _ := eachRecord_of_none none
    rw [idle]
    exact if_pos (UInt64.toNat.inj none)
  · have nonzero : recordCount budget ≠ 0 := fun zero => none (congrArg UInt64.toNat zero)
    simp only [generate, if_neg nonzero]
    by_cases short : list.hasShortWord
    · rw [WordList.check_of_short short]
      rfl
    · have refused : outcome = _ := eachRecord_of_long none short
      rw [WordList.check_of_long short, refused]
      rfl

end Checks

end Generator

end WordPairs
