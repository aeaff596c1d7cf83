import WordPairs.Proofs.Generation.Blocks

/-!
# What a run depends on

Drawing words asks nothing of a source but its next index. So a run comes to the same end on any two
sources that hand out the same indices: it takes all of them and ends in a value or an error, or it
takes all of them and stops at one more draw that is a fault. This holds of one draw, it is kept
where a computation goes on with the result of another, and so it holds of a whole run.
-/

namespace WordPairs

/-- A computation that can be carried out on every source of indices. -/
abbrev Computation (α : Type) : Type 1 := ∀ (τ : Type) [IndexSource τ], τ → α × τ

/-- The fault that a failure is, if it is one. -/
def Failure.fault? : Failure → Option Fault
  | fault cause => some cause
  | error _ => none

/-- The fault that a result fails by, if it does. -/
def faultOf {α : Type} : Except Failure α → Option Fault
  | .error failure => failure.fault?
  | .ok _ => none

/-- The fault that a result fails by is in the result. -/
theorem faultOf_eq_some_iff {α : Type} {result : Except Failure α} {cause : Fault} :
    faultOf result = some cause ↔ result = .error (.fault cause) := by
  rcases result with (_ | _) | _ <;> simp [faultOf, Failure.fault?]

/-- A result that fails by no fault is none. -/
theorem faultOf_eq_none_iff {α : Type} {result : Except Failure α} :
    faultOf result = none ↔ ∀ cause, result ≠ .error (.fault cause) := by
  rw [Option.eq_none_iff_forall_ne_some]
  simp only [ne_eq, faultOf_eq_some_iff]

namespace WordList

variable {σ : Type} [IndexSource σ]

/-- A source hands out indices, the draw behind them is a fault, and that leaves the source. -/
def Stops (list : WordList) (source : σ) (indices : List (Fin list.size)) (cause : Fault)
    (last : σ) : Prop :=
  ∃ middle, Hands list.size source indices middle ∧ list.draw middle = (.error cause, last)

/-- On a source, a computation takes indices and ends, or it takes indices and stops at a fault of
the draw behind them. On every other source of which the same is true it has the same result. -/
inductive Depends {α : Type} (list : WordList) (fault? : α → Option Fault) (run : Computation α)
    (source : σ) : Prop where
  /-- The computation ends in a result that is no fault. -/
  | ends (indices : List (Fin list.size)) (result : α) (last : σ) :
    Hands list.size source indices last → fault? result = none →
      (∀ {τ : Type} [IndexSource τ] {other final : τ}, Hands list.size other indices final →
        run τ other = (result, final)) → Depends list fault? run source
  /-- The computation stops at a fault. -/
  | stops (indices : List (Fin list.size)) (result : α) (cause : Fault) (last : σ) :
    list.Stops source indices cause last → fault? result = some cause →
      (∀ {τ : Type} [IndexSource τ] {other final : τ}, list.Stops other indices cause final →
        run τ other = (result, final)) → Depends list fault? run source

variable {list : WordList}

/-- A source that stops at once has a first draw that is a fault. -/
theorem stops_nil {source last : σ} {cause : Fault} :
    list.Stops source [] cause last ↔ list.draw source = (.error cause, last) := by
  constructor
  · rintro ⟨_, handed, broke⟩
    cases handed
    exact broke
  · intro broke
    exact ⟨source, .nil source, broke⟩

/-- A source that stops behind some indices stops behind the last of them. -/
theorem stops_append {source last : σ} {front back : List (Fin list.size)} {cause : Fault} :
    list.Stops source (front ++ back) cause last ↔
      ∃ middle, Hands list.size source front middle ∧ list.Stops middle back cause last := by
  constructor
  · rintro ⟨reached, handed, broke⟩
    obtain ⟨middle, first, second⟩ := hands_append.1 handed
    exact ⟨middle, first, reached, second, broke⟩
  · rintro ⟨middle, first, reached, second, broke⟩
    exact ⟨reached, hands_append.2 ⟨middle, first, second⟩, broke⟩

/-- Tracing makes no difference to the word that is drawn and to the source that is left. -/
theorem draw_traced (list : WordList) (traced : Traced σ) :
    ∃ handed, list.draw traced =
      ((list.draw traced.source).1, ⟨(list.draw traced.source).2, handed⟩) := by
  have next : IndexSource.next list.size traced =
      (IndexSource.next list.size traced.source).map fun drawn =>
        (drawn.1, ⟨drawn.2, traced.handed ++ [drawn.1]⟩) := rfl
  rw [draw, draw, next]
  rcases IndexSource.next list.size traced.source with _ | ⟨_, _⟩ <;> exact ⟨_, rfl⟩

/-- A source that stops behind some indices stops there as well when it is traced. -/
theorem stops_traced {source last : σ} {indices : List (Fin list.size)} {cause : Fault}
    (stops : list.Stops source indices cause last) :
    ∃ handed, list.Stops (Traced.start source) indices cause ⟨last, handed⟩ := by
  obtain ⟨middle, taken, broke⟩ := stops
  obtain ⟨handed, drawn⟩ := list.draw_traced ⟨middle, [] ++ indices.map Fin.val⟩
  rw [broke] at drawn
  exact ⟨handed, _, Traced.hands taken [], drawn⟩

namespace Depends

variable {α β : Type} {fault? : α → Option Fault} {broke? : β → Option Fault}

/-- Tracing makes no difference to the result of a computation and to the source that it leaves. -/
theorem traced_eq {run : Computation α} {source : σ} (depends : list.Depends fault? run source) :
    ∃ handed, run (Traced σ) (Traced.start source) =
      ((run σ source).1, ⟨(run σ source).2, handed⟩) := by
  cases depends with
  | ends indices result last handed none same =>
    rw [same handed]
    exact ⟨_, same (Traced.hands handed [])⟩
  | stops indices result cause last stops failed same =>
    obtain ⟨handed, again⟩ := stops_traced stops
    rw [same stops]
    exact ⟨handed, same again⟩

/-- A result that is no fault takes no index. -/
theorem result {run : Computation α} (value : α) (faultless : fault? value = none)
    (returned : ∀ {τ : Type} [IndexSource τ] (other : τ), run τ other = (value, other))
    (source : σ) : list.Depends fault? run source := by
  refine .ends [] value source (.nil source) faultless fun {_ _ _ _} handed => ?_
  cases handed
  exact returned _

/-- A computation that goes on with the result of another takes the indices of both, unless the
first of the two stops. -/
theorem bind {run : Computation β} {first : Computation α} {source : σ}
    (head : list.Depends fault? first source)
    (stop : ∀ value cause, fault? value = some cause → ∃ result, broke? result = some cause ∧
      ∀ {τ : Type} [IndexSource τ] {other last : τ}, first τ other = (value, last) →
        run τ other = (result, last))
    (goOn : ∀ value, fault? value = none → ∃ next : Computation β,
      (∀ {τ : Type} [IndexSource τ] {other last : τ}, first τ other = (value, last) →
        run τ other = next τ last) ∧ ∀ middle : σ, list.Depends broke? next middle) :
    list.Depends broke? run source := by
  cases head with
  | stops indices value cause last stops failed same =>
    obtain ⟨result, broke, ended⟩ := stop value cause failed
    exact .stops indices result cause last stops broke fun stops => ended (same stops)
  | ends indices value middle handed faultless same =>
    obtain ⟨next, follows, rest⟩ := goOn value faultless
    cases rest middle with
    | ends others result last rest faultless further =>
      refine .ends (indices ++ others) result last (hands_append.2 ⟨middle, handed, rest⟩)
        faultless fun {_ _ _ _} all => ?_
      obtain ⟨_, front, back⟩ := hands_append.1 all
      rw [follows (same front)]
      exact further back
    | stops others result cause last rest broke further =>
      refine .stops (indices ++ others) result cause last
        (stops_append.2 ⟨middle, handed, rest⟩) broke fun {_ _ _ _} all => ?_
      obtain ⟨_, front, back⟩ := stops_append.1 all
      rw [follows (same front)]
      exact further back

/-- What is made of a result depends on the same indices, if it is the same fault or none. -/
theorem map {run : Computation β} {first : Computation α} {source : σ}
    (head : list.Depends fault? first source) (change : α → β)
    (follows : ∀ {τ : Type} [IndexSource τ] (other : τ),
      run τ other = (change (first τ other).1, (first τ other).2))
    (same : ∀ value, broke? (change value) = fault? value) : list.Depends broke? run source := by
  have changed {τ : Type} [IndexSource τ] {value : α} {other last : τ}
      (ended : first τ other = (value, last)) : run τ other = (change value, last) := by
    rw [follows, ended]
  refine head.bind (fun value cause failed => ⟨change value, (same value).trans failed, changed⟩)
    fun value faultless => ⟨fun _ _ other => (change value, other), changed, fun middle => ?_⟩
  exact .result (change value) ((same value).trans faultless) (fun _ => rfl) middle

end Depends

/-- A draw takes an index, or it is a fault. -/
theorem draw_depends (list : WordList) (source : σ) :
    list.Depends (fun drawn => faultOf (drawn.mapError Failure.fault)) (fun _ _ => list.draw)
      source := by
  cases drawn : IndexSource.next list.size source with
  | error cause =>
    have broke : list.draw source = (.error cause, source) := by rw [draw, drawn]
    exact .stops [] _ cause source (stops_nil.2 broke) rfl fun stops => stops_nil.1 stops
  | ok handed =>
    obtain ⟨index, last⟩ := handed
    by_cases inside : index < list.size
    · refine .ends [⟨index, inside⟩] (.ok (list.wordAt ⟨index, inside⟩)) last
        (.cons drawn (.nil last)) rfl fun {_ _ _ _} handed => ?_
      cases handed with
      | cons drawn none =>
        cases none
        exact draw_of_next drawn
    · have absent : list.get? index = none := Array.getElem?_eq_none (Nat.le_of_not_lt inside)
      have broke : list.draw source = (.error (.indexOutOfBounds list.size index), last) := by
        rw [draw, drawn]
        simp only [word, absent]
      exact .stops [] _ _ last (stops_nil.2 broke) rfl fun stops => stops_nil.1 stops

/-- Drawing a short word depends on the indices that it takes. -/
theorem drawShort_depends (list : WordList) (attempts left : Nat) (source : σ) :
    list.Depends faultOf (fun _ _ => list.drawShort attempts left) source := by
  induction left generalizing source with
  | zero =>
    let failed : Except Failure Word := .error (.error (.noQualifyingWord attempts))
    exact .result failed rfl (fun _ => rfl) source
  | succ left ih =>
    refine (list.draw_depends source).bind ?_ ?_
    · rintro (fault | _) cause failed
      · refine ⟨.error (.fault fault), failed, fun {_ _ _ _} drawn => ?_⟩
        rw [drawShort, drawn]
      · contradiction
    · rintro (_ | word) faultless
      · contradiction
      · by_cases short : isShort word
        · refine ⟨fun _ _ other => (.ok word, other), fun {_ _ _ _} drawn => ?_, ?_⟩
          · rw [drawShort, drawn]
            exact if_pos short
          · exact .result (Except.ok word) rfl fun _ => rfl
        · refine ⟨fun _ _ => list.drawShort attempts left, fun {_ _ _ _} drawn => ?_, ih⟩
          rw [drawShort, drawn]
          exact if_neg short

end WordList

namespace Generator

variable {σ : Type} [IndexSource σ] (generator : Generator) (list : WordList)

/-- Drawing a record depends on the indices that it takes. -/
theorem drawRecord_depends (source : σ) :
    list.Depends faultOf (fun _ _ => generator.drawRecord list) source := by
  refine (list.drawShort_depends generator.attempts generator.attempts source).bind ?_ ?_
  · rintro (failure | _) cause failed
    · refine ⟨.error failure, failed, fun {_ _ _ _} picked => ?_⟩
      rw [drawRecord, picked]
    · contradiction
  · rintro (failure | first) faultless
    · refine ⟨fun _ _ other => (.error failure, other), fun {_ _ _ _} picked => ?_, ?_⟩
      · rw [drawRecord, picked]
      · exact .result (Except.error failure : Except Failure Record) faultless fun _ => rfl
    · -- The second word is drawn without a condition, and makes the record.
      let record (drawn : Except Fault Word) : Except Failure Record :=
        (drawn.mapError Failure.fault).map (Record.encode first)
      refine ⟨fun _ _ other => (record (list.draw other).1, (list.draw other).2),
        fun {_ _ _ next} picked => ?_, fun middle => ?_⟩
      · rw [drawRecord, picked]
        dsimp only
        rcases list.draw next with ⟨_ | _, _⟩ <;> rfl
      · refine (list.draw_depends middle).map record (fun _ => rfl) ?_
        rintro (_ | _) <;> rfl

section Receivers

variable {ω : Type} (receive : Record → ω → Except Failure Unit × ω)
  (harmless : ∀ record receiver, faultOf (receive record receiver).1 = none)
include harmless

/-- Drawing records for a receiver that is never at fault depends on the indices that it takes. -/
theorem drawEach_depends (count : Nat) (source : σ) (receiver : ω) :
    list.Depends (fun ended => faultOf ended.1)
      (fun _ _ other =>
        let ended := generator.drawEach list receive count other receiver
        ((ended.1, ended.2.2), ended.2.1)) source := by
  induction count generalizing source receiver with
  | zero => exact .result (Except.ok (), receiver) rfl (fun _ => rfl) source
  | succ count ih =>
    refine (generator.drawRecord_depends list source).bind ?_ ?_
    · rintro (failure | _) cause failed
      · refine ⟨(.error failure, receiver), failed, fun {_ _ _ _} drawn => ?_⟩
        simp only [drawEach, drawn]
      · contradiction
    · rintro (failure | record) faultless
      · refine ⟨fun _ _ other => ((.error failure, receiver), other),
          fun {_ _ _ _} drawn => ?_, ?_⟩
        · simp only [drawEach, drawn]
        · exact .result (Except.error failure, receiver) faultless fun _ => rfl
      · have taken := harmless record receiver
        rcases received : receive record receiver with ⟨failure | _, next⟩
        · rw [received] at taken
          refine ⟨fun _ _ other => ((.error failure, next), other), fun {_ _ _ _} drawn => ?_, ?_⟩
          · simp only [drawEach, drawn, received]
          · exact .result (Except.error failure, next) taken fun _ => rfl
        · refine ⟨_, fun {_ _ _ _} drawn => ?_, fun middle => ih middle next⟩
          simp only [drawEach, drawn, received]

/-- So does drawing them for a list that is checked first. -/
theorem eachRecord_depends (count : UInt64) (source : σ) (receiver : ω) :
    list.Depends (fun ended => faultOf ended.1)
      (fun _ _ other =>
        let outcome := generator.eachRecord list count receive other receiver
        ((outcome.result, outcome.state.2), outcome.state.1)) source := by
  by_cases none : count.toNat = 0
  · simp only [eachRecord_of_none none]
    exact .result (Except.ok (), receiver) rfl (fun _ => rfl) source
  · by_cases short : list.hasShortWord
    · simp only [eachRecord_of_short none short]
      exact generator.drawEach_depends list receive harmless _ source receiver
    · simp only [eachRecord_of_long none short]
      let refused : Except Failure Unit := .error (.error (.noQualifyingWord 0))
      exact .result (refused, receiver) rfl (fun _ => rfl) source

end Receivers

/-- The records of a budget depend on the indices that they take. -/
theorem generate_depends (budget : UInt64) (source : σ) :
    list.Depends faultOf
      (fun _ _ other =>
        let outcome := generator.generate list budget other
        (outcome.result, outcome.state)) source := by
  refine (generator.eachRecord_depends list collect (fun _ _ => rfl) (recordCount budget) source
    #[]).map (fun ended => ended.1.map fun () => ended.2.toList) ?_ ?_
  · intro _ _ other
    rw [generate_eq_eachRecord]
  · rintro ⟨(_ | _) | _, _⟩ <;> rfl

/-- The bytes that are written for a budget depend on the indices that their records take. -/
theorem writeTo_depends {ω : Type} [ByteWriter ω] (budget : UInt64) (source : σ) (writer : ω) :
    list.Depends (fun ended => faultOf ended.1)
      (fun _ _ other =>
        let outcome := generator.writeTo list budget other writer
        ((outcome.result, outcome.state.2), outcome.state.1)) source := by
  have harmless (record : Record) (writer : ω) :
      faultOf (ByteWriter.writeRecord record writer).1 = none := by
    rw [ByteWriter.result_writeRecord]
    cases (ByteWriter.writeAll record.bytes writer).1 <;> rfl
  refine (generator.eachRecord_depends list ByteWriter.writeRecord harmless (recordCount budget)
    source writer).map (fun ended => (ended.1.map fun () => recordCount budget * 32, ended.2)) ?_ ?_
  · intro _ _ other
    rw [writeTo_eq_eachRecord]
  · rintro ⟨(_ | _) | _, _⟩ <;> rfl

end Generator

end WordPairs
