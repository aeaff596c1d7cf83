import WordPairs.Proofs.Draw.Ranges
import WordPairs.Proofs.Generation.Dependence

/-!
# Replaying a run

The indices that a source hands out during a run are enough to repeat the run. A replay of them
hands out the same indices again: each is below the size already, so reducing it changes nothing,
and the run asks for no more of them than there are, so the replay never starts over. What depends
on the indices alone is then the same.
-/

namespace WordPairs

variable {σ : Type} [IndexSource σ]

/-- A replay that has handed out the front of a list of indices hands out the rest of it. -/
theorem Replay.hands_append {size : Nat} (front back : List (Fin size))
    (counted : (front ++ back).length < Word64.modulus) :
    Hands size (⟨((front ++ back).map Fin.val).toArray, UInt64.ofNat front.length⟩ : Replay) back
      ⟨((front ++ back).map Fin.val).toArray, UInt64.ofNat (front ++ back).length⟩ := by
  induction back generalizing front with
  | nil =>
    rw [List.append_nil]
    exact .nil _
  | cons index back ih =>
    have length : (front ++ index :: back).length = front.length + 1 + back.length := by
      rw [List.length_append, List.length_cons]
      omega
    have value : (UInt64.ofNat front.length).toNat = front.length :=
      UInt64.toNat_ofNat_of_lt' (show front.length < Word64.modulus by omega)
    have next : UInt64.ofNat (front ++ [index]).length = UInt64.ofNat front.length + 1 := by
      rw [List.length_append, List.length_singleton, UInt64.ofNat_add]
      rfl
    have rest := ih (front ++ [index])
    rw [List.append_assoc, List.singleton_append, next] at rest
    refine .cons (next_of_turn ?_ ?_ index.isLt) (rest counted)
    · rw [value]
      omega
    · have inside : front.length < ((front ++ index :: back).map Fin.val).toArray.size := by
        rw [List.size_toArray, List.length_map]
        omega
      rw [value, Nat.mod_eq_of_lt inside]
      simp

/-- A replay of indices hands them out. -/
theorem Replay.hands_ofList {size : Nat} {indices : List (Fin size)}
    (counted : indices.length < Word64.modulus) :
    Hands size (Replay.ofList (indices.map Fin.val)) indices
      ⟨(indices.map Fin.val).toArray, UInt64.ofNat indices.length⟩ :=
  hands_append [] indices counted

/-- What a computation that ends in no fault takes from a source is noted when the source is traced,
and a replay of it leads to the same result. -/
theorem WordList.Depends.replay {α : Type} {list : WordList} {fault? : α → Option Fault}
    {run : Computation α} {source : σ} (depends : list.Depends fault? run source)
    (faultless : fault? (run σ source).1 = none) :
    let handed := (run (Traced σ) (Traced.start source)).2.handed
    (∃ indices : List (Fin list.size), handed = indices.map Fin.val ∧
      Hands list.size source indices (run σ source).2) ∧
      (run (Traced σ) (Traced.start source)).1 = (run σ source).1 ∧
      (handed.length < Word64.modulus →
        (run Replay (Replay.ofList handed)).1 = (run σ source).1 ∧
          (run Replay (Replay.ofList handed)).2.drawn.toNat = handed.length) := by
  cases depends with
  | stops indices result cause last stops failed same =>
    rw [same stops, failed] at faultless
    contradiction
  | ends indices result last handed none same =>
    have traced : run (Traced σ) (Traced.start source) = (result, ⟨last, indices.map Fin.val⟩) :=
      same (Traced.hands handed [])
    intro noted
    have all : noted = indices.map Fin.val := congrArg (·.2.handed) traced
    rw [all, traced, same handed, List.length_map]
    refine ⟨⟨indices, rfl, handed⟩, rfl, fun counted => ?_⟩
    rw [same (Replay.hands_ofList counted)]
    exact ⟨rfl, UInt64.toNat_ofNat_of_lt' counted⟩

namespace Generator

/-- A run can be replayed. Whatever source the records of a budget are drawn from, if that ends in
no fault, then a replay of the indices that the source has handed out leads to the same records or
the same error, and has handed out each of them once. The same holds when the records are written,
and the writer is left in the same state. The indices that a replay is made of are as many as can be
counted. -/
theorem replay_repeats (generator : Generator) (list : WordList) (budget : UInt64) (source : σ) :
    (let outcome := generator.generate list budget source
      let traced := generator.generate list budget (Traced.start source)
      let handed := traced.state.handed
      let replayed := generator.generate list budget (Replay.ofList handed)
      (∀ cause, outcome.result ≠ .error (.fault cause)) → handed.length < 2 ^ 64 →
        (∃ indices : List (Fin list.size), handed = indices.map Fin.val ∧
          Hands list.size source indices outcome.state) ∧
          traced.result = outcome.result ∧ replayed.result = outcome.result ∧
          replayed.state.drawn.toNat = handed.length) ∧
      ∀ {ω : Type} [ByteWriter ω] (writer : ω),
        let outcome := generator.writeTo list budget source writer
        let traced := generator.writeTo list budget (Traced.start source) writer
        let handed := traced.state.1.handed
        let replayed := generator.writeTo list budget (Replay.ofList handed) writer
        (∀ cause, outcome.result ≠ .error (.fault cause)) → handed.length < 2 ^ 64 →
          (∃ indices : List (Fin list.size), handed = indices.map Fin.val ∧
            Hands list.size source indices outcome.state.1) ∧
            (traced.result = outcome.result ∧ traced.state.2 = outcome.state.2) ∧
            (replayed.result = outcome.result ∧ replayed.state.2 = outcome.state.2) ∧
            replayed.state.1.drawn.toNat = handed.length := by
  constructor
  · intro outcome traced handed replayed returned counted
    have faultless : faultOf outcome.result = none := faultOf_eq_none_iff.2 returned
    obtain ⟨taken, same, repeats⟩ :=
      (generator.generate_depends list budget source).replay faultless
    exact ⟨taken, same, repeats counted⟩
  · intro ω _ writer outcome traced handed replayed returned counted
    have faultless : faultOf outcome.result = none := faultOf_eq_none_iff.2 returned
    obtain ⟨taken, same, repeats⟩ :=
      (generator.writeTo_depends list budget source writer).replay faultless
    obtain ⟨again, drawn⟩ := repeats counted
    exact ⟨taken, Prod.mk.inj same, Prod.mk.inj again, drawn⟩

/-- Three values are reduced and start over until the third record meets a long word, while a device
is interrupted every other time. A replay of the five indices fails in the same way, behind as many
draws. -/
theorem replay_repeats_broken :
    let list : WordList := ⟨#[List.replicate 17 97, [99, 97, 116]], by decide⟩
    let source := Replay.ofList [7, 4, 11]
    let device : Device := { Device.unlimited with piece := some 20, interruptEvery := some 2 }
    let failed := (withAttempts 1).writeTo list 96 source device
    let handed := ((withAttempts 1).writeTo list 96 (Traced.start source) device).state.1.handed
    let replayed := (withAttempts 1).writeTo list 96 (Replay.ofList handed) device
    handed = [1, 0, 1, 1, 0] ∧ replayed.result = .error (.error (.noQualifyingWord 1)) ∧
      replayed.state.2 = failed.state.2 ∧ replayed.state.1.drawn.toNat = 5 := by
  intro list source device failed handed replayed
  have broken : failed.result = .error (.error (.noQualifyingWord 1)) := by cbv
  have five : handed = [1, 0, 1, 1, 0] := by decide +kernel
  have returned : ∀ cause, failed.result ≠ .error (.fault cause) := by
    intro cause fault
    rw [broken] at fault
    cases fault
  have counted : handed.length < 2 ^ 64 := by
    rw [five]
    decide
  obtain ⟨_, _, ⟨same, left⟩, drawn⟩ :=
    (replay_repeats (withAttempts 1) list 96 source).2 device returned counted
  refine ⟨five, same.trans broken, left, drawn.trans ?_⟩
  exact congrArg List.length five

end Generator

end WordPairs
