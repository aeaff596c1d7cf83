import WordPairs.Proofs.Draw.Orbit
import WordPairs.Proofs.Generation.Dependence
import WordPairs.Writer.Device

/-!
# Runs are safe

A source is reliable if it fails for known causes only: asked for an index below a length that is
not zero, it hands one out, or the state that it is in has such a cause. A list has a word for each
of its indices, so that a run on a reliable source breaks off for a cause of the source and for no
other. The generator of this library has no cause to fail. A replay has one when its draws can no
longer be counted, and a sampler when it would refuse draws without end.
-/

namespace WordPairs

/-- Asked for an index below a length that is not zero, a source hands one out, or it fails and has
a cause for it. -/
def Reliable (σ : Type) [IndexSource σ] (fails : σ → Fault → Prop) : Prop :=
  ∀ {length : Nat}, 0 < length → length < Word64.modulus → ∀ source : σ,
    (∃ index successor, IndexSource.next length source = .ok (index, successor) ∧
      index < length) ∨
      ∃ cause, IndexSource.next length source = .error cause ∧ fails source cause

/-- The generator of this library does not fail. -/
theorem Weyl.reliable : Reliable Weyl fun _ _ => False := by
  intro length positive fits source
  exact .inl (exists_next positive fits source)

/-- A replay fails only if it has made as many draws as can be counted. -/
theorem Replay.reliable :
    Reliable Replay fun replay cause => cause = .overflow ∧ replay.drawn.toNat = 2 ^ 64 - 1 := by
  intro length positive _ replay
  rcases next_cases positive replay with handed | ⟨refused, full⟩
  · exact .inl handed
  · exact .inr ⟨.overflow, refused, rfl, congrArg UInt64.toNat full⟩

/-- A sampler fails only if it refuses all draws. -/
theorem Zone.reliable {γ : Type} [BitSource γ] :
    Reliable (Zone γ) fun _ cause => cause = .exhausted := by
  intro length positive fits zone
  rcases next_cases positive fits zone with handed | refused
  · exact .inl handed
  · exact .inr ⟨.exhausted, refused, rfl⟩

variable {σ : Type} [IndexSource σ] {fails : σ → Fault → Prop}

/-- Indices of a list are below its length. -/
theorem lt_of_mem_map_val {size : Nat} {indices : List (Fin size)} :
    ∀ index ∈ indices.map Fin.val, index < size := by
  intro index noted
  obtain ⟨place, _, rfl⟩ := List.mem_map.1 noted
  exact place.isLt

namespace WordList

variable {list : WordList}

/-- A fault of a draw from a reliable source is one that the source has a cause for. The draw
leaves the source as it was, traced or not. -/
theorem draw_eq_error (reliable : Reliable σ fails) (fits : list.size < Word64.modulus)
    {source last : σ} {cause : Fault} (broke : list.draw source = (.error cause, last)) :
    fails source cause ∧ last = source ∧
      ∀ handed, list.draw (⟨source, handed⟩ : Traced σ) = (.error cause, ⟨source, handed⟩) := by
  have positive : 0 < list.size := list.nonempty
  rcases reliable positive fits source with ⟨index, successor, drawn, inside⟩ |
    ⟨known, refused, failed⟩
  · have read : list.draw source = (.ok (list.wordAt ⟨index, inside⟩), successor) :=
      draw_of_next drawn
    rw [read] at broke
    cases broke
  · rw [draw, refused] at broke
    cases broke
    refine ⟨failed, rfl, fun handed => ?_⟩
    have traced : IndexSource.next list.size (⟨source, handed⟩ : Traced σ) = .error cause := by
      show Traced.next _ _ = _
      rw [Traced.next, refused]
      rfl
    rw [draw, traced]

namespace Depends

variable {α : Type} {fault? : α → Option Fault} {run : Computation α} {source : σ}

/-- A computation on a reliable source has the same result when the source is traced, and all that
is noted are indices of the list. -/
theorem traced (reliable : Reliable σ fails) (fits : list.size < Word64.modulus)
    (depends : list.Depends fault? run source) :
    ∃ indices : List (Fin list.size), run (Traced σ) (Traced.start source) =
      ((run σ source).1, ⟨(run σ source).2, indices.map Fin.val⟩) := by
  cases depends with
  | ends indices result last handed none same =>
    refine ⟨indices, ?_⟩
    rw [same handed]
    exact same (Traced.hands handed [])
  | stops indices result cause last stops failed same =>
    refine ⟨indices, ?_⟩
    rw [same stops]
    obtain ⟨middle, handed, broke⟩ := stops
    obtain ⟨_, rfl, again⟩ := draw_eq_error reliable fits broke
    exact same ⟨_, Traced.hands handed [], again _⟩

/-- A computation on a reliable source stops only where the source has a cause. -/
theorem fails_of_stopped (reliable : Reliable σ fails) (fits : list.size < Word64.modulus)
    (depends : list.Depends fault? run source) {cause : Fault}
    (stopped : fault? (run σ source).1 = some cause) : fails (run σ source).2 cause := by
  cases depends with
  | ends indices result last handed none same =>
    rw [same handed, none] at stopped
    contradiction
  | stops indices result known last stops failed same =>
    rw [same stops, failed, Option.some.injEq] at stopped
    rw [same stops]
    obtain ⟨middle, _, broke⟩ := stops
    obtain ⟨has, rfl, _⟩ := draw_eq_error reliable fits broke
    exact stopped ▸ has

end Depends

end WordList

namespace Generator

variable (generator : Generator) (list : WordList) (budget : UInt64)

/-- Drawing the records of a budget from a source is safe, whether they are returned or written.
Tracing the source makes no difference and shows that each index that it hands out is below the
length of the list. If a fault ends the run, then in the end the source has a cause for it. -/
structure Safe (fails : σ → Fault → Prop) (source : σ) : Prop where
  /-- Tracing leads to the same records, and shows indices of the list. -/
  generates :
    let outcome := generator.generate list budget source
    let traced := generator.generate list budget (Traced.start source)
    traced.result = outcome.result ∧ traced.state.source = outcome.state ∧
      ∀ index ∈ traced.state.handed, index < list.size
  /-- A fault on the way to the records is the source's. -/
  generate_fails :
    let outcome := generator.generate list budget source
    ∀ cause, outcome.result = .error (.fault cause) → fails outcome.state cause
  /-- Tracing leads to the same writer, and shows indices of the list. -/
  writes : ∀ {ω : Type} [ByteWriter ω] (writer : ω),
    let outcome := generator.writeTo list budget source writer
    let traced := generator.writeTo list budget (Traced.start source) writer
    (traced.result = outcome.result ∧ traced.state.2 = outcome.state.2) ∧
      traced.state.1.source = outcome.state.1 ∧
      ∀ index ∈ traced.state.1.handed, index < list.size
  /-- A fault on the way to the last byte is the source's. -/
  write_fails : ∀ {ω : Type} [ByteWriter ω] (writer : ω),
    let outcome := generator.writeTo list budget source writer
    ∀ cause, outcome.result = .error (.fault cause) → fails outcome.state.1 cause

variable {list}

/-- Drawing records from a reliable source is safe. -/
theorem safe_of_reliable (reliable : Reliable σ fails) (fits : list.size < Word64.modulus)
    (source : σ) : generator.Safe list budget fails source where
  generates := by
    intro outcome traced
    obtain ⟨indices, same⟩ :=
      (generator.generate_depends list budget source).traced reliable fits
    obtain ⟨result, state⟩ := Prod.mk.inj same
    have noted : traced.state = ⟨outcome.state, indices.map Fin.val⟩ := state
    exact ⟨result, congrArg Traced.source noted, noted ▸ lt_of_mem_map_val⟩
  generate_fails := by
    intro outcome cause failed
    exact (generator.generate_depends list budget source).fails_of_stopped reliable fits
      (faultOf_eq_some_iff.2 failed)
  writes := by
    intro ω _ writer outcome traced
    obtain ⟨indices, same⟩ :=
      (generator.writeTo_depends list budget source writer).traced reliable fits
    obtain ⟨written, state⟩ := Prod.mk.inj same
    have noted : traced.state.1 = ⟨outcome.state.1, indices.map Fin.val⟩ := state
    exact ⟨Prod.mk.inj written, congrArg Traced.source noted, noted ▸ lt_of_mem_map_val⟩
  write_fails := by
    intro ω _ writer outcome cause failed
    exact (generator.writeTo_depends list budget source writer).fails_of_stopped reliable fits
      (faultOf_eq_some_iff.2 failed)

/-- Whatever list the words come from, whatever the budget and however many draws are made for a
short word, drawing records from a source of this library is safe, in every state of the source. The
generator leads to no fault at all. A replay leads to one only if it has made as many draws as can
be counted and is to make one more, and a sampler only if it refuses draws without end. -/
theorem safe_from_every_source (fits : list.size < 2 ^ 64) :
    (∀ source : Weyl, generator.Safe list budget (fun _ _ => False) source) ∧
      (∀ source : Replay, generator.Safe list budget
        (fun last cause => cause = .overflow ∧ last.drawn.toNat = 2 ^ 64 - 1) source) ∧
      ∀ {γ : Type} [BitSource γ] (source : Zone γ),
        generator.Safe list budget (fun _ cause => cause = .exhausted) source :=
  ⟨generator.safe_of_reliable budget Weyl.reliable fits,
    generator.safe_of_reliable budget Replay.reliable fits,
    generator.safe_of_reliable budget Zone.reliable fits⟩

/-- The largest budget leads to no fault of the generator, whose one draw for a short word may fail.
A replay with one draw left is at fault at the second word of the record, when it has made all. -/
theorem safe_from_every_source_largest :
    let list : WordList := ⟨#[List.replicate 17 97, [99, 97, 116], []], by decide⟩
    let replay : Replay := ⟨#[7], 0xFFFFFFFFFFFFFFFE⟩
    let replayed := (withAttempts 0).writeTo list 32 replay Device.unlimited
    list.size < 2 ^ 64 ∧
      (∀ cause, ((withAttempts 0).generate list Word64.largest Weyl.default).result ≠
        .error (.fault cause)) ∧
      replayed.result = .error (.fault .overflow) ∧ replayed.state.1.drawn.toNat = 2 ^ 64 - 1 := by
  intro list replay replayed
  have fits : list.size < 2 ^ 64 := by decide
  have broken : replayed.result = .error (.fault .overflow) := by cbv
  obtain ⟨_, last⟩ := ((safe_from_every_source (withAttempts 0) 32 fits).2.1 replay).write_fails
    Device.unlimited .overflow broken
  exact ⟨fits, ((safe_from_every_source (withAttempts 0) Word64.largest fits).1 _).generate_fails,
    broken, last⟩

end Generator

end WordPairs
