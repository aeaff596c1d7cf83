import WordPairs.Proofs.Draw.Lockstep
import WordPairs.Proofs.Draw.Orbit

/-!
# Requests to one generator

A generator is asked for words, for words of intervals and for indices, in any order. Whatever is
asked, the words that it draws are those of its stream, one after the other, and its state is on
its orbit, as many steps from the seed as words were drawn. A request is refused only if there is
nothing to answer it with.
-/

namespace WordPairs

open Word64 WordPairs.Uniform

/-- What a generator can be asked for. -/
inductive Request where
  /-- The next word. -/
  | word
  /-- A word of an interval. -/
  | between (start stop : Bound)
  /-- An index below a length. -/
  | index (length : Nat)

namespace Request

/-- There is nothing to answer a request with: the interval holds no word, there is no index below
the length, or the length is too large for a word. -/
def Vain : Request → Prop
  | word => False
  | between start stop => ∀ word, Bound.admits start stop word = false
  | index length => length = 0 ∨ modulus ≤ length

section Answers

variable {γ : Type} [BitSource γ]

/-- The answer to a request, and the generator after it. -/
def answer (generator : γ) : Request → Except Fault (Nat × γ)
  | word => .ok ((BitSource.draw generator).1.toNat, (BitSource.draw generator).2)
  | between start stop => do
    let (drawn, generator) ← Uniform.between start stop generator
    return (drawn.toNat, generator)
  | index length => Uniform.next length generator

/-- The answers to requests made one after the other, and the generator after them. A request that
is refused leaves the generator as it was. -/
def serve (generator : γ) : List Request → List (Except Fault Nat) × γ
  | [] => ([], generator)
  | request :: rest =>
    match request.answer generator with
    | .error cause =>
      let served := serve generator rest
      (.error cause :: served.1, served.2)
    | .ok (value, generator) =>
      let served := serve generator rest
      (.ok value :: served.1, served.2)

end Answers

section Alike

variable {γ δ : Type} [BitSource γ] [BitSource δ] {related : γ → δ → Prop}

/-- Generators in lockstep answer a request alike. -/
theorem answer_alike (lockstep : Lockstep related) {left : γ} {right : δ}
    (begun : related left right) (request : Request) :
    Alike related (request.answer left) (request.answer right) := by
  cases request with
  | word =>
    rw [answer, answer, lockstep.word begun]
    exact .value _ (lockstep.next begun)
  | between start stop =>
    rw [answer, answer]
    exact (lockstep.between begun start stop).bind fun word {_ _} still => .value word.toNat still
  | index length => exact lockstep.index begun length

/-- Generators in lockstep serve requests alike. -/
theorem serve_alike (lockstep : Lockstep related) {left : γ} {right : δ}
    (begun : related left right) (requests : List Request) :
    (serve left requests).1 = (serve right requests).1 ∧
      related (serve left requests).2 (serve right requests).2 := by
  induction requests generalizing left right with
  | nil => exact ⟨rfl, begun⟩
  | cons request rest ih =>
    have alike := answer_alike lockstep begun request
    rw [serve, serve]
    generalize request.answer left = first at *
    generalize request.answer right = second at *
    cases alike with
    | fault cause =>
      obtain ⟨answers, still⟩ := ih begun
      exact ⟨congrArg _ answers, still⟩
    | value result further =>
      obtain ⟨answers, still⟩ := ih further
      exact ⟨congrArg _ answers, still⟩

end Alike

end Request

namespace Weyl

open Request

/-- The words that a generator has drawn are the first of the stream of its seed, and its state is
as many steps on the orbit. -/
structure OnOrbit (seed : UInt64) (logged : Logged Weyl) (generator : Weyl) : Prop where
  /-- The generator that keeps its words is the same apart from them. -/
  same : logged.generator = generator
  /-- The words are those of the stream. -/
  words : logged.words = (List.range logged.words.length).map (stream seed)
  /-- The state is that of the orbit. -/
  state : generator = ⟨orbit seed logged.words.length⟩

/-- At the seed no word is drawn. -/
theorem onOrbit_start (seed : UInt64) : OnOrbit seed (Logged.start ⟨seed⟩) ⟨seed⟩ :=
  ⟨rfl, rfl, by rw [Logged.start, List.length_nil, orbit_zero]⟩

/-- A draw goes on in the stream and on the orbit, whether its word is kept or not. -/
theorem onOrbit_lockstep (seed : UInt64) : Lockstep (OnOrbit seed) where
  word := by
    rintro logged generator ⟨rfl, _, _⟩
    rfl
  next := by
    rintro ⟨generator, words⟩ _ ⟨rfl, kept, state⟩
    have kept : words = (List.range words.length).map (stream seed) := kept
    have state : generator = ⟨orbit seed words.length⟩ := state
    have drawn : BitSource.draw generator =
        (stream seed words.length, (⟨orbit seed (words.length + 1)⟩ : Weyl)) := by
      rw [state]
      exact draw_orbit seed words.length
    have length : (words ++ [stream seed words.length]).length = words.length + 1 :=
      List.length_append
    show OnOrbit seed ⟨(BitSource.draw generator).2, words ++ [(BitSource.draw generator).1]⟩
      (BitSource.draw generator).2
    rw [drawn]
    refine ⟨rfl, ?_, ?_⟩
    · show words ++ [stream seed words.length] = _
      rw [length, List.range_succ, List.map_append, ← kept]
      rfl
    · show (⟨orbit seed (words.length + 1)⟩ : Weyl) = ⟨orbit seed _⟩
      rw [length]
  turn := by
    rintro logged generator ⟨rfl, _, _⟩
    rfl

/-- From an interval that holds no word, nothing is drawn. -/
theorem between_of_empty {start stop : Bound}
    (empty : ∀ word, Bound.admits start stop word = false) (generator : Weyl) :
    Uniform.between start stop generator = .error .emptyInterval := by
  rw [Uniform.between, if_neg]
  rw [empty]
  exact Bool.false_ne_true

/-- A request for a word of an interval is refused exactly if the interval holds none. -/
theorem answer_between_eq_error_iff (generator : Weyl) (start stop : Bound) :
    (∃ cause, (between start stop).answer generator = .error cause) ↔
      (between start stop).Vain := by
  rw [answer, Vain]
  constructor
  · rintro ⟨cause, refused⟩ word
    by_contra held
    obtain ⟨drawn, next, answered, _⟩ :=
      exists_between ⟨word, Bool.eq_true_of_not_eq_false held⟩ generator
    rw [answered] at refused
    contradiction
  · intro empty
    rw [between_of_empty empty]
    exact ⟨_, rfl⟩

/-- An index below a length that is a word is a word of the interval up to it. -/
theorem answer_index {length : Nat} (fits : length < modulus) (generator : Weyl) :
    (index length).answer generator =
      (between (.included 0) (.excluded (UInt64.ofNat length))).answer generator := by
  rw [answer, answer, Uniform.next, ofNat_of_lt fits]
  rfl

/-- The interval up to a length holds no word exactly if the length is zero. -/
theorem vain_between_iff {length : Nat} (fits : length < modulus) :
    (between (.included 0) (.excluded (UInt64.ofNat length))).Vain ↔ length = 0 := by
  rw [Vain]
  constructor
  · intro empty
    by_contra held
    obtain ⟨word, admitted⟩ := exists_admits (Nat.pos_of_ne_zero held) fits
    rw [empty word] at admitted
    contradiction
  · rintro rfl word
    simp [Bound.admits, Bound.admitsFrom, Bound.admitsTo]

/-- A request is refused exactly if there is nothing to answer it with. -/
theorem answer_eq_error_iff (generator : Weyl) (request : Request) :
    (∃ cause, request.answer generator = .error cause) ↔ request.Vain := by
  cases request with
  | word => exact ⟨nofun, False.elim⟩
  | between start stop => exact answer_between_eq_error_iff generator start stop
  | index length =>
    by_cases fits : length < modulus
    · rw [answer_index fits, answer_between_eq_error_iff, vain_between_iff fits, Vain]
      exact ⟨.inl, fun vain => vain.resolve_right (Nat.not_le_of_lt fits)⟩
    · have refused : (index length).answer generator = .error .overflow := by
        rw [answer, Uniform.next, Word64.ofNat, if_neg fits]
        rfl
      rw [refused, Vain]
      exact ⟨fun _ => .inr (Nat.le_of_not_lt fits), fun _ => ⟨_, rfl⟩⟩

/-- Of the words that are drawn from a seed, those behind the first `skipped` are the words that
are drawn from where these lead. -/
theorem drop_draws (seed : UInt64) (skipped count : Nat) :
    (draws (skipped + count) ⟨seed⟩).1.drop skipped = (draws count ⟨orbit seed skipped⟩).1 := by
  have front : ((List.range skipped).map (stream seed)).length = skipped := by
    rw [List.length_map, List.length_range]
  rw [draws_eq, draws_eq, List.range_add, List.map_append, List.drop_left' front, List.map_map]
  exact List.map_congr_left fun place _ => (stream_orbit seed skipped place).symm

/-- Two seeds from which the same words are drawn are the same. -/
theorem eq_of_draws {first second : UInt64}
    (same : ∀ count, (draws count ⟨first⟩).1 = (draws count ⟨second⟩).1) : first = second := by
  refine stream_injective fun place => ?_
  have words := same (place + 1)
  rw [draws_eq, draws_eq, List.map_inj_left] at words
  exact words place (List.mem_range.2 (Nat.lt_succ_self place))

/-- Requests of all kinds are served from one orbit. Whatever requests are made, refused ones
among them, the generator that keeps its words answers as the plain one does; the state is the seed
and so many increments as words were drawn, and each word is the hash of the seed and so many
increments as words were drawn before it. Refused is just what nothing can answer. Draws lead to
the same state exactly if their numbers differ by whole turns of the orbit, and any seed is reached
from any other by one number of draws below a turn, told from the words alone. -/
theorem serve_on_orbit (seed : UInt64) (requests : List Request) :
    let plain := serve (⟨seed⟩ : Weyl) requests
    let logged := serve (Logged.start (⟨seed⟩ : Weyl)) requests
    let drawn := logged.2.words
    (logged.1 = plain.1 ∧ logged.2.generator = plain.2) ∧
      plain.2.state = seed + UInt64.ofNat drawn.length * increment ∧
      (∀ i (inside : i < drawn.length), drawn[i] = hash (seed + UInt64.ofNat i * increment)) ∧
      (∀ (generator : Weyl) (request : Request),
        (∃ cause, request.answer generator = .error cause) ↔ request.Vain) ∧
      (∀ i j, (draws i ⟨seed⟩).2 = (draws j ⟨seed⟩).2 ↔ i % 2 ^ 64 = j % 2 ^ 64) ∧
      ∀ other : UInt64, ∃! skipped, skipped < 2 ^ 64 ∧
        ∀ count, (draws count ⟨other⟩).1 = (draws (skipped + count) ⟨seed⟩).1.drop skipped := by
  intro plain logged drawn
  obtain ⟨answers, reached⟩ := serve_alike (onOrbit_lockstep seed) (onOrbit_start seed) requests
  refine ⟨⟨answers, reached.same⟩, congrArg state reached.state, fun i inside => ?_,
    answer_eq_error_iff, fun i j => ?_, fun other => ?_⟩
  · have kept : drawn[i]? = some (stream seed i) := by
      rw [show drawn = _ from reached.words, List.getElem?_map, List.getElem?_range inside]
      rfl
    exact Option.some.inj ((List.getElem?_eq_getElem inside).symm.trans kept)
  · rw [draws_eq, draws_eq, Weyl.mk.injEq]
    exact orbit_eq_iff
  · obtain ⟨skipped, ⟨inside, leads⟩, only⟩ := existsUnique_orbit seed other
    refine ⟨skipped, ⟨inside, fun count => by rw [drop_draws, leads]⟩, ?_⟩
    -- Another number of draws would lead to another seed with the same stream.
    rintro candidate ⟨within, same⟩
    refine only candidate ⟨within, eq_of_draws fun count => ?_⟩
    rw [same, drop_draws]

end Weyl

end WordPairs
