import WordPairs.Proofs.Draw.Requests

/-!
# Drawing from every interval

The words of an interval are none, or so many from the least one on, or all words. Which of the
three it is decides what is drawn: nothing, the least word and a word below their number, or the
next word as it is. The number of the words is computed on the way, and it is exact.
-/

namespace WordPairs

namespace Bound

open Word64

/-- The words that an interval holds. -/
def members (start stop : Bound) : Set UInt64 := {word | admits start stop word}

variable {start stop : Bound}

/-- An interval is empty exactly if its bounds admit no word. -/
theorem members_eq_empty_iff :
    members start stop = ∅ ↔ ∀ word, admits start stop word = false := by
  rw [Set.eq_empty_iff_forall_notMem]
  apply forall_congr'
  intro word
  show ¬admits start stop word = true ↔ admits start stop word = false
  rw [Bool.not_eq_true]

/-- The least word that a start bound can admit is the least of an interval that holds any. -/
theorem isLeast_members (held : (members start stop).Nonempty) :
    IsLeast (members start stop) start.least := by
  constructor
  · exact admits_least_iff.2 held
  · intro word member
    have above := (Bool.and_eq_true_iff.1 member).1
    exact (admitsFrom_iff.1 above).2

/-- The words of an interval are as many as are counted from its least one on. -/
theorem Counts.ncard_members {width : UInt64} (counts : stop.Counts start.least width)
    (held : (members start stop).Nonempty) : (members start stop).ncard = width.toNat := by
  have first := (Bool.and_eq_true_iff.1 (isLeast_members held).1).1
  have stretch : members start stop =
      {word | start.least.toNat ≤ word.toNat ∧
        word.toNat < start.least.toNat + width.toNat} := by
    ext word
    have counted := counts.admits_iff word
    have above : start.admitsFrom word ↔ start.least ≤ word := by
      rw [admitsFrom_iff]
      exact and_iff_right first
    show admits start stop word ↔ _
    rw [admits, Bool.and_eq_true, above]
    exact counted
  rw [stretch]
  exact ncard_between counts.inside

/-- All words are too many to be counted by a word. -/
theorem ncard_of_all (all : ∀ word, admits start stop word) :
    (members start stop).ncard = modulus := by
  have every : members start stop = {word | 0 ≤ word.toNat ∧ word.toNat < 0 + modulus} := by
    ext word
    have bound : word.toNat < modulus := word.toNat_lt
    have inside : 0 ≤ word.toNat ∧ word.toNat < 0 + modulus := by omega
    exact iff_of_true (all word) inside
  rw [every]
  exact ncard_between (Nat.le_of_eq (Nat.zero_add modulus))

end Bound

namespace Weyl

open WordPairs.Uniform Request

/-- A request that is refused makes no difference to those behind it. -/
theorem serve_of_refused {γ : Type} [BitSource γ] {generator : γ} {request : Request}
    {cause : Fault} (refused : request.answer generator = .error cause) (rest : List Request) :
    serve generator (request :: rest) =
      (.error cause :: (serve generator rest).1, (serve generator rest).2) := by
  rw [serve, refused]

/-- What is drawn from an interval, whatever its bounds and whatever the state of the generator.
From an interval without a word nothing is drawn, and all other requests are served as if nothing
had been asked. From any other interval a word of it is drawn. It is the sum of the least word of
the interval and a draw below the number of its words, which are both computed exactly, as is the
sum; and from the interval of all words it is the next draw as it is. -/
theorem draws_from_every_interval (start stop : Bound) (state : UInt64) :
    let interval := Bound.members start stop
    let generator : Weyl := ⟨state⟩
    let drawn := between start stop generator
    ((∃ cause, drawn = .error cause) ↔ interval = ∅) ∧
      ((interval = ∅ ∧ drawn = .error .emptyInterval ∧
          ∀ rest, serve generator (.between start stop :: rest) =
            (.error .emptyInterval :: (serve generator rest).1, (serve generator rest).2)) ∨
        (IsLeast interval start.least ∧ interval.ncard < 2 ^ 64 ∧
          ∃ width offset next, stop.width start.least = .ok (some width) ∧
            width.toNat = interval.ncard ∧ below width generator = .ok (offset, next) ∧
            start.least.toNat + offset.toNat < 2 ^ 64 ∧
            drawn = .ok (start.least + offset, next) ∧ start.least + offset ∈ interval) ∨
        (IsLeast interval start.least ∧ interval.ncard = 2 ^ 64 ∧
          stop.width start.least = .ok none ∧
          drawn = .ok (hash state, ⟨state + increment⟩) ∧ hash state ∈ interval)) := by
  intro interval generator drawn
  have refused (empty : interval = ∅) : drawn = .error .emptyInterval :=
    between_of_empty (Bound.members_eq_empty_iff.1 empty) generator
  constructor
  · constructor
    · rintro ⟨cause, failed⟩
      by_contra nonempty
      have held := Set.nonempty_iff_ne_empty.2 nonempty
      obtain ⟨word, next, answered, _⟩ := exists_between held generator
      have both := failed.symm.trans answered
      contradiction
    · intro empty
      exact ⟨.emptyInterval, refused empty⟩
  rcases interval.eq_empty_or_nonempty with empty | held
  · have failed := refused empty
    have answer : (Request.between start stop).answer generator = .error .emptyInterval := by
      show (drawn >>= _) = _
      rw [failed]
      rfl
    exact .inl ⟨empty, failed, serve_of_refused answer⟩
  · have least := Bound.isLeast_members held
    rcases between_eq held generator with ⟨all, none, next⟩ | ⟨width, counts, sum⟩
    · exact .inr (.inr ⟨least, Bound.ncard_of_all all, none, next, all _⟩)
    · have count := counts.ncard_members held
      have fewer : interval.ncard < 2 ^ 64 := by
        rw [count]
        exact width.toNat_lt
      obtain ⟨offset, next, below, inside⟩ := exists_below counts.positive generator
      have member := counts.admits_sum held inside
      rw [below] at sum
      exact .inr (.inl ⟨least, fewer, width, offset, next, counts.computed, count.symm, below,
        counts.sum_lt inside, sum, member⟩)

end Weyl

end WordPairs
