import WordPairs.Draw.Uniform

/-!
# Generators in lockstep

What is made of the words of a generator depends on nothing but the words. Two generators that draw
the same words and stay related lead to the same results, and are related still. A generator that
keeps the words it has drawn is in lockstep with the one that it is made from.
-/

namespace WordPairs

variable {γ δ : Type}

/-- As long as the states of two generators are related, they draw the same words. -/
structure Lockstep [BitSource γ] [BitSource δ] (related : γ → δ → Prop) : Prop where
  /-- Related states draw the same word. -/
  word : ∀ {left right}, related left right →
    (BitSource.draw left).1 = (BitSource.draw right).1
  /-- The states behind the draw are related as well. -/
  next : ∀ {left right}, related left right →
    related (BitSource.draw left).2 (BitSource.draw right).2
  /-- Both are given the same number of draws to be accepted. -/
  turn : ∀ {left right}, related left right → BitSource.turn left = BitSource.turn right

/-- Two computations end alike: in one fault, or in one value and related states. -/
inductive Alike {α : Type} (related : γ → δ → Prop) :
    Except Fault (α × γ) → Except Fault (α × δ) → Prop where
  /-- Both end in the fault. -/
  | fault (cause : Fault) : Alike related (.error cause) (.error cause)
  /-- Both end in the value. -/
  | value (result : α) {left : γ} {right : δ} : related left right →
    Alike related (.ok (result, left)) (.ok (result, right))

namespace Alike

variable {α β : Type} {related : γ → δ → Prop}

/-- Computations that end alike go on alike. -/
theorem bind {left : Except Fault (α × γ)} {right : Except Fault (α × δ)}
    {onLeft : α × γ → Except Fault (β × γ)} {onRight : α × δ → Except Fault (β × δ)}
    (alike : Alike related left right)
    (goOn : ∀ result {first second}, related first second →
      Alike related (onLeft (result, first)) (onRight (result, second))) :
    Alike related (left >>= onLeft) (right >>= onRight) := by
  cases alike with
  | fault cause => exact .fault cause
  | value result still => exact goOn result still

/-- What both have in common makes no difference. -/
theorem common {value : Except Fault α} {onLeft : α → Except Fault (β × γ)}
    {onRight : α → Except Fault (β × δ)}
    (goOn : ∀ result, Alike related (onLeft result) (onRight result)) :
    Alike related (value >>= onLeft) (value >>= onRight) := by
  cases value with
  | error cause => exact .fault cause
  | ok result => exact goOn result

end Alike

namespace Lockstep

variable [BitSource γ] [BitSource δ] {related : γ → δ → Prop} (lockstep : Lockstep related)
  {left : γ} {right : δ} (begun : related left right)
include lockstep begun

/-- Drawing ends alike. -/
theorem draw : Alike related (.ok (BitSource.draw left)) (.ok (BitSource.draw right)) := by
  have same := lockstep.word begun
  have still := lockstep.next begun
  generalize BitSource.draw left = first at *
  generalize BitSource.draw right = second at *
  obtain ⟨word, left⟩ := first
  obtain ⟨other, right⟩ := second
  subst same
  exact .value word still

/-- Drawing until a word is accepted ends alike. -/
theorem drawUntil (accept : UInt64 → Option UInt64) (turns : Nat) :
    Alike related (drawUntil accept turns left) (drawUntil accept turns right) := by
  induction turns generalizing left right with
  | zero => exact .fault .exhausted
  | succ turns ih =>
    have still := lockstep.next begun
    rw [WordPairs.drawUntil, WordPairs.drawUntil]
    simp only [lockstep.word begun]
    cases accept (BitSource.draw right).1 with
    | some value => exact .value value still
    | none => exact ih still

/-- Drawing below a width ends alike. -/
theorem below (width : UInt64) :
    Alike related (Uniform.below width left) (Uniform.below width right) := by
  rw [Uniform.below, Uniform.below, drawAccepted, drawAccepted, lockstep.turn begun]
  split
  · exact .fault .zeroWidth
  · exact lockstep.drawUntil begun _ _

/-- Drawing from an interval ends alike. -/
theorem between (start stop : Bound) :
    Alike related (Uniform.between start stop left) (Uniform.between start stop right) := by
  rw [Uniform.between, Uniform.between]
  split
  · refine .common fun width => ?_
    cases width with
    | none => exact lockstep.draw begun
    | some width =>
      refine (lockstep.below begun width).bind fun offset {_ _} still => ?_
      exact .common fun sum => .value sum still
  · exact .fault .emptyInterval

/-- Drawing an index ends alike. -/
theorem index (length : Nat) :
    Alike related (Uniform.next length left) (Uniform.next length right) := by
  rw [Uniform.next, Uniform.next]
  refine .common fun length => ?_
  refine (lockstep.between begun _ _).bind fun word {_ _} still => ?_
  exact .value word.toNat still

end Lockstep

/-- A generator together with the words that it has drawn. -/
structure Logged (γ : Type) where
  /-- The generator. -/
  generator : γ
  /-- The words in the order in which they were drawn. -/
  words : List UInt64

namespace Logged

variable [BitSource γ]

/-- A generator whose words are kept from here on. -/
def start (generator : γ) : Logged γ := ⟨generator, []⟩

/-- The next word, which is kept. -/
def draw (logged : Logged γ) : UInt64 × Logged γ :=
  let drawn := BitSource.draw logged.generator
  (drawn.1, ⟨drawn.2, logged.words ++ [drawn.1]⟩)

instance : BitSource (Logged γ) where
  draw := draw
  turn logged := BitSource.turn logged.generator

end Logged

end WordPairs
