import WordPairs.Draw.Rejection

/-!
# Zone rejection

Any generator of words gives indices: the product of a draw with the length is accepted when its
low half lies in a zone whose size is a power of two times the length, and the index is the high
half.
-/

namespace WordPairs

/-- A generator used as a source of indices by zone rejection. -/
structure Zone (γ : Type) where
  /-- The generator that the draws come from. -/
  generator : γ

namespace Zone

/-- The largest low half that is accepted: one less than the length shifted until its top bit is
set. -/
def last (length : UInt64) : UInt64 := (length <<< (63 - length.log2)) - 1

/-- What one draw gives below a length: nothing if the draw is refused. -/
def reduce? (length word : UInt64) : Option UInt64 :=
  if word * length ≤ last length then some (Word64.high word length) else none

variable {γ : Type} [BitSource γ]

/-- The next index below `length`. A range of one index takes a draw as well. -/
def next (length : Nat) (zone : Zone γ) : Except Fault (Nat × Zone γ) :=
  if length = 0 then .error .emptySample
  else do
    let length ← Word64.ofNat length
    let (word, generator) ← drawAccepted (reduce? length) zone.generator
    return (word.toNat, ⟨generator⟩)

instance : IndexSource (Zone γ) where
  next := next

end Zone

end WordPairs
