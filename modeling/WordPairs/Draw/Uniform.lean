import WordPairs.Draw.Interval
import WordPairs.Draw.Rejection

/-!
# Words of an interval

A draw is brought below a width by the high half of their product. Draws whose low half lies below
the remainder of the number of words by the width are refused, so that every result has the same
number of draws. A word of an interval is its least word plus a word below its width.
-/

namespace WordPairs.Uniform

/-- What one draw gives below a width: nothing if the draw is refused. The remainder is less than
the width, so it is computed only if the low half lies below the width. -/
def reduce? (width word : UInt64) : Option UInt64 :=
  if word * width < width && word * width < (0 - width) % width then none
  else some (Word64.high word width)

variable {γ : Type} [BitSource γ]

/-- A word below the width. -/
def below (width : UInt64) (generator : γ) : Except Fault (UInt64 × γ) :=
  if width = 0 then .error .zeroWidth else drawAccepted (reduce? width) generator

/-- A word of the interval between two bounds. A draw is taken as it is if the interval holds all
words. -/
def between (start stop : Bound) (generator : γ) : Except Fault (UInt64 × γ) :=
  let least := start.least
  if Bound.admits start stop least then do
    match ← stop.width least with
    | none => return BitSource.draw generator
    | some width =>
      let (offset, generator) ← below width generator
      return (← Word64.add least offset, generator)
  else .error .emptyInterval

/-- An index below the length, as a word of the interval from zero up to it. -/
def next (length : Nat) (generator : γ) : Except Fault (Nat × γ) := do
  let length ← Word64.ofNat length
  let (word, generator) ← between (.included 0) (.excluded length) generator
  return (word.toNat, generator)

end WordPairs.Uniform
