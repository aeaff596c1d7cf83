import WordPairs.Word64

/-!
# Intervals of words

An interval is given by a start and a stop bound. Each may be absent, may belong to the interval,
or may lie just outside it.
-/

namespace WordPairs

/-- One end of an interval of words. -/
inductive Bound where
  /-- Nothing is cut off at this end. -/
  | unbounded
  /-- The word belongs to the interval. -/
  | included (word : UInt64)
  /-- The interval ends just before the word. -/
  | excluded (word : UInt64)
  deriving DecidableEq

namespace Bound

/-- The least word that a start bound can admit. Above the largest word there is none, and the
largest word itself is returned, which such a bound refuses. -/
def least : Bound → UInt64
  | unbounded => 0
  | included word => word
  | excluded word => if word = Word64.largest then Word64.largest else word + 1

/-- Whether a word is on the inner side of a start bound. -/
def admitsFrom : Bound → UInt64 → Bool
  | unbounded, _ => true
  | included start, word => start ≤ word
  | excluded start, word => start < word

/-- Whether a word is on the inner side of a stop bound. -/
def admitsTo : Bound → UInt64 → Bool
  | unbounded, _ => true
  | included stop, word => word ≤ stop
  | excluded stop, word => word < stop

end Bound

/-- A word lies in the interval when both bounds admit it. -/
def Bound.admits (start stop : Bound) (word : UInt64) : Bool :=
  start.admitsFrom word && stop.admitsTo word

/-- The number of words of an interval that begins at `least`, which it must hold; `none` stands
for all words there are, a number that is itself no word. -/
def Bound.width (stop : Bound) (least : UInt64) : Except Fault (Option UInt64) :=
  match stop with
  | .included last => do
    let span ← Word64.sub last least
    if span < Word64.largest then some <$> Word64.add span 1 else return none
  | .excluded last => some <$> Word64.sub last least
  | .unbounded =>
    if 0 < least then do
      let span ← Word64.sub Word64.largest least
      some <$> Word64.add span 1
    else return none

end WordPairs
