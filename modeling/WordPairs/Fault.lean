/-!
# Faults

A fault is a broken precondition. It stops a computation where it arises, and whatever was asked
keeps the state it had before it was asked.
-/

namespace WordPairs

/-- The preconditions that can be broken. -/
inductive Fault where
  /-- A value was asked of an interval that holds none. -/
  | emptyInterval
  /-- A replay was asked for an index of an empty range. -/
  | emptyReplay
  /-- A zone sampler was asked for an index of an empty range. -/
  | emptySample
  /-- A list was read at an index past its end. -/
  | indexOutOfBounds (length index : Nat)
  /-- A sum, difference or product leaves the 64-bit words. -/
  | overflow
  /-- A draw was reduced to a width of zero. -/
  | zeroWidth
  /-- Every draw that a generator can make was refused. -/
  | exhausted
  deriving DecidableEq

/-- The text that reports a fault. -/
def Fault.message : Fault → String
  | .emptyInterval => "cannot generate a value from an empty range"
  | .emptyReplay => "cannot draw an index from an empty range"
  | .emptySample => "cannot sample empty range"
  | .indexOutOfBounds length index =>
    "index out of bounds: the len is " ++ toString length ++ " but the index is " ++ toString index
  | .overflow => "arithmetic overflow"
  | .zeroWidth => "division by zero"
  | .exhausted => "no draw is acceptable"

end WordPairs
