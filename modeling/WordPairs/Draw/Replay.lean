import WordPairs.Draw.Source
import WordPairs.Word64

/-!
# Replaying recorded indices

A replay hands out a fixed list of values again and again, each reduced to the length asked for.
-/

namespace WordPairs

/-- A list of values and the number of draws made so far. -/
structure Replay where
  /-- The values in the order of their first use. -/
  values : Array Nat
  /-- How many indices have been handed out. -/
  drawn : UInt64
  deriving DecidableEq

namespace Replay

/-- A replay that has handed out nothing. -/
def ofList (values : List Nat) : Replay := ⟨values.toArray, 0⟩

/-- The value whose turn it is, reduced to the length; zero if there are no values. -/
def current (length : Nat) (replay : Replay) : Nat :=
  match replay.values[replay.drawn.toNat % replay.values.size]? with
  | some value => value % length
  | none => 0

/-- The next index below `length`. -/
def next (length : Nat) (replay : Replay) : Except Fault (Nat × Replay) :=
  if length = 0 then .error .emptyReplay
  else do
    let drawn ← Word64.add replay.drawn 1
    return (replay.current length, { replay with drawn })

instance : IndexSource Replay where
  next := next

/-- The replay as shown to a reader. -/
def debugText (replay : Replay) : String :=
  "Sequence \x7b values: [" ++ String.intercalate ", " (replay.values.toList.map toString)
    ++ "], position: " ++ toString replay.drawn ++ " \x7d"

end Replay

end WordPairs
