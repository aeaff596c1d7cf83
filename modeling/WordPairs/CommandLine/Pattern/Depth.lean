/-!
# Depths of patterns

The depth of a pattern counts how its parts are nested. It has a limit.
-/

namespace WordPairs.CommandLine.Pattern

/-- The greatest depth of a pattern. -/
def depthLimit : Nat := 250

/-- The depth of parts in a row: one more than that of the deepest, unless a part stands alone. -/
def depthOf : List Nat → Nat
  | [] => 0
  | [depth] => depth
  | depths => depths.foldr max 0 + 1

end WordPairs.CommandLine.Pattern
