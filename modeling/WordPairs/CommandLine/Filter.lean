import WordPairs.CommandLine.Directive

/-!
# Filters of events

A filter is a list of directives. The most specific directive about an event decides whether it is
let through.
-/

namespace WordPairs.CommandLine

/-- Directives in the order in which they were given. -/
abbrev Filter := List Directive

namespace Filter

/-- The filter that lets through events up to a severity. -/
def upTo (level : Level) : Filter := [⟨none, none, none, some level⟩]

/-- The filter that lets through all but the events for debugging. -/
def standard : Filter := upTo .info

/-- The filter of a text whose directives are separated by commas. Without any, errors alone are let
through. -/
def read (text : String) : Except DirectiveError Filter := do
  let parts := (text.splitOn ",").filter (!·.isEmpty)
  let directives ← parts.mapM fun part => Directive.read part.toList
  .ok (if directives.isEmpty then upTo .error else directives)

/-- The filter that a setting asks for; the usual one if there is no setting, or one in no known
form. -/
def ofSetting (setting : Option String) : Except DirectiveError Filter :=
  match setting.map read with
  | none => .ok standard
  | some (.error .malformed) => .ok standard
  | some result => result

/-- The directive that decides about an event. -/
def deciding? (filter : Filter) (event : Event) : Option Directive :=
  (filter.filter (·.concerns event)).foldl
    (fun best directive =>
      match best with
      | some held => if held.yields directive then some directive else best
      | none => some directive)
    none

/-- Whether an event is let through. -/
def admits (filter : Filter) (event : Event) : Bool :=
  match (filter.deciding? event).bind (·.threshold) with
  | some threshold => event.level.rank ≤ threshold.rank
  | none => false

end Filter

end WordPairs.CommandLine
