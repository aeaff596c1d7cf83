import WordPairs.CommandLine.Arguments
import WordPairs.CommandLine.Filter
import WordPairs.Draw.Weyl
import WordPairs.Job

/-!
# The command

The command generates a file of records from the default word list. It shows the events that its
log setting admits, and its exit code tells success, a failure of the work, or a mistake in its use.
-/

namespace WordPairs.CommandLine

/-- What the command shows and leaves behind. -/
structure Exit where
  /-- Zero for success, one for a failure of the work, two for a mistake in the use, and a code of
  its own for a log setting that stops the command. -/
  code : Nat
  /-- The text on standard output. -/
  output : String
  /-- The report of a failure on standard error. -/
  complaint : Option String
  /-- The events that are shown. -/
  log : List Event
  /-- The URLs that were asked for. -/
  requests : List Web.Url
  /-- The tree at the end. -/
  tree : Tree

/-- Generates the file that was asked for. -/
def generate (budget : UInt64) (output : String) (filter : Filter) (network : Web.Network)
    (tree : Tree) : Exit :=
  let report := (Job.ofBudget budget ⟨output⟩).run (.web WordOrigin.defaultUrl) network
    Weyl.default tree
  let log := report.events.filter filter.admits
  match report.result with
  | .ok _ => ⟨0, "", none, log, report.requests, report.tree⟩
  | .error failure =>
    ⟨1, "", some ("error: " ++ failure.message), log, report.requests, report.tree⟩

/-- The code of a command that is stopped. -/
def stoppedCode : Nat := 101

/-- Does what the arguments ask for. A log setting that is cut inside of a character stops the
command. -/
def execute (arguments : List String) (logSetting : Option String) (network : Web.Network)
    (tree : Tree) : Exit :=
  match readArguments arguments with
  | .error cause => ⟨2, "", some ("error: " ++ cause.message), [], [], tree⟩
  | .ok .help => ⟨0, helpText, none, [], [], tree⟩
  | .ok (.generate budget output) =>
    match Filter.ofSetting logSetting with
    | .error _ => ⟨stoppedCode, "", none, [], [], tree⟩
    | .ok filter => generate budget output filter network tree

end WordPairs.CommandLine
