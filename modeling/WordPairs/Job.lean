import WordPairs.Files.Staged
import WordPairs.Generation.Output
import WordPairs.WordList.Origin

/-!
# Jobs

A job loads a word list, generates records for a budget and puts them into a file. The file appears,
complete, only if every step succeeds.
-/

namespace WordPairs

/-- What is to be done, apart from where words and draws come from. -/
structure Job where
  /-- The budget in bytes. Only whole records are written. -/
  budget : UInt64
  /-- The file that the records are put into. -/
  output : Path
  /-- How many draws are made for one short word. -/
  attempts : Nat
  deriving DecidableEq

/-- What a finished job has done. -/
structure Summary where
  /-- The number of words of the list. -/
  words : Nat
  /-- The number of records written. -/
  records : Nat
  /-- The number of bytes written. -/
  bytes : Nat
  deriving DecidableEq

/-- What a job returns and leaves behind. -/
structure Report (σ : Type) where
  /-- What was done, or why it failed. -/
  result : Except Failure Summary
  /-- The source of indices after the job. -/
  source : σ
  /-- The tree after the job. -/
  tree : Tree
  /-- The events in the order in which they happened. -/
  events : List Event
  /-- The URLs that were asked for. -/
  requests : List Web.Url

namespace Job

/-- A job with the usual number of draws. -/
def ofBudget (budget : UInt64) (output : Path) : Job := ⟨budget, output, Generator.defaultAttempts⟩

variable {σ : Type} [IndexSource σ]

/-- Puts the records of a list into the output file. -/
def write (job : Job) (list : WordList) (source : σ) (tree : Tree) : Outcome (σ × Tree) Summary :=
  match Staged.create job.output tree with
  | .error cause => ⟨.error (.error (.io cause)), (source, tree), []⟩
  | .ok staged =>
    let generated := (Generator.withAttempts job.attempts).writeTo list job.budget source staged
    let (source, staged, tree) := generated.state
    match generated.result with
    | .error failure => ⟨.error failure, (source, staged.discard tree), generated.events⟩
    | .ok _ =>
      match staged.finish tree with
      | (.error cause, tree) => ⟨.error (.error (.io cause)), (source, tree), generated.events⟩
      | (.ok bytes, tree) =>
        let records := (recordCount job.budget).toNat
        ⟨.ok ⟨list.size, records, bytes⟩, (source, tree),
          generated.events ++ [.wrote job.output.text records bytes]⟩

/-- Does the whole job. -/
def run (job : Job) (origin : WordOrigin) (network : Web.Network) (source : σ) (tree : Tree) :
    Report σ :=
  let loading := origin.load network tree
  match loading.result with
  | .error cause => ⟨.error (.error cause), source, tree, loading.events, loading.requests⟩
  | .ok list =>
    let outcome := job.write list source tree
    ⟨outcome.result, outcome.state.1, outcome.state.2, loading.events ++ outcome.events,
      loading.requests⟩

end Job

end WordPairs
