import WordPairs.Files.Session
import WordPairs.Proofs.Files.Places
import WordPairs.Proofs.Generation.Draft

/-!
# Histories of sessions

What was done in a session and what it answered say what the session holds. The open files and
their bytes are those that were begun and not ended since, and each place holds what the last file
that was finished there has brought. Nothing here looks at the session itself, at its temporary
files or at bytes that are held back.
-/

namespace WordPairs

/-- Something that was done in a session. -/
structure Deed where
  /-- The name of the file that it was done with. -/
  name : String
  /-- What was to be done. -/
  action : Action
  /-- What was answered. -/
  reply : Reply

/-- A file that is open. -/
structure Holding where
  /-- The path that the file is to have. -/
  target : Path
  /-- The bytes accepted since it was begun. -/
  bytes : List UInt8
  deriving DecidableEq

/-- A file after some more bytes. -/
def Holding.with (holding : Holding) (bytes : List UInt8) : Holding :=
  { holding with bytes := holding.bytes ++ bytes }

/-- Whether an action gives bytes to a file that is open, or passes them on. -/
def Action.fills : Action → Bool
  | .write _ | .writeAll _ | .flush | .writeRecords _ | .writeTo .. => true
  | .create _ | .finish | .discard => false

namespace Deed

/-- The bytes that were accepted. When drawing records fails, those completed before were accepted
as whole records. -/
def accepted (deed : Deed) : List UInt8 :=
  match deed.action, deed.reply with
  | .write bytes, .written count => bytes.take count
  | .writeAll bytes, .done => bytes
  | .writeRecords records, .written _ => Record.concat records
  | .writeTo generator list budget source, _ =>
    Record.concat (generator.draftFor list budget source).records
  | _, _ => []

/-- What is open under the name afterwards. -/
def leaves (deed : Deed) (before : Option Holding) : Option Holding :=
  match deed.action, deed.reply with
  | .create target, .done => some ⟨target, []⟩
  | .create _, _ => before
  | .finish, _ | .discard, _ => none
  | _, _ => before.map (·.with deed.accepted)

end Deed

/-- The place that a file at a path would come to stand at. -/
def Tree.goal? (tree : Tree) (path : Path) : Option Location := (tree.goal path).toOption

/-- A path leads to a place exactly if a file can be moved to the place. -/
theorem Tree.goal?_eq_some_iff {tree : Tree} {path : Path} {place : Location} :
    tree.goal? path = some place ↔ tree.goal path = .ok place := by
  rw [goal?]
  cases tree.goal path with
  | error cause => simp [Except.toOption]
  | ok found => simp [Except.toOption]

/-- What is open under a name after some deeds, of which the latest is the first. -/
def opened (name : String) : List Deed → Option Holding
  | [] => none
  | deed :: earlier =>
    if name = deed.name then deed.leaves (opened name earlier) else opened name earlier

/-- What stands at a place after some deeds, of which the latest is the first: the bytes of the last
file that was finished there, or what stood there in the beginning. -/
def placed (tree : Tree) (place : Location) : List Deed → Option Node
  | [] => tree.node? place
  | deed :: earlier =>
    match deed.action, deed.reply, opened deed.name earlier with
    | .finish, .written _, some holding =>
      if tree.goal? holding.target = some place then some (.file holding.bytes)
      else placed tree place earlier
    | _, _, _ => placed tree place earlier

/-- What was done in a session in some steps, with the latest first. -/
def Session.log (session : Session) (steps : List (String × Action)) : List Deed :=
  (steps.zipWith (fun step reply => ⟨step.1, step.2, reply⟩) (session.performAll steps).1).reverse

/-- The first of some steps is the earliest. -/
theorem Session.log_cons (session : Session) (name : String) (action : Action)
    (steps : List (String × Action)) :
    let done := session.perform name action
    session.log ((name, action) :: steps) =
      done.2.log steps ++ [⟨name, action, done.1⟩] := by
  intro done
  rw [log, performAll, List.zipWith_cons_cons, List.reverse_cons]
  rfl

/-- Finishing files makes no place a directory and takes no directory away. -/
theorem placed_eq_directory_iff (tree : Tree) (place : Location) (log : List Deed) :
    placed tree place log = some .directory ↔ tree.node? place = some .directory := by
  induction log with
  | nil => rfl
  | cons deed earlier ih =>
    rw [placed]
    split
    · rename_i holding _ _ _
      by_cases reached : tree.goal? holding.target = some place
      · have free := (Tree.names_ne_nil_of_goal (Tree.goal?_eq_some_iff.1 reached)).2
        simpa [reached] using free
      · rw [if_neg reached]
        exact ih
    · exact ih

end WordPairs
