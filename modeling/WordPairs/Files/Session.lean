import WordPairs.Draw.Supply
import WordPairs.Files.Staged
import WordPairs.Generation.Output

/-!
# Several staged files at once

A session has one tree and any number of staged files in it, each known by a name. Actions on one
file leave the others as they are.
-/

namespace WordPairs

/-- A tree and the staged files that are open in it. -/
structure Session where
  /-- The tree that all the files are in. -/
  tree : Tree
  /-- The open files by name. -/
  files : List (String × Staged)

/-- What can be done with a staged file. -/
inductive Action where
  /-- Begin a file, giving up one that has the same name. -/
  | create (target : Path)
  /-- Offer bytes once. -/
  | write (bytes : List UInt8)
  /-- Write all of the bytes. -/
  | writeAll (bytes : List UInt8)
  /-- Pass on what is held back. -/
  | flush
  /-- Write records and flush. -/
  | writeRecords (records : List Record)
  /-- Draw records and write them. -/
  | writeTo (generator : Generator) (list : WordList) (budget : UInt64) (source : Supply)
  /-- Move the file to its target. -/
  | finish
  /-- Give the file up. -/
  | discard

/-- What an action answers. -/
inductive Reply where
  /-- It was done. -/
  | done
  /-- It was done, and so many bytes were written. -/
  | written (bytes : Nat)
  /-- It failed. -/
  | failed (cause : Failure)
  /-- There is no open file of that name. -/
  | closed
  deriving DecidableEq

namespace Session

/-- A tree in which no file is open. -/
def start (tree : Tree) : Session := ⟨tree, []⟩

/-- The open file of a name. -/
def file? (session : Session) (name : String) : Option Staged := session.files.lookup name

/-- The open files but the one of a name. -/
def without (session : Session) (name : String) : List (String × Staged) :=
  session.files.filter (·.1 ≠ name)

/-- Keeps what an action left of a file and of the tree. -/
def keep (session : Session) (name : String) (state : Staged × Tree) : Session :=
  ⟨state.2, (name, state.1) :: session.without name⟩

/-- Closes a file, with what its end left of the tree. -/
def close (session : Session) (name : String) (tree : Tree) : Session :=
  ⟨tree, session.without name⟩

/-- Begins a file. One of the same name is given up after the new one exists. -/
def create (session : Session) (name : String) (target : Path) : Reply × Session :=
  match Staged.create target session.tree with
  | .error cause => (.failed (.error (.io cause)), session)
  | .ok (staged, tree) =>
    let tree := match session.file? name with
      | some old => old.discard tree
      | none => tree
    (.done, session.keep name (staged, tree))

/-- The reply to something that returns a number of bytes or fails. -/
def replyOf : Except IoError Nat → Reply
  | .ok bytes => .written bytes
  | .error cause => .failed (.error (.io cause))

/-- The reply to something that is done or fails. -/
def replyOfUnit : Except IoError Unit → Reply
  | .ok () => .done
  | .error cause => .failed (.error (.io cause))

/-- Does something with an open file. -/
def act (session : Session) (name : String) (staged : Staged) : Action → Reply × Session
  | .create target => session.create name target
  | .write bytes =>
    let (result, state) := ByteWriter.write bytes (staged, session.tree)
    (replyOf result, session.keep name state)
  | .writeAll bytes =>
    let (result, state) := ByteWriter.writeAll bytes (staged, session.tree)
    (replyOfUnit result, session.keep name state)
  | .flush =>
    let (result, state) := ByteWriter.flush (staged, session.tree)
    (replyOfUnit result, session.keep name state)
  | .writeRecords records =>
    let (result, state) := ByteWriter.writeRecords records (staged, session.tree)
    (replyOf result, session.keep name state)
  | .writeTo generator list budget source =>
    let outcome := generator.writeTo list budget source (staged, session.tree)
    let reply := match outcome.result with
      | .ok bytes => .written bytes.toNat
      | .error cause => .failed cause
    (reply, session.keep name outcome.state.2)
  | .finish =>
    let (result, tree) := staged.finish session.tree
    (replyOf result, session.close name tree)
  | .discard => (.done, session.close name (staged.discard session.tree))

/-- Does something with the file of a name. With a file that is not open, all that can be done is
to begin it. -/
def perform (session : Session) (name : String) (action : Action) : Reply × Session :=
  match session.file? name, action with
  | some staged, action => session.act name staged action
  | none, .create target => session.create name target
  | none, _ => (.closed, session)

/-- Does several things in order. -/
def performAll (session : Session) : List (String × Action) → List Reply × Session
  | [] => ([], session)
  | (name, action) :: actions =>
    let (reply, session) := session.perform name action
    let (replies, session) := session.performAll actions
    (reply :: replies, session)

/-- Gives up all files that are still open. -/
def finalTree (session : Session) : Tree :=
  session.files.foldl (fun tree entry => entry.2.discard tree) session.tree

end Session

end WordPairs
