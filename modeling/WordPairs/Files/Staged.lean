import WordPairs.Files.Tree
import WordPairs.Writer.Basic

/-!
# Staged files

A staged file is written next to its target and takes the target's place only when it is finished.
Until then, and if it is discarded instead, the target stays as it is.
-/

namespace WordPairs

/-- A file that is being written. -/
structure Staged where
  /-- The path that the file is to have. -/
  target : Path
  /-- The temporary file that holds the bytes passed on so far. -/
  serial : Nat
  /-- Bytes that were accepted and not yet passed on. -/
  pending : Array UInt8
  /-- The number of bytes accepted so far. -/
  accepted : Nat

namespace Staged

/-- How many bytes are held back before they are passed on. -/
def capacity : Nat := 8192

/-- Begins a file for a path, whose directory must exist. -/
def create (target : Path) (tree : Tree) : Except IoError (Staged × Tree) :=
  (tree.createTemporary target).map fun made => (⟨target, made.1, #[], 0⟩, made.2)

/-- Passes on the bytes that are held back. -/
def spill (staged : Staged) (tree : Tree) : Staged × Tree :=
  ({ staged with pending := #[] }, tree.appendTemporary staged.serial staged.pending.toList)

/-- Accepts bytes. What is held back is passed on if the bytes do not fit behind it, and bytes that
would fill the room by themselves are passed on at once. -/
def accept (bytes : List UInt8) (staged : Staged) (tree : Tree) : Staged × Tree :=
  let (staged, tree) :=
    if capacity < staged.pending.size + bytes.length then staged.spill tree else (staged, tree)
  let staged := { staged with accepted := staged.accepted + bytes.length }
  if capacity ≤ bytes.length then (staged, tree.appendTemporary staged.serial bytes)
  else ({ staged with pending := staged.pending ++ bytes }, tree)

/-- A staged file together with the tree that holds it. -/
instance : ByteWriter (Staged × Tree) where
  write bytes state := (.ok bytes.length, state.1.accept bytes state.2)
  flush state := (.ok (), state.1.spill state.2)

/-- Moves the file to its target and returns the number of bytes accepted. -/
def finish (staged : Staged) (tree : Tree) : Except IoError Nat × Tree :=
  let (staged, tree) := staged.spill tree
  match tree.commit staged.serial staged.target with
  | (.ok (), tree) => (.ok staged.accepted, tree)
  | (.error cause, tree) => (.error cause, tree)

/-- Gives the file up. -/
def discard (staged : Staged) (tree : Tree) : Tree := tree.removeTemporary staged.serial

end Staged

end WordPairs
