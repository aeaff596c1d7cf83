import WordPairs.Error
import WordPairs.Files.Path

/-!
# Directory trees

A tree holds directories and files at their places, and temporary files that no path leads to. A
temporary file is known by a serial number, and moving it to a path is one step.
-/

namespace WordPairs

/-- What stands at a place. -/
inductive Node where
  /-- A directory. -/
  | directory
  /-- A file with its bytes. -/
  | file (content : List UInt8)
  deriving DecidableEq

/-- A file that no path leads to. -/
structure Temporary where
  /-- The number that it is known by. -/
  serial : Nat
  /-- The directory that it is in. -/
  directory : Location
  /-- Its bytes. -/
  content : Array UInt8
  deriving DecidableEq

/-- The files and directories of a working directory. -/
structure Tree where
  /-- The length of the path from the root to the working directory, in bytes. -/
  workingLength : Nat
  /-- What stands at which place. The directories above the places are not listed. -/
  named : List (Location × Node)
  /-- The temporary files, whose serial numbers differ. -/
  temporaries : List Temporary
  deriving DecidableEq

namespace Tree

/-- A working directory with nothing in it, at the end of a path of so many bytes. -/
def empty (workingLength : Nat := 15) : Tree := ⟨workingLength, [], []⟩

/-- What stands at a place. A place without a name is the directory where walks begin. -/
def node? (tree : Tree) (location : Location) : Option Node :=
  if location.names.isEmpty then some .directory
  else (tree.named.find? (·.1 = location)).map (·.2)

/-- A place that must be a directory on the way to another. -/
def requireDirectory (tree : Tree) (location : Location) : Except IoError Unit :=
  match tree.node? location with
  | some .directory => .ok ()
  | some (.file _) => .error .notADirectory
  | none => .error .notFound

/-- Walks along names. Each name but the last must lead to a directory. -/
def walk (tree : Tree) : List String → Location → Except IoError Location
  | [], location => .ok location
  | name :: names, location =>
    match tree.requireDirectory location with
    | .error cause => .error cause
    | .ok () =>
      if name = "." then tree.walk names location
      else if name = ".." then tree.walk names location.above
      else if Path.nameLimit < name.utf8ByteSize then .error .nameTooLong
      else tree.walk names (location.child name)

/-- The bytes of the file at a path. -/
def read (tree : Tree) (path : Path) : Except IoError (List UInt8) :=
  if path.hasNul then .error .nulInName
  else if path.isEmpty then .error .notFound
  else if path.isTooLong then .error .nameTooLong
  else
    match tree.walk path.names path.start with
    | .error cause => .error cause
    | .ok location =>
      match tree.node? location with
      | none => .error .notFound
      | some .directory => .error .isADirectory
      | some (.file content) => if path.endsInSlash then .error .notADirectory else .ok content

/-- What stands at a path, if it can be found. -/
def look? (tree : Tree) (path : Path) : Option Node :=
  match tree.read path with
  | .ok content => some (.file content)
  | .error .isADirectory => some .directory
  | .error _ => none

/-- Puts a node at a place, instead of what may stand there. -/
def put (tree : Tree) (location : Location) (node : Node) : Tree :=
  { tree with named := (tree.named.filter (·.1 ≠ location)) ++ [(location, node)] }

/-- A place holds what was put there. -/
theorem node?_put_self (tree : Tree) {location : Location} (node : Node)
    (named : location.names ≠ []) : (tree.put location node).node? location = some node := by
  have before : (tree.named.filter (·.1 ≠ location)).find? (·.1 = location) = none := by
    rw [List.find?_eq_none]
    intro entry member
    simpa using (List.mem_filter.1 member).2
  have unnamed : ¬ location.names.isEmpty := by simpa using named
  rw [node?, put, if_neg unnamed, List.find?_append, before]
  simp

/-- Putting something at one place leaves all other places as they are. -/
theorem node?_put_of_ne (tree : Tree) {location other : Location} (node : Node)
    (distinct : other ≠ location) : (tree.put location node).node? other = tree.node? other := by
  have kept : (tree.named.filter (·.1 ≠ location)).find? (·.1 = other) =
      tree.named.find? (·.1 = other) := by
    rw [List.find?_filter]
    congr 1
    funext entry
    by_cases same : entry.1 = other <;> simp [same, distinct]
  rw [node?, node?, put, List.find?_append, kept]
  simp [Ne.symm distinct]

/-- The directories from the working directory down along names, each added if it is missing. -/
def addDirectories (tree : Tree) (location : Location) : List String → Tree
  | [] => tree
  | name :: names =>
    let next := location.child name
    let tree := match tree.node? next with
      | some _ => tree
      | none => tree.put next .directory
    tree.addDirectories next names

/-- Adds a directory and those above it. -/
def addDirectory (tree : Tree) (path : Path) : Tree := tree.addDirectories .working path.names

/-- Adds a file and the directories above it. -/
def addFile (tree : Tree) (path : Path) (content : List UInt8) : Tree :=
  (tree.addDirectories .working path.names.dropLast).put ⟨.working 0, path.names⟩ (.file content)

/-- The number of files and directories below the working directory, temporary files included. -/
def count (tree : Tree) : Nat :=
  (tree.named.filter (·.1.isInside)).length +
    (tree.temporaries.filter (·.directory.origin = .working 0)).length

/-- The paths below the working directory and what stands there. -/
def listing (tree : Tree) : List (String × Node) :=
  (tree.named.filter (·.1.isInside)).map fun entry => (entry.1.text, entry.2)

/-! ## Temporary files -/

/-- A serial number that no temporary file has. -/
def freshSerial (tree : Tree) : Nat :=
  tree.temporaries.foldl (fun serial file => max serial (file.serial + 1)) 0

/-- Serial numbers in a list lie below the number that is fresh for it. -/
theorem lt_foldl_max (files : List Temporary) (least : Nat) :
    least ≤ files.foldl (fun serial file => max serial (file.serial + 1)) least ∧
      ∀ file ∈ files,
        file.serial < files.foldl (fun serial file => max serial (file.serial + 1)) least := by
  induction files generalizing least with
  | nil => simp
  | cons file files ih =>
    have rest := ih (max least (file.serial + 1))
    refine ⟨by simp only [List.foldl_cons]; omega, fun other member => ?_⟩
    rcases List.mem_cons.1 member with rfl | member
    · simp only [List.foldl_cons]
      omega
    · exact rest.2 other member

/-- The serial number of every temporary file lies below the fresh one. -/
theorem lt_freshSerial (tree : Tree) {file : Temporary} (member : file ∈ tree.temporaries) :
    file.serial < tree.freshSerial :=
  (lt_foldl_max tree.temporaries 0).2 file member

/-- The directory that a path lies in, which must exist. -/
def parent (tree : Tree) (path : Path) : Except IoError Location :=
  if path.parentNames.any (·.toList.contains '\x00') then .error .nulInName
  else if Path.lengthLimit ≤ path.stagingLength tree.workingLength then .error .nameTooLong
  else
    match tree.walk path.parentNames path.parentStart with
    | .error cause => .error cause
    | .ok directory => (tree.requireDirectory directory).map fun () => directory

/-- Creates an empty temporary file next to a path. -/
def createTemporary (tree : Tree) (path : Path) : Except IoError (Nat × Tree) :=
  match tree.parent path with
  | .error cause => .error cause
  | .ok directory =>
    .ok (tree.freshSerial,
      { tree with temporaries := ⟨tree.freshSerial, directory, #[]⟩ :: tree.temporaries })

/-- The bytes of a temporary file. -/
def temporary (tree : Tree) (serial : Nat) : Array UInt8 :=
  match tree.temporaries.find? (·.serial = serial) with
  | some file => file.content
  | none => #[]

/-- Writes bytes behind those of a temporary file. -/
def appendTemporary (tree : Tree) (serial : Nat) (bytes : List UInt8) : Tree :=
  { tree with temporaries := tree.temporaries.map fun file =>
      if file.serial = serial then { file with content := file.content ++ bytes } else file }

/-- Removes a temporary file. -/
def removeTemporary (tree : Tree) (serial : Nat) : Tree :=
  { tree with temporaries := tree.temporaries.filter (·.serial ≠ serial) }

/-- A temporary file that is removed right after it was created leaves no trace. -/
theorem removeTemporary_of_createTemporary {tree next : Tree} {path : Path} {serial : Nat}
    (created : tree.createTemporary path = .ok (serial, next)) :
    next.removeTemporary serial = tree := by
  unfold createTemporary at created
  split at created
  · cases created
  · cases created
    have others : tree.temporaries.filter (·.serial ≠ tree.freshSerial) = tree.temporaries :=
      List.filter_eq_self.2 fun file member =>
        decide_eq_true (Nat.ne_of_lt (tree.lt_freshSerial member))
    rw [removeTemporary, List.filter_cons_of_neg (by simp), others]

/-- The place that a path names as the goal of a move. -/
def goal (tree : Tree) (path : Path) : Except IoError Location :=
  if path.hasNul then .error .invalidArgument
  else if path.isEmpty then .error .notFound
  else if path.isTooLong then .error .nameTooLong
  else
    match path.names.getLast?, tree.walk path.names.dropLast path.start with
    | none, _ => .error .busy
    | some _, .error cause => .error cause
    | some name, .ok directory =>
      match tree.requireDirectory directory with
      | .error cause => .error cause
      | .ok () =>
        if name = "." ∨ name = ".." then .error .busy
        else if Path.nameLimit < name.utf8ByteSize then .error .nameTooLong
        else if path.endsInSlash then .error .notADirectory
        else if tree.node? (directory.child name) = some .directory then .error .isADirectory
        else .ok (directory.child name)

/-- Moves a temporary file to a path, in place of a file that may stand there. If it cannot be
moved, it is removed and nothing else changes. -/
def commit (tree : Tree) (serial : Nat) (path : Path) : Except IoError Unit × Tree :=
  match tree.goal path with
  | .error cause => (.error cause, tree.removeTemporary serial)
  | .ok location =>
    (.ok (), (tree.removeTemporary serial).put location (.file (tree.temporary serial).toList))

end Tree

end WordPairs
