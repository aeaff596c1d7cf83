/-!
# Paths

A path is a text whose names are separated by slashes. A location is the place that it leads to:
where it starts, and the names on the way down from there.

Places below the root and places above or below the working directory are told apart by where they
start, and are never taken for one place. What is said of paths is therefore meant for those on
which the two do not meet: absolute paths that do not lead to the working directory, nor to a place
above or below it, and relative paths that do not come back to it by its name or climb to the root.
-/

namespace WordPairs

/-- A path as it was written. -/
structure Path where
  /-- The names with the slashes between them. -/
  text : String
  deriving DecidableEq

namespace Path

/-- The length from which on a path is refused, in bytes. -/
def lengthLimit : Nat := 4096

/-- The greatest length of one name, in bytes. -/
def nameLimit : Nat := 255

/-- Whether the path is refused for its length. -/
def isTooLong (path : Path) : Bool := lengthLimit ≤ path.text.utf8ByteSize

/-- Whether a NUL character occurs in the path. -/
def hasNul (path : Path) : Bool := path.text.toList.contains '\x00'

/-- Whether the path has no character. -/
def isEmpty (path : Path) : Bool := path.text.isEmpty

/-- Whether the path starts at the root. -/
def isAbsolute (path : Path) : Bool := path.text.toList.head? == some '/'

/-- Whether the path ends in a slash. -/
def endsInSlash (path : Path) : Bool := path.text.toList.getLast? == some '/'

/-- The names of the path; repeated slashes count as one. -/
def names (path : Path) : List String := (path.text.splitOn "/").filter (!·.isEmpty)

end Path

/-- Where a walk begins. -/
inductive Origin where
  /-- The directory so many levels above the working directory. -/
  | working (up : Nat)
  /-- The root. -/
  | root
  deriving DecidableEq

/-- A place that a path leads to. -/
structure Location where
  /-- Where the walk begins. -/
  origin : Origin
  /-- The names on the way down. -/
  names : List String
  deriving DecidableEq

namespace Location

/-- The working directory. -/
def working : Location := ⟨.working 0, []⟩

/-- The place of a name in a directory. -/
def child (location : Location) (name : String) : Location :=
  { location with names := location.names ++ [name] }

/-- The directory above; the root is above itself. -/
def above (location : Location) : Location :=
  if location.names.isEmpty then
    match location.origin with
    | .working up => ⟨.working (up + 1), []⟩
    | .root => location
  else { location with names := location.names.dropLast }

/-- Whether the place is below the working directory. -/
def isInside (location : Location) : Bool :=
  location.origin == .working 0 && !location.names.isEmpty

/-- The path from the working directory to a place below it. -/
def text (location : Location) : String := String.intercalate "/" location.names

end Location

/-- Where the walk along a path begins. -/
def Path.start (path : Path) : Location :=
  if path.isAbsolute then ⟨.root, []⟩ else .working

/-- A text in reverse without slashes, and names that stay in place behind slashes, at its end. A
single slash stays, since it stands for the root. -/
def Path.trimEnd : List Char → List Char
  | ['/'] => ['/']
  | '/' :: text => Path.trimEnd text
  | '.' :: '/' :: text => Path.trimEnd ('/' :: text)
  | text => text

/-- The path of the directory that a path lies in, as it is written; it may be empty. -/
def Path.parentText (path : Path) : String :=
  String.ofList (Path.trimEnd ((Path.trimEnd path.text.toList.reverse).dropWhile (· ≠ '/'))).reverse

/-- The length of the name of a temporary file, in bytes. -/
def Path.temporaryLength : Nat := 10

/-- The length of the path from the root to a temporary file next to a path, in bytes, when that to
the working directory has so many. A path that names no directory is taken to lie in `.`. -/
def Path.stagingLength (workingLength : Nat) (path : Path) : Nat :=
  let directory := match path.parentText.utf8ByteSize with
    | 0 => 1
    | size => size
  if path.isAbsolute then directory + 1 + Path.temporaryLength
  else workingLength + 1 + directory + 1 + Path.temporaryLength

/-- The names that lead to the directory a path lies in: all but the last, not counting those that
stay in place. -/
def Path.parentNames (path : Path) : List String := (path.names.filter (· != ".")).dropLast

/-- Where the walk to the directory of a path begins. A path of no names lies in the working
directory. -/
def Path.parentStart (path : Path) : Location :=
  if (path.names.filter (· != ".")).isEmpty then .working else path.start

end WordPairs
