import WordPairs.Web.Url.Basic

/-!
# Segments of paths

A path is read segment by segment. A single dot stays in place, and a double dot takes away the
segment before it. A segment that names a drive is not taken away, and in the path of a file nothing
stands above it.
-/

namespace WordPairs.Web.Url

/-- A slash, or what counts as one in the URLs of a special scheme. -/
def isSlash (special : Bool) (char : Char) : Bool := char == '/' || (special && char == '\\')

/-- A tab or line end, which a URL may hold anywhere and which is not part of it. -/
def isBreak (char : Char) : Bool := ['\t', '\n', '\r'].contains char

/-- A text without tabs and line ends. -/
def withoutBreaks (text : List Char) : List Char := text.filter (!isBreak ·)

/-- Whether a segment names a drive: a letter, and a colon or a bar. -/
def isDrive : List Char → Bool
  | [letter, mark] => letter.isAlpha && (mark == ':' || mark == '|')
  | _ => false

/-- What a segment asks for. -/
inductive Step where
  /-- To stay in place. -/
  | stay
  /-- To go up. -/
  | up
  /-- To go down. -/
  | down
  deriving DecidableEq

/-- A segment whose dots may be in percent encoding, with the dots as themselves. -/
def plainDots : List Char → List Char
  | '%' :: '2' :: 'e' :: rest => '.' :: plainDots rest
  | '%' :: '2' :: 'E' :: rest => '.' :: plainDots rest
  | char :: rest => char :: plainDots rest
  | [] => []

/-- What a segment asks for. -/
def stepOf (segment : List Char) : Step :=
  match plainDots (withoutBreaks segment) with
  | ['.'] => .stay
  | ['.', '.'] => .up
  | _ => .down

/-- The segments before without the last, unless it names a drive. Segments are in reverse. -/
def goUp : List (List Char) → List (List Char)
  | [] => []
  | last :: before => if isDrive last then last :: before else before

/-- How far a path has been followed. -/
structure Walk where
  /-- The segments so far, in reverse. -/
  before : List (List Char)
  /-- Whether a drive has been found to stand where a host could. -/
  onDrive : Bool
  deriving DecidableEq

namespace Walk

/-- Nothing of a path. -/
def start : Walk := ⟨[], false⟩

/-- A segment further down. -/
def down (walk : Walk) (segment : List Char) : Walk :=
  { walk with before := percentEncode inPath segment :: walk.before }

/-- A segment further up. -/
def up (walk : Walk) : Walk := { walk with before := goUp walk.before }

end Walk

/-- Follows segments, going down as told. If the last segment asks to stay or to go up, an empty one
stands at the end. -/
def follow (down : Walk → List Char → Walk) : Walk → List (List Char) → Walk
  | walk, [] => walk
  | walk, segment :: segments =>
    let next := match stepOf segment with
      | .stay => walk
      | .up => walk.up
      | .down => down walk segment
    if segments.isEmpty && stepOf segment ≠ .down then next.down [] else follow down next segments

/-- The texts between the slashes of a path. -/
def cutSegments (special : Bool) (path : List Char) : List (List Char) :=
  Text.splitWhere (isSlash special) path

/-- A path without the slash that it may begin with. -/
def withoutSlash (special : Bool) : List Char → List Char
  | first :: path => if isSlash special first then path else first :: path
  | [] => []

/-- Reads a path behind other segments. -/
def readBehind (special : Bool) (before : List (List Char)) (path : List Char) : UrlPath :=
  let walk := follow Walk.down ⟨before.reverse, false⟩
    (cutSegments special (withoutSlash special path))
  .segments walk.before.reverse

/-- Reads a whole path. Only the URLs of special schemes have a path if none is written. -/
def readPath (special : Bool) (path : List Char) : UrlPath :=
  if path.isEmpty && !special then .segments [] else readBehind special [] path

end WordPairs.Web.Url
