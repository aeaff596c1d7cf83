import WordPairs.CommandLine.Pattern.Atom
import WordPairs.CommandLine.Pattern.Depth

/-!
# Brackets in patterns

Brackets hold the members of a set of characters: atoms, ranges, named sets and other brackets.
Between members may stand operators on sets, which bind from the left.
-/

namespace WordPairs.CommandLine.Pattern

open WordPairs.Text

/-- What has been read of an open bracket. -/
structure Bracket where
  /-- The depth of what stands before the last operator. -/
  operand : Option Nat
  /-- The depths of the members behind it, the last one first. -/
  members : List Nat
  deriving DecidableEq

namespace Bracket

/-- A bracket in which nothing has been read. -/
def empty : Bracket := ⟨none, []⟩

/-- The depth of what has been read. -/
def depth (bracket : Bracket) : Nat :=
  match bracket.operand with
  | none => depthOf bracket.members
  | some operand => max operand (depthOf bracket.members) + 1

/-- A bracket with one more member. -/
def add (bracket : Bracket) (depth : Nat) : Bracket :=
  { bracket with members := depth :: bracket.members }

/-- A bracket behind an operator. -/
def operate (bracket : Bracket) : Bracket := ⟨some bracket.depth, []⟩

end Bracket

/-- Reads the front of a bracket, where dashes stand for themselves, or else a closing bracket. -/
def readFront (mode : Mode) (bracket : Bracket) (text : List Char) : Bracket × List Char :=
  match _front : mode.skip text with
  | '-' :: rest => readFront mode (bracket.add 0) rest
  | ']' :: rest => if bracket.members.isEmpty then (bracket.add 0, rest) else (bracket, ']' :: rest)
  | rest => (bracket, rest)
termination_by text.length
decreasing_by
  have short := mode.skip_length_le text
  simp_all only [List.length_cons]
  omega

/-- Reads what stands behind an opening bracket. A caret stands for all other characters, which
bytes cannot tell. -/
def openBracket? (mode : Mode) (text : List Char) : Option (Bracket × List Char) :=
  let (reversed, text) := match mode.skip text with
    | '^' :: text => (true, text)
    | text => (false, text)
  let (bracket, text) := readFront mode .empty text
  if (reversed && !mode.wide) || !(mode.knowsCase || bracket.members.isEmpty) then none
  else some (bracket, text)

/-- The names of sets of ASCII characters. -/
def namedSets : List String :=
  ["alnum", "alpha", "ascii", "blank", "cntrl", "digit", "graph", "lower", "print", "punct",
    "space", "upper", "word", "xdigit"]

/-- Reads the name of a set behind a bracket and a colon, and whether a caret stands before it. -/
def readNamed? (text : List Char) : Option (Bool × List Char) :=
  let (reversed, text) := match text with
    | '^' :: text => (true, text)
    | text => (false, text)
  match text.dropWhile (· != ':') with
  | ':' :: ']' :: rest =>
    if namedSets.contains (String.ofList (text.takeWhile (· != ':'))) then some (reversed, rest)
    else none
  | _ => none

/-- Reads an atom in brackets that begins with a character. -/
def readMemberAtom? (mode : Mode) (char : Char) (text : List Char) :
    Option (Atom × List Char) := do
  let (atom, text) ← if char = '\\' then readEscaped? mode text
    else some (.char char false, text)
  if atom.fitsBrackets mode then some (atom, text) else none

/-- Reads a member of a bracket that begins with a character: an atom, or a range between two
characters. -/
def readMember? (mode : Mode) (char : Char) (text : List Char) : Option (List Char) := do
  let (first, text) ← readMemberAtom? mode char text
  match mode.skip text with
  | '-' :: behind =>
    if mode.ahead? behind == some ']' || mode.ahead? behind == some '-' then some ('-' :: behind)
    else
      match mode.skip behind with
      | [] => none
      | char :: behind => do
        let (last, rest) ← readMemberAtom? mode char behind
        match first, last with
        | .char low _, .char high _ => if low ≤ high then some rest else none
        | _, _ => none
  | text => some text

/-- How far brackets have been read. -/
inductive Brackets where
  /-- Brackets are open: the innermost, and those around it. -/
  | opened (inner : Bracket) (outer : List Bracket)
  /-- All brackets are closed, and so deep do they go. -/
  | closed (depth : Nat)
  deriving DecidableEq

/-- Reads a part of open brackets. -/
def readInside? (mode : Mode) (inner : Bracket) (outer : List Bracket) (text : List Char) :
    Option (Brackets × List Char) :=
  match text with
  | [] => none
  | ']' :: rest =>
    match outer with
    | [] => some (.closed (inner.depth + 1), rest)
    | next :: outer => some (.opened (next.add (inner.depth + 1)) outer, rest)
  | '&' :: '&' :: rest | '-' :: '-' :: rest | '~' :: '~' :: rest =>
    some (.opened inner.operate outer, rest)
  | '[' :: rest =>
    let named := match rest with
      | ':' :: name => readNamed? name
      | _ => none
    match named with
    | some (reversed, rest) =>
      if mode.knowsCase && (mode.wide || !reversed) then some (.opened (inner.add 0) outer, rest)
      else none
    | none => do
      let (next, rest) ← openBracket? mode rest
      some (.opened next (inner :: outer), rest)
  | char :: rest => do
    let rest ← readMember? mode char rest
    some (.opened (inner.add 0) outer, rest)

/-- Reads brackets up to the last that closes, and tells how deep they go. -/
def readBrackets? (mode : Mode) (inner : Bracket) (outer : List Bracket) (text : List Char) :
    Option (Nat × List Char) :=
  match readInside? mode inner outer (mode.skip text) with
  | none => none
  | some (.closed depth, rest) => some (depth, rest)
  | some (.opened inner outer, rest) =>
    if rest.length < text.length then readBrackets? mode inner outer rest else none
termination_by text.length

/-- Reads a set of characters behind its opening bracket, and tells how deep it goes. -/
def readSet? (mode : Mode) (text : List Char) : Option (Nat × List Char) := do
  let (bracket, text) ← openBracket? mode text
  readBrackets? mode bracket [] text

end WordPairs.CommandLine.Pattern
