import WordPairs.CommandLine.Pattern.Mode

/-!
# Atoms of patterns

An atom of a pattern matches one character or a place between characters. Patterns are matched
without tables of characters and only against whole characters, so an atom that needs such a table,
or that matches a part of a character, does not fit.
-/

namespace WordPairs.CommandLine.Pattern

open WordPairs.Text

/-- A part of a pattern that holds no other part. -/
inductive Atom where
  /-- A character. In some modes it stands for a byte if it is written as a number of two digits. -/
  | char (value : Char) (asByte : Bool)
  /-- Any character. -/
  | any
  /-- The digits, blanks or characters of words, or all others. -/
  | kind (others : Bool)
  /-- A place between characters, which may be told by the words around it. -/
  | place (byWords : Bool)
  deriving DecidableEq

namespace Atom

/-- Whether an atom can stand in a pattern. -/
def fits (mode : Mode) : Atom → Bool
  | .char value asByte => if mode.wide then mode.knowsCase else !(asByte && 0x80 ≤ value.toNat)
  | .any => mode.wide
  | .kind others => !mode.wide && !others
  | .place byWords => !(mode.wide && byWords)

/-- Whether an atom can stand in brackets. -/
def fitsBrackets (mode : Mode) : Atom → Bool
  | .char value _ => if mode.wide then mode.knowsCase else value.toNat < 0x80
  | .kind others => !mode.wide && !others
  | _ => false

end Atom

/-- The atom of a single character behind a backslash. -/
def escaped? (char : Char) : Option Atom :=
  match char with
  | 'd' | 's' | 'w' => some (.kind false)
  | 'D' | 'S' | 'W' => some (.kind true)
  | 'A' | 'z' => some (.place false)
  | 'b' | 'B' | '<' | '>' => some (.place true)
  | 'a' => some (.char '\x07' false)
  | 't' => some (.char '\t' false)
  | 'n' => some (.char '\n' false)
  | 'v' => some (.char '\x0B' false)
  | 'f' => some (.char '\x0C' false)
  | 'r' => some (.char '\r' false)
  | _ => if char.toNat < 0x80 && !char.isAlphanum then some (.char char false) else none

/-- Reads so many hexadecimal digits behind a value. -/
def readDigits? (mode : Mode) : Nat → Nat → List Char → Option (Nat × List Char)
  | 0, value, text => some (value, text)
  | count + 1, value, text =>
    match mode.skip text with
    | char :: text => do readDigits? mode count (16 * value + (← hexValue? char)) text
    | [] => none

/-- Reads the code point of a character, in so many digits. -/
def readPoint? (mode : Mode) (count : Nat) (text : List Char) : Option (Atom × List Char) := do
  let (point, text) ← readDigits? mode count 0 text
  if point.isValidChar then some (.char (Char.ofNat point) (count = 2), text) else none

/-- Reads an atom behind a backslash. -/
def readEscaped? (mode : Mode) (text : List Char) : Option (Atom × List Char) :=
  match text with
  | 'x' :: text => readPoint? mode 2 text
  | 'u' :: text => readPoint? mode 4 text
  | 'U' :: text => readPoint? mode 8 text
  | char :: text => (escaped? char).map (·, text)
  | [] => none

/-- Reads an atom that begins with a character. -/
def readAtom? (mode : Mode) (char : Char) (text : List Char) : Option (Atom × List Char) :=
  match char with
  | '\\' => readEscaped? mode text
  | '.' => some (.any, text)
  | '^' | '$' => some (.place false, text)
  | _ => some (.char char false, text)

end WordPairs.CommandLine.Pattern
