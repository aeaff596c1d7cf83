/-!
# Tables of characters

A table is a text of rows with blanks or line ends between them. Code points stand in it as
hexadecimal numbers, and a row of two numbers with a dash stands for all from one to the other.
-/

namespace WordPairs.Text

/-- The value of a hexadecimal digit. -/
def hexValue? (char : Char) : Option Nat :=
  if '0' ≤ char && char ≤ '9' then some (char.toNat - 48)
  else if 'a' ≤ char && char ≤ 'f' then some (char.toNat - 87)
  else if 'A' ≤ char && char ≤ 'F' then some (char.toNat - 55)
  else none

/-- The value of a hexadecimal number; what is no digit counts as zero. -/
def hexNumber (digits : List Char) : Nat :=
  digits.foldl (fun value char => 16 * value + (hexValue? char).getD 0) 0

/-- The hexadecimal digits of a number, in lower case and without leading zeros. -/
def hexDigits (value : Nat) : String := String.ofList (Nat.toDigits 16 value)

/-- A text cut at every character that separates. -/
def splitWhere (separates : Char → Bool) (text : List Char) : List (List Char) :=
  text.foldr
    (fun char parts =>
      match parts with
      | part :: parts => if separates char then [] :: part :: parts else (char :: part) :: parts
      | [] => [[char]])
    [[]]

/-- The rows of a table. -/
def rows (table : String) : List (List Char) :=
  (splitWhere (fun char => char == ' ' || char == '\n') table.toList).filter (!·.isEmpty)

/-- The code points from one to another. -/
structure Span where
  /-- The least of them. -/
  first : Nat
  /-- The greatest of them. -/
  last : Nat
  deriving DecidableEq

namespace Span

/-- The code points that a row stands for: one, or two with a dash and all between them. -/
def ofRow (row : List Char) : Span :=
  match splitWhere (· == '-') row with
  | [first, last] => ⟨hexNumber first, hexNumber last⟩
  | _ => ⟨hexNumber row, hexNumber row⟩

/-- Whether a character is among the code points. -/
def contains (span : Span) (char : Char) : Bool :=
  span.first ≤ char.toNat && char.toNat ≤ span.last

end Span

/-- A set of characters as a table. -/
abbrev Spans := List Span

namespace Spans

/-- The set of a table whose rows are code points and ranges of them. -/
def ofTable (table : String) : Spans := (rows table).map Span.ofRow

/-- Whether a character is in the set. -/
def contains (spans : Spans) (char : Char) : Bool := spans.any (·.contains char)

end Spans

end WordPairs.Text
