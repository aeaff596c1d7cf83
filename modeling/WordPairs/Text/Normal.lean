import WordPairs.Text.Combining
import WordPairs.Text.Composition

/-!
# The normal form of a text

Texts that look alike can be written with different characters. The normal form takes all
characters apart, puts the marks behind each letter in the order of their classes, and puts together
what can be put together.
-/

namespace WordPairs.Text

/-- How often the first part of a character has parts itself, at most. -/
def partDepth : Nat := 3

/-- The parts of a character that have no parts, taken apart so many times at most. -/
def decompose : Nat → Char → List Char
  | 0, char => [char]
  | depth + 1, char =>
    match parts? char with
    | some (first, second) => decompose depth first ++ [second]
    | none => [char]

/-- Puts a mark behind the marks of its class and of lower classes. -/
def insertMark (mark : Char) : List Char → List Char
  | [] => [mark]
  | char :: marks =>
    if combiningClass char ≤ combiningClass mark then char :: insertMark mark marks
    else mark :: char :: marks

/-- Puts runs of marks in the order of their classes. The marks held belong to the run that has
begun. -/
def orderMarks (held : List Char) : List Char → List Char
  | [] => held
  | char :: text =>
    if combiningClass char = 0 then held ++ char :: orderMarks [] text
    else orderMarks (insertMark char held) text

/-- Puts a letter together with the marks behind it. The marks skipped, in reverse, did not join the
letter; a mark joins it only across marks of lower classes. -/
def composeFrom (letter : Char) (skipped : List Char) : List Char → List Char
  | [] => letter :: skipped.reverse
  | char :: text =>
    let hidden := match skipped with
      | last :: _ => decide (combiningClass char ≤ combiningClass last)
      | [] => false
    match if hidden then none else compose? letter char with
    | some whole => composeFrom whole skipped text
    | none =>
      if combiningClass char = 0 then letter :: (skipped.reverse ++ composeFrom char [] text)
      else composeFrom letter (char :: skipped) text

/-- The normal form of a text. -/
def normalForm (text : List Char) : List Char :=
  match orderMarks [] (text.flatMap (decompose partDepth)) with
  | [] => []
  | char :: text => composeFrom char [] text

end WordPairs.Text
