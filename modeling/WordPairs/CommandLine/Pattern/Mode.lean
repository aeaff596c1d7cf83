import WordPairs.Text.Alphanumeric

/-!
# Modes of patterns

Flags in a pattern say how the rest of it is read. Where blanks are skipped, remarks are skipped as
well.
-/

namespace WordPairs.CommandLine.Pattern

open WordPairs.Text

/-- How a pattern is read. -/
structure Mode where
  /-- Whether blanks are skipped, and remarks, which go from a number sign to the end of a line. -/
  skipsBlanks : Bool
  /-- Whether the pattern stands for characters; otherwise it stands for bytes. -/
  wide : Bool
  /-- Whether letters that differ in case alone are the same. -/
  anyCase : Bool
  deriving DecidableEq

/-- The letters of the flags, and the dash before those that are turned off. -/
def flags : List Char := ['i', 'm', 's', 'U', 'u', 'x', 'R', '-']

/-- Whether a text lists flags: none stands in it twice, and the dash is not the last. -/
def areFlags (text : List Char) : Bool :=
  text.all flags.contains && decide text.Nodup && text.getLast? != some '-'

/-- A text without the blanks and remarks at its front. It may begin inside of a remark. -/
def dropBlanks : Bool → List Char → List Char
  | _, [] => []
  | inRemark, char :: text =>
    if inRemark then dropBlanks (char != '\n') text
    else if isBlank char then dropBlanks false text
    else if char = '#' then dropBlanks true text
    else char :: text

/-- Nothing is added to a text by dropping blanks. -/
theorem dropBlanks_length_le (inRemark : Bool) (text : List Char) :
    (dropBlanks inRemark text).length ≤ text.length := by
  induction text generalizing inRemark with
  | nil => simp [dropBlanks]
  | cons char text inner =>
    unfold dropBlanks
    split
    · exact Nat.le_succ_of_le (inner _)
    · split
      · exact Nat.le_succ_of_le (inner _)
      · split
        · exact Nat.le_succ_of_le (inner _)
        · exact Nat.le_refl _

namespace Mode

/-- How a pattern is read from its beginning. -/
def standard : Mode := ⟨false, true, false⟩

/-- A mode behind flags. Those after a dash are turned off. -/
def under (mode : Mode) (flags : List Char) : Mode :=
  let on := flags.takeWhile (· != '-')
  let choose (flag : Char) (held : Bool) : Bool :=
    on.contains flag || (held && !flags.contains flag)
  ⟨choose 'x' mode.skipsBlanks, choose 'u' mode.wide, choose 'i' mode.anyCase⟩

/-- A text from where reading goes on. -/
def skip (mode : Mode) (text : List Char) : List Char :=
  if mode.skipsBlanks then dropBlanks false text else text

/-- Nothing is added to a text by skipping. -/
theorem skip_length_le (mode : Mode) (text : List Char) :
    (mode.skip text).length ≤ text.length := by
  unfold skip
  split
  · exact dropBlanks_length_le _ _
  · exact Nat.le_refl _

/-- The character that is seen ahead of a text: the first, or the first behind blanks and a single
number sign where blanks are skipped. -/
def ahead? (mode : Mode) (text : List Char) : Option Char :=
  if mode.skipsBlanks then
    match text.dropWhile isBlank with
    | '#' :: text => (text.dropWhile isBlank).head?
    | text => text.head?
  else text.head?

/-- Whether it is known which letters differ in case alone, if that matters. It is known of bytes
only. -/
def knowsCase (mode : Mode) : Bool := !(mode.wide && mode.anyCase)

end Mode

end WordPairs.CommandLine.Pattern
