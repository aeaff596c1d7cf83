import WordPairs.Word64

/-!
# Numbers on a command line

A number is written in decimal digits, with a plus sign in front or without, and fits in a word.
-/

namespace WordPairs.CommandLine

/-- Why a text is no number. -/
inductive NumberError where
  /-- There is no digit. -/
  | empty
  /-- There is something else than a digit. -/
  | invalidDigit
  /-- The value fits in no word. -/
  | tooLarge
  deriving DecidableEq

/-- The text that reports why a text is no number. -/
def NumberError.message : NumberError → String
  | empty => "cannot parse integer from empty string"
  | invalidDigit => "invalid digit found in string"
  | tooLarge => "number too large to fit in target type"

/-- Reads digits behind a value, up to the first that is none or that makes the value too large. -/
def readDigits : UInt64 → List Char → Except NumberError UInt64
  | value, [] => .ok value
  | value, char :: rest =>
    if char.isDigit then
      match Word64.ofNat (10 * value.toNat + (char.toNat - 48)) with
      | .ok value => readDigits value rest
      | .error _ => .error .tooLarge
    else .error .invalidDigit

/-- Reads a number. -/
def readNumber (text : String) : Except NumberError UInt64 :=
  match text.toList with
  | [] => .error .empty
  | ['+'] => .error .invalidDigit
  | '+' :: digits => readDigits 0 digits
  | digits => readDigits 0 digits

end WordPairs.CommandLine
