import WordPairs.CommandLine.Pattern

/-!
# Values of fields

The value that a filter asks of a field is a number or a pattern.
-/

namespace WordPairs.CommandLine

/-- Whether a text is a number without a sign: digits, with a fraction and an exponent or without,
or the name of a number that has no digits. -/
def isUnsigned (text : List Char) : Bool :=
  let rest := text.dropWhile Char.isDigit
  let fraction := match rest with
    | '.' :: rest => rest.takeWhile Char.isDigit
    | _ => []
  let behind := match rest with
    | '.' :: rest => rest.dropWhile Char.isDigit
    | rest => rest
  let exponent := match behind with
    | _ :: sign :: digits => if sign = '+' || sign = '-' then digits else sign :: digits
    | _ => []
  let hasExponent := match behind with
    | 'e' :: _ | 'E' :: _ => !exponent.isEmpty && exponent.all Char.isDigit
    | _ => behind.isEmpty
  (text.head?.any Char.isDigit || !fraction.isEmpty) && hasExponent ||
    ["inf", "infinity", "nan"].contains (String.ofList (text.map Char.toLower))

/-- Whether a text can be the value of a field. Numbers are patterns, but for those with a plus sign
in front. -/
def isFieldValue (text : List Char) : Bool :=
  Pattern.isPattern text || (text.head? == some '+' && isUnsigned (text.drop 1))

end WordPairs.CommandLine
