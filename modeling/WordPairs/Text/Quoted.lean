import WordPairs.Text.Plain

/-!
# Quoted text

A quoted text stands between quotation marks. Tabs, line ends, quotation marks and backslashes are
written with a backslash, and every other character that is not plain by its code point.
-/

namespace WordPairs.Text

/-- A character as it stands inside quotation marks. -/
def escape (char : Char) : String :=
  match char with
  | '\x00' => "\\0"
  | '\t' => "\\t"
  | '\r' => "\\r"
  | '\n' => "\\n"
  | '"' => "\\\""
  | '\\' => "\\\\"
  | _ => if isPlain char then String.singleton char else "\\u\x7b" ++ hexDigits char.toNat ++ "\x7d"

/-- A text between quotation marks. -/
def quote (text : List Char) : String := "\"" ++ String.join (text.map escape) ++ "\""

end WordPairs.Text
