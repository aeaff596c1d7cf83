import WordPairs.Record.Basic
import WordPairs.Text.Quoted
import WordPairs.Text.Utf8

/-!
# Records as text

A record is shown by its content, read as UTF-8 and quoted.
-/

namespace WordPairs.Record

/-- The content of a record as text. -/
def text (record : Record) : List Char := Text.decode record.content

/-- The record as shown to a reader. -/
def debugText (record : Record) : String := "Record(" ++ Text.quote record.text ++ ")"

end WordPairs.Record
