import WordPairs.Web.Domain.Direction
import WordPairs.Web.Domain.Label

/-!
# Domain names

A domain name is a text of labels with dots between them. Names that people take for the same have
one form in ASCII letters.
-/

namespace WordPairs.Web.Domain

open WordPairs.Text

/-- The labels of a name. -/
def labels (name : List Char) : List (List Char) := splitWhere (· == '.') name

/-- Whether a name is in ASCII letters and stands for no other. -/
def isSimple (name : List Char) : Bool :=
  name.all isAscii && !(labels (name.map Char.toLower)).any isEncoded

/-- A name in ASCII letters. If characters of it are written from right to left, the directions of
all its labels must be clear. -/
def toAscii? (name : List Char) : Option (List Char) :=
  if isSimple name then some (name.map Char.toLower)
  else do
    let spelled ← spellAll? name
    let parts ← (labels (normalForm spelled)).mapM Label.ofText?
    if parts.any (runsRightToLeft ·.wide) && !parts.all (isClear ·.wide) then none
    else some (List.intercalate ['.'] (parts.map (·.ascii)))

end WordPairs.Web.Domain
