import WordPairs.Text.Normal
import WordPairs.Web.Domain.Joining
import WordPairs.Web.Domain.Mapping
import WordPairs.Web.Domain.Punycode

/-!
# Labels

A domain name is made of labels. A label with characters beyond ASCII has a second form in ASCII
letters, which begins with a mark of its own.
-/

namespace WordPairs.Web.Domain

open WordPairs.Text

/-- An ASCII character. -/
def isAscii (char : Char) : Bool := char.toNat < 128

/-- The beginning of labels that stand for others. -/
def encodedMark : List Char := ['x', 'n', '-', '-']

/-- Whether a label begins as those do that stand for others. -/
def isEncoded (label : List Char) : Bool := encodedMark.isPrefixOf label

/-- The greatest number of characters of a label that are put into ASCII letters. -/
def wideLimit : Nat := 1000

/-- The greatest number of ASCII letters that are read as a label. -/
def encodedLimit : Nat := 2000

/-- A label in its two forms. -/
structure Label where
  /-- The label with all its characters. -/
  wide : List Char
  /-- The label in ASCII letters. -/
  ascii : List Char
  deriving DecidableEq

namespace Label

/-- Whether characters beyond ASCII stand where they may: no mark at the front, joiners only where
letters are joined, and not too many characters in all. -/
def isWellFormed (wide : List Char) : Bool :=
  !(wide.take 1).any isMark && joinersFit [] wide && wide.length ≤ wideLimit

/-- Whether a text is what it is written as in a name. -/
def isSpelled (wide : List Char) : Bool := (spellAll? wide).map normalForm == some wide

/-- The label that ASCII letters stand for. It needs such letters, and none others would do. -/
def ofEncoded? (ascii : List Char) : Option Label := do
  let code := ascii.drop encodedMark.length
  if encodedLimit < code.length || ascii.getLast? == some '-' then none
  else
    let wide ← Punycode.decode? code
    if isSpelled wide && isWellFormed wide && !isEncoded wide then some ⟨wide, ascii⟩ else none

/-- The label of a text in its normal form. -/
def ofText? (text : List Char) : Option Label :=
  if isEncoded text then ofEncoded? text
  else if text.all isAscii then some ⟨text, text⟩
  else if isWellFormed text then some ⟨text, encodedMark ++ Punycode.encode text⟩
  else none

end Label

end WordPairs.Web.Domain
