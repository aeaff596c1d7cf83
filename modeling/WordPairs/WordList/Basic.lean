import WordPairs.Error
import WordPairs.WordList.Lines

/-!
# Word lists

A word list holds its words in order and is never empty.
-/

namespace WordPairs

/-- An ordered list of one or more words. -/
structure WordList where
  /-- The words in order. -/
  words : Array Word
  /-- There is a word to draw. -/
  nonempty : 0 < words.size
  deriving DecidableEq

namespace WordList

/-- The list of the given words, refused if there is none. -/
def ofWords (words : List Word) : Except Error WordList :=
  if h : 0 < words.toArray.size then .ok ⟨words.toArray, h⟩ else .error .emptyWordList

/-- The list of the words of a text, one for each line. -/
def parse (text : List UInt8) : Except Error WordList := ofWords ((lines text).map Line.word)

/-- The number of words. -/
def size (list : WordList) : Nat := list.words.size

/-- Whether there is no word. -/
def isEmpty (list : WordList) : Bool := list.words.isEmpty

/-- The word at an index, if there is one. -/
def get? (list : WordList) (index : Nat) : Option Word := list.words[index]?

/-- The word at an index, which must be in range. -/
def word (list : WordList) (index : Nat) : Except Fault Word :=
  match list.get? index with
  | some word => .ok word
  | none => .error (.indexOutOfBounds list.size index)

/-- The words in order. -/
def toList (list : WordList) : List Word := list.words.toList

end WordList

end WordPairs
