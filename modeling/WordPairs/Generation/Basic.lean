import WordPairs.Draw.Source
import WordPairs.WordList.Basic

/-!
# Drawing records

A record takes two words of a list. The first is drawn until it is short, at most a fixed number of
times; the second is the word of one more draw.
-/

namespace WordPairs

/-- A short word has fewer bytes than this. -/
def shortWordLimit : Nat := 16

/-- Whether a word may stand first in a record. -/
def isShort (word : Word) : Bool := word.length < shortWordLimit

namespace WordList

/-- Whether some word may stand first in a record. -/
def hasShortWord (list : WordList) : Bool := list.words.any isShort

variable {σ : Type} [IndexSource σ]

/-- Draws a word of the list. -/
def draw (list : WordList) (source : σ) : Except Fault Word × σ :=
  match IndexSource.next list.size source with
  | .error fault => (.error fault, source)
  | .ok (index, source) => (list.word index, source)

/-- Draws words until one is short, at most `left` times out of `attempts`. -/
def drawShort (list : WordList) (attempts : Nat) : Nat → σ → Except Failure Word × σ
  | 0, source => (.error (.error (.noQualifyingWord attempts)), source)
  | left + 1, source =>
    match list.draw source with
    | (.error fault, source) => (.error (.fault fault), source)
    | (.ok word, source) =>
      if isShort word then (.ok word, source) else drawShort list attempts left source

end WordList

/-- The rules by which records are drawn. -/
structure Generator where
  /-- How many draws are made for one short word before the work fails. -/
  attempts : Nat
  /-- At least one draw is made. -/
  positive : 0 < attempts
  deriving DecidableEq

namespace Generator

/-- The number of draws made for one short word when none is given. -/
def defaultAttempts : Nat := 1000000

/-- The generator with the usual number of draws. -/
def standard : Generator := ⟨defaultAttempts, by decide⟩

/-- A generator with a given number of draws; none counts as one. -/
def withAttempts (attempts : Nat) : Generator := ⟨max 1 attempts, by omega⟩

/-- The generator as shown to a reader. -/
def debugText (generator : Generator) : String :=
  "RecordGenerator \x7b max_attempts: " ++ toString generator.attempts ++ " \x7d"

variable {σ : Type} [IndexSource σ]

/-- Draws one record. -/
def drawRecord (generator : Generator) (list : WordList) (source : σ) :
    Except Failure Record × σ :=
  match list.drawShort generator.attempts generator.attempts source with
  | (.error failure, source) => (.error failure, source)
  | (.ok first, source) =>
    match list.draw source with
    | (.error fault, source) => (.error (.fault fault), source)
    | (.ok second, source) => (.ok (Record.encode first second), source)

/-- Draws records one after the other and hands each to a receiver, until one of the two fails. -/
def drawEach {ω : Type} (generator : Generator) (list : WordList)
    (receive : Record → ω → Except Failure Unit × ω) :
    Nat → σ → ω → Except Failure Unit × σ × ω
  | 0, source, receiver => (.ok (), source, receiver)
  | count + 1, source, receiver =>
    match generator.drawRecord list source with
    | (.error failure, source) => (.error failure, source, receiver)
    | (.ok record, source) =>
      match receive record receiver with
      | (.error failure, receiver) => (.error failure, source, receiver)
      | (.ok (), receiver) => drawEach generator list receive count source receiver

end Generator

end WordPairs
