import WordPairs.Draw.Source

/-!
# Generators for a sampler

A tape repeats a list of words. `Counted` adds to any generator the number of words it has drawn.
-/

namespace WordPairs

/-- A list of words that is read in a loop. -/
structure Tape where
  /-- The words in order. -/
  words : Array UInt64
  /-- The number of words read so far. -/
  position : Nat

namespace Tape

/-- A tape at its beginning. -/
def ofList (words : List UInt64) : Tape := ⟨words.toArray, 0⟩

/-- The word under the head, zero on an empty tape, and the tape moved on. -/
def draw (tape : Tape) : UInt64 × Tape :=
  ((tape.words[tape.position % tape.words.size]?).getD 0,
    { tape with position := tape.position + 1 })

instance : BitSource Tape where
  draw := draw
  turn tape := tape.words.size

end Tape

/-- A generator together with the number of its draws. -/
structure Counted (γ : Type) where
  /-- The generator that is counted. -/
  generator : γ
  /-- How many words it has drawn. -/
  calls : Nat

namespace Counted

variable {γ : Type} [BitSource γ]

/-- A generator whose count starts here. -/
def start (generator : γ) : Counted γ := ⟨generator, 0⟩

/-- One draw, counted. -/
def draw (counted : Counted γ) : UInt64 × Counted γ :=
  let (word, generator) := BitSource.draw counted.generator
  (word, ⟨generator, counted.calls + 1⟩)

instance : BitSource (Counted γ) where
  draw := draw
  turn counted := BitSource.turn counted.generator

end Counted

end WordPairs
