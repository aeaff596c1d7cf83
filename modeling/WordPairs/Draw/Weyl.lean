import WordPairs.Draw.Uniform

/-!
# A hashed Weyl sequence

The state of the generator is a word to which every draw adds one odd constant, so that it walks
through all words before it repeats. What a draw returns is a hash of the state.
-/

namespace WordPairs

/-- A generator whose state advances by a fixed odd step. -/
structure Weyl where
  /-- The word that the next draw hashes. -/
  state : UInt64
  deriving DecidableEq

namespace Weyl

/-- The step of the state. It is odd, and about the golden section of the number of words. -/
def increment : UInt64 := 0x9E3779B97F4A7FFF

/-- The multiplier of the first round of the hash. -/
def alpha : BitVec 128 := 0x11F9ADBB8F8DA6FFF#128

/-- The multiplier of the second round of the hash. -/
def beta : BitVec 128 := 0x1E3DF208C6781EFFF#128

/-- The state from which a generator starts when none is given. -/
def defaultSeed : UInt64 := 1234

/-- The number of states, all of which a generator visits before it returns to one. -/
def period : Nat := Word64.modulus

/-- Two rounds of multiplication in 128 bits, each followed by folding the high half onto the low
half. -/
def hash (word : UInt64) : UInt64 :=
  let first := word.toBitVec.setWidth 128 * alpha
  let second := (first ^^^ (first >>> 64)) * beta
  UInt64.ofBitVec (((second >>> 64) ^^^ second).setWidth 64)

/-- A generator that starts at the default seed. -/
def default : Weyl := ⟨defaultSeed⟩

/-- The next draw and the generator after it. -/
def draw (generator : Weyl) : UInt64 × Weyl :=
  (hash generator.state, ⟨generator.state + increment⟩)

instance : BitSource Weyl where
  draw := draw
  turn _ := period

instance : IndexSource Weyl where
  next := Uniform.next

/-- Draws put behind those already made, which are held in reverse. -/
def drawsOnto (reversed : List UInt64) : Nat → Weyl → List UInt64 × Weyl
  | 0, generator => (reversed.reverse, generator)
  | count + 1, generator =>
    let drawn := generator.draw
    drawsOnto (drawn.1 :: reversed) count drawn.2

/-- The next `count` draws in order, and the generator after them. -/
def draws (count : Nat) (generator : Weyl) : List UInt64 × Weyl := drawsOnto [] count generator

/-- The generator as shown to a reader. -/
def debugText (generator : Weyl) : String :=
  "Rng \x7b state: Cell \x7b value: " ++ toString generator.state ++ " \x7d \x7d"

end Weyl

end WordPairs
