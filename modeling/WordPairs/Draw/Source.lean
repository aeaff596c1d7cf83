import WordPairs.Fault

/-!
# Sources of draws

A `BitSource` yields 64-bit words. An `IndexSource` yields indices below a length. Both are states
that a draw replaces; a draw that ends in a fault leaves the state it was given.
-/

namespace WordPairs

/-- A generator of 64-bit words. -/
class BitSource (γ : Type) where
  /-- The next word and the generator after it. -/
  draw : γ → UInt64 × γ
  /-- A number of draws after which the generator has shown every word it can show. -/
  turn : γ → Nat

/-- A source of indices. -/
class IndexSource (σ : Type) where
  /-- An index meant to lie below the length, and the source after it. -/
  next : Nat → σ → Except Fault (Nat × σ)

end WordPairs
