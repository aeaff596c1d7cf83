import WordPairs.Draw.Source
import WordPairs.Word64

/-!
# Rejection

A draw is reduced to a smaller range or refused. `drawUntil` draws until one is accepted. How often
it may do so is counted down, since a generator may repeat words that are all refused.
-/

namespace WordPairs

variable {γ : Type} [BitSource γ]

/-- Draws until a draw is accepted, at most `left` times. -/
def drawUntil (accept : UInt64 → Option UInt64) : Nat → γ → Except Fault (UInt64 × γ)
  | 0, _ => .error .exhausted
  | left + 1, generator =>
    let drawn := BitSource.draw generator
    match accept drawn.1 with
    | some value => .ok (value, drawn.2)
    | none => drawUntil accept left drawn.2

/-- Draws until a draw is accepted, for one turn of the generator. -/
def drawAccepted (accept : UInt64 → Option UInt64) (generator : γ) : Except Fault (UInt64 × γ) :=
  drawUntil accept (BitSource.turn generator) generator

variable {accept : UInt64 → Option UInt64} {generator : γ}

/-- A first draw that is accepted gives the result and is the only one. -/
theorem drawAccepted_of_some {value : UInt64} (turning : 0 < BitSource.turn generator)
    (accepted : accept (BitSource.draw generator).1 = some value) :
    drawAccepted accept generator = .ok (value, (BitSource.draw generator).2) := by
  obtain ⟨left, more⟩ := Nat.exists_eq_succ_of_ne_zero (Nat.ne_of_gt turning)
  rw [drawAccepted, more, drawUntil]
  simp only [accepted]

/-- A first draw that is refused leaves everything to the draws behind it. -/
theorem drawAccepted_of_none (refused : accept (BitSource.draw generator).1 = none) :
    drawAccepted accept generator =
      drawUntil accept (BitSource.turn generator - 1) (BitSource.draw generator).2 := by
  rw [drawAccepted]
  cases turns : BitSource.turn generator with
  | zero => rfl
  | succ left =>
    rw [drawUntil]
    simp only [refused, Nat.add_sub_cancel]

end WordPairs
