import WordPairs.Proofs.Draw.Requests

/-!
# Plain rejection

The plain rule multiplies a draw with the width, refuses it if the low half of the product lies
below the remainder of the number of words by the width, and gives the high half otherwise. A
remainder costs a division. It can be saved for a low half that does not lie below the width, and
it need not be computed for one draw after the other. Neither changes what is drawn, or how often.
-/

namespace WordPairs

open Word64

namespace Uniform

/-- The plain rule, in exact arithmetic. -/
def plain? (width word : UInt64) : Option UInt64 :=
  let product := word.toNat * width.toNat
  if product % modulus < modulus % width.toNat then none
  else some (UInt64.ofNat (product / modulus))

/-- The rule that saves the remainder is the plain rule. -/
theorem reduce?_eq_plain? {width : UInt64} (positive : 0 < width) :
    reduce? width = plain? width := by
  funext word
  rw [plain?]
  by_cases low : word.toNat * width.toNat % modulus < modulus % width.toNat
  · rw [if_pos low]
    exact (reduce?_eq_none_iff positive word).2 low
  · have quotient := toNat_high word width
    rw [if_neg low, reduce?_eq_some_iff positive]
    exact ⟨Nat.le_of_not_lt low, quotient.symm⟩

/-- A power of two divides the number of words, so that it refuses no draw. -/
theorem modulus_mod_two_pow {width : UInt64} {exponent : Nat}
    (power : width.toNat = 2 ^ exponent) : modulus % width.toNat = 0 := by
  have bound : 2 ^ exponent < 2 ^ 64 := power ▸ width.toNat_lt
  have fewer : exponent < 64 := (Nat.pow_lt_pow_iff_right (by decide)).1 bound
  rw [power]
  exact Nat.mod_eq_zero_of_dvd (Nat.pow_dvd_pow 2 (Nat.le_of_lt fewer))

section Loop

variable {γ : Type} [BitSource γ] {width : UInt64}

/-- Goes on from a draw to the next one as long as the low half of the product with the width lies
below the remainder, for so many further draws at most. -/
def redraw (width remainder : UInt64) : Nat → UInt64 × γ → Except Fault (UInt64 × γ)
  | 0, drawn =>
    if drawn.1 * width < remainder then .error .exhausted else .ok (high drawn.1 width, drawn.2)
  | left + 1, drawn =>
    if drawn.1 * width < remainder then redraw width remainder left (BitSource.draw drawn.2)
    else .ok (high drawn.1 width, drawn.2)

/-- A word below the width for which the remainder is computed once at most. If the low half of the
first product does not lie below the width, the remainder is not computed at all. -/
def belowOnce (width : UInt64) (generator : γ) : Except Fault (UInt64 × γ) :=
  match BitSource.turn generator with
  | 0 => .error .exhausted
  | left + 1 =>
    let first := BitSource.draw generator
    if first.1 * width < width then redraw width ((0 - width) % width) left first
    else .ok (high first.1 width, first.2)

/-- What is refused has a low half below the remainder, and it is no matter whether that was
compared with the width before. -/
theorem reduce?_eq_ite (positive : 0 < width) (word : UInt64) :
    reduce? width word =
      if word * width < (0 - width) % width then none else some (high word width) := by
  have least : ((0 - width) % width).toNat < width.toNat := by
    rw [UInt64.toNat_mod]
    exact Nat.mod_lt _ positive
  rw [reduce?]
  by_cases low : word * width < (0 - width) % width
  · have below : word * width < width := Nat.lt_trans low least
    simp only [low, below, decide_true, Bool.and_self, if_true]
  · simp only [low, decide_false, Bool.and_false, Bool.false_eq_true, if_false]

/-- Going on from a draw is drawing until a word is accepted. -/
theorem redraw_eq_drawUntil (positive : 0 < width) (left : Nat) (generator : γ) :
    redraw width ((0 - width) % width) left (BitSource.draw generator) =
      drawUntil (reduce? width) (left + 1) generator := by
  induction left generalizing generator with
  | zero =>
    rw [redraw, drawUntil, reduce?_eq_ite positive]
    by_cases low : (BitSource.draw generator).1 * width < (0 - width) % width
    · simp only [if_pos low, drawUntil]
    · simp only [if_neg low]
  | succ left ih =>
    rw [redraw, drawUntil, reduce?_eq_ite positive]
    by_cases low : (BitSource.draw generator).1 * width < (0 - width) % width
    · simp only [if_pos low, ih]
    · simp only [if_neg low]

/-- Whether the remainder is computed for each draw, once, or not at all, the same is drawn from
every generator. -/
theorem below_eq_belowOnce (positive : 0 < width) (generator : γ) :
    below width generator = belowOnce width generator := by
  rw [below_of_pos positive, drawAccepted, belowOnce]
  cases BitSource.turn generator with
  | zero => rfl
  | succ left =>
    by_cases below : (BitSource.draw generator).1 * width < width
    · simp only [if_pos below, redraw_eq_drawUntil positive]
    · have accepted : reduce? width (BitSource.draw generator).1 =
          some (high (BitSource.draw generator).1 width) := by
        rw [reduce?]
        simp only [below, decide_false, Bool.false_and, Bool.false_eq_true, if_false]
      simp only [drawUntil, accepted, if_neg below]

end Loop

end Uniform

namespace Weyl

open WordPairs.Uniform

/-- On the orbit a draw is kept as the word at its place of the stream. -/
theorem draw_logged (seed : UInt64) (count : Nat) :
    BitSource.draw (⟨⟨orbit seed count⟩, (List.range count).map (stream seed)⟩ : Logged Weyl) =
      (stream seed count,
        ⟨⟨orbit seed (count + 1)⟩, (List.range (count + 1)).map (stream seed)⟩) := by
  rw [List.range_succ, List.map_append, List.map_singleton]
  show (_, Logged.mk (BitSource.draw (⟨orbit seed count⟩ : Weyl)).2 _) = _
  rw [draw_orbit]

/-- Drawing until a word is accepted keeps the words of the stream up to the first such word. -/
theorem drawUntil_logged {accept : UInt64 → Option UInt64} {seed value : UInt64}
    {count left : Nat} (inside : count < left)
    (refused : ∀ earlier < count, accept (stream seed earlier) = none)
    (accepted : accept (stream seed count) = some value) :
    drawUntil accept left (Logged.start (⟨seed⟩ : Weyl)) =
      .ok (value, ⟨⟨orbit seed (count + 1)⟩, (List.range (count + 1)).map (stream seed)⟩) := by
  let states : Nat → Logged Weyl := fun place =>
    ⟨⟨orbit seed place⟩, (List.range place).map (stream seed)⟩
  have begun : states 0 = Logged.start (⟨seed⟩ : Weyl) := by
    show Logged.mk (⟨orbit seed 0⟩ : Weyl) [] = _
    rw [orbit_zero]
    rfl
  rw [← begun]
  exact drawUntil_of_words (draw_logged seed) inside refused accepted

/-- The first word of the stream that the plain rule does not refuse is the least place at which
the low half of the product does not lie below the remainder. -/
theorem isLeast_accepted {seed width value : UInt64} {count : Nat} (positive : 0 < width)
    (refused : ∀ earlier < count, reduce? width (stream seed earlier) = none)
    (accepted : reduce? width (stream seed count) = some value) :
    IsLeast {place | modulus % width.toNat ≤ (stream seed place).toNat * width.toNat % modulus}
      count := by
  constructor
  · exact ((reduce?_eq_some_iff positive _ value).1 accepted).1
  · intro place member
    by_contra before
    have low := (reduce?_eq_none_iff positive _).1 (refused place (Nat.lt_of_not_le before))
    exact absurd member (Nat.not_le_of_lt low)

/-- Drawing below a width is plain rejection. From every state the words of the stream are drawn up
to the first at which the low half of the product with the width does not lie below the remainder,
that word gives the high half, and no word behind it is drawn. A generator that keeps its words
shows that they are just these. Below a power of two the first word is the only one. And whether
the remainder is computed for each draw in exact arithmetic, or once at most and not at all for a
first low half that does not lie below the width, makes no difference to any generator, the one
that keeps its words included. -/
theorem below_is_plain_rejection (state : UInt64) {width : UInt64} (positive : 0 < width) :
    let word (place : Nat) : UInt64 := hash (state + UInt64.ofNat place * increment)
    let accepted : Set Nat :=
      {place | 2 ^ 64 % width.toNat ≤ (word place).toNat * width.toNat % 2 ^ 64}
    (∃ last < 2 ^ 64, IsLeast accepted last ∧
      (∃ result, result.toNat = (word last).toNat * width.toNat / 2 ^ 64 ∧ result < width ∧
        let next : Weyl := ⟨state + UInt64.ofNat (last + 1) * increment⟩
        below width (⟨state⟩ : Weyl) = .ok (result, next) ∧
          below width (Logged.start (⟨state⟩ : Weyl)) =
            .ok (result, ⟨next, (List.range (last + 1)).map word⟩)) ∧
      ∀ exponent, width.toNat = 2 ^ exponent → last = 0) ∧
    ∀ {γ : Type} [BitSource γ] (generator : γ),
      below width generator = drawAccepted (plain? width) generator ∧
        below width generator = belowOnce width generator := by
  intro word accepted
  constructor
  · obtain ⟨last, inside, result, found, refused⟩ := exists_first_accepted state positive
    have least := isLeast_accepted positive refused found
    have quotient := ((reduce?_eq_some_iff positive _ result).1 found).2
    have small := lt_of_reduce? positive found
    have drawn := below_of_stream positive inside refused found
    have logged : below width (Logged.start (⟨state⟩ : Weyl)) =
        .ok (result, ⟨⟨orbit state (last + 1)⟩, (List.range (last + 1)).map word⟩) := by
      rw [below_of_pos positive, drawAccepted]
      exact drawUntil_logged inside refused found
    refine ⟨last, inside, least, ⟨result, quotient.symm, small, drawn, logged⟩, ?_⟩
    intro exponent power
    have first : 0 ∈ accepted := by
      show modulus % width.toNat ≤ _
      rw [modulus_mod_two_pow power]
      exact Nat.zero_le _
    exact Nat.le_zero.1 (least.2 first)
  · intro γ _ generator
    constructor
    · rw [below_of_pos positive, reduce?_eq_plain? positive]
    · exact below_eq_belowOnce positive generator

/-- From zero the first word is refused below three, and the second gives a result, so that two
words are drawn. -/
theorem below_is_plain_rejection_refused :
    (0 : UInt64) < 3 ∧ ∃ result, result.toNat = (hash increment).toNat * 3 / 2 ^ 64 ∧
      below 3 (Logged.start (⟨0⟩ : Weyl)) =
        .ok (result, ⟨⟨increment + increment⟩, [hash 0, hash increment]⟩) := by
  obtain ⟨⟨last, _, least, ⟨result, quotient, _, _, logged⟩, _⟩, _⟩ :=
    below_is_plain_rejection 0 (show (0 : UInt64) < 3 by decide)
  have refused : last ≠ 0 := by
    rintro rfl
    exact absurd least.1 (by decide)
  have second := least.2 (show 2 ^ 64 % (3 : UInt64).toNat ≤
    (hash (0 + UInt64.ofNat 1 * increment)).toNat * (3 : UInt64).toNat % 2 ^ 64 by decide)
  have one : last = 1 := by omega
  subst one
  exact ⟨by decide, result, quotient, logged⟩

end Weyl

end WordPairs
