import Mathlib.Algebra.BigOperators.Option
import Mathlib.Algebra.Order.BigOperators.Group.Finset
import Mathlib.Algebra.Order.Floor.Div
import Mathlib.Data.FinEnum
import Mathlib.Data.Set.Card
import Mathlib.Data.UInt
import Mathlib.Order.Interval.Finset.Nat
import WordPairs.Draw.Weyl

/-!
# Results with equally many draws

The products of all words with a width are the multiples of the width below the width times the
number of words. The results cut that range into stretches as long as the number of words, and a
stretch does not hold the same number of multiples wherever it begins. Without the first of its
numbers, as many as the number of words leaves over when it is divided by the width, its length is
a multiple of the width, and then it does.
-/

namespace WordPairs

namespace Word64

/-- As many words lie in a stretch of numbers as the stretch is long. -/
theorem ncard_between {low count : Nat} (inside : low + count ≤ modulus) :
    {word : UInt64 | low ≤ word.toNat ∧ word.toNat < low + count}.ncard = count := by
  have values : UInt64.toNat '' {word | low ≤ word.toNat ∧ word.toNat < low + count} =
      (Finset.Ico low (low + count) : Set Nat) := by
    ext value
    rw [Finset.coe_Ico]
    constructor
    · rintro ⟨word, between, rfl⟩
      exact between
    · intro between
      have fits : value < UInt64.size := Nat.lt_of_lt_of_le between.2 inside
      have same := UInt64.toNat_ofNat_of_lt' fits
      refine ⟨UInt64.ofNat value, ?_, same⟩
      show low ≤ (UInt64.ofNat value).toNat ∧ (UInt64.ofNat value).toNat < low + count
      rwa [same]
  have injective : Function.Injective UInt64.toNat := fun _ _ => UInt64.toNat.inj
  rw [← Set.ncard_image_of_injective _ injective, values, Set.ncard_coe_finset, Nat.card_Ico,
    Nat.add_sub_cancel_left]

/-- A stretch that is a multiple of a width long holds as many multiples of the width, wherever it
begins. -/
theorem ncard_multiples {width : UInt64} (positive : 0 < width) {low count : Nat}
    (inside : low + width.toNat * count ≤ width.toNat * modulus) :
    {word : UInt64 | low ≤ word.toNat * width.toNat ∧
      word.toNat * width.toNat < low + width.toNat * count}.ncard = count := by
  have positive : 0 < width.toNat := positive
  let first := low ⌈/⌉ width.toNat
  have starts (value : Nat) : low ≤ value * width.toNat ↔ first ≤ value := by
    rw [ceilDiv_le_iff_le_mul positive, Nat.mul_comm]
  have ends : (low + width.toNat * count) ⌈/⌉ width.toNat = first + count := by
    simp only [first, Nat.ceilDiv_eq_add_pred_div]
    rw [show low + width.toNat * count + width.toNat - 1 =
      low + width.toNat - 1 + width.toNat * count by omega, Nat.add_mul_div_left _ _ positive]
  have stops (value : Nat) : value * width.toNat < low + width.toNat * count ↔
      value < first + count := by
    rw [← ends, ← not_le, ← not_le, ceilDiv_le_iff_le_mul positive, Nat.mul_comm value]
  have fits : first + count ≤ modulus := by
    rwa [← ends, ceilDiv_le_iff_le_mul positive]
  simp only [starts, stops]
  exact ncard_between fits

/-- If no word gives a result beyond a width, and every result below it is given by equally many
words, then as many words are accepted as these are for all results together. -/
theorem ncard_isSome {accept : UInt64 → Option UInt64} {width : UInt64} {each : Nat}
    (bounded : ∀ word result, accept word = some result → result < width)
    (same : ∀ result < width, {word | accept word = some result}.ncard = each) :
    {word | (accept word).isSome}.ncard = width.toNat * each := by
  have results : (Finset.univ.filter (· < width)).card = width.toNat := by
    have least (word : UInt64) : word < width ↔ 0 ≤ word.toNat ∧ word.toNat < 0 + width.toNat := by
      rw [Nat.zero_add, UInt64.lt_iff_toNat_lt, and_iff_right (Nat.zero_le _)]
    have inside : 0 + width.toNat ≤ modulus := by
      rw [Nat.zero_add]
      exact Nat.le_of_lt width.toNat_lt
    rw [← Set.ncard_coe_finset, Finset.coe_filter_univ]
    simp only [least]
    exact ncard_between inside
  have maps : ∀ word ∈ Finset.univ.filter fun word => (accept word).isSome,
      (accept word).getD 0 ∈ Finset.univ.filter (· < width) := by
    intro word member
    obtain ⟨result, accepted⟩ := Option.isSome_iff_exists.1 (Finset.mem_filter.1 member).2
    simpa [accepted] using bounded word result accepted
  -- The words that are accepted, by what they give.
  have fibre (result : UInt64) : ((Finset.univ.filter fun word => (accept word).isSome).filter
      fun word => (accept word).getD 0 = result) =
        Finset.univ.filter fun word => accept word = some result := by
    ext word
    cases accepted : accept word <;> simp [accepted]
  rw [← Finset.coe_filter_univ, Set.ncard_coe_finset, Finset.card_eq_sum_card_fiberwise maps,
    ← results, ← smul_eq_mul, ← Finset.sum_const]
  apply Finset.sum_congr rfl
  intro result member
  rw [fibre, ← Set.ncard_coe_finset, Finset.coe_filter_univ]
  exact same result (by simpa using member)

end Word64

namespace Uniform

open Word64

/-- What is computed as the remainder of the negated width is what the number of words leaves
over. -/
theorem toNat_remainder {width : UInt64} (positive : 0 < width) :
    ((0 - width) % width).toNat = modulus % width.toNat := by
  have bound : width.toNat ≤ modulus := Nat.le_of_lt width.toNat_lt
  have positive : 0 < width.toNat := positive
  have negated : (0 - width).toNat = modulus - width.toNat := by
    rw [UInt64.toNat_sub]
    show (2 ^ 64 - width.toNat + 0) % 2 ^ 64 = 2 ^ 64 - width.toNat
    omega
  rw [UInt64.toNat_mod, negated, ← Nat.mod_eq_sub_mod bound]

/-- A draw is refused exactly if the low half of its product lies below the remainder. That the
remainder is looked at only for a low half below the width makes no difference. -/
theorem reduce?_eq_none_iff {width : UInt64} (positive : 0 < width) (word : UInt64) :
    reduce? width word = none ↔
      word.toNat * width.toNat % modulus < modulus % width.toNat := by
  have low : (word * width).toNat = word.toNat * width.toNat % modulus := UInt64.toNat_mul _ _
  have least := Nat.mod_lt modulus (show 0 < width.toNat from positive)
  have refused : (word * width < width ∧ word * width < (0 - width) % width) ↔
      word.toNat * width.toNat % modulus < modulus % width.toNat := by
    rw [UInt64.lt_iff_toNat_lt, UInt64.lt_iff_toNat_lt, toNat_remainder positive, low]
    omega
  rw [← refused, reduce?]
  split
  · next both => simpa using both
  · next one => simpa using one

/-- A draw that is accepted gives the high half of its product. -/
theorem reduce?_eq_some_iff {width : UInt64} (positive : 0 < width) (word result : UInt64) :
    reduce? width word = some result ↔
      modulus % width.toNat ≤ word.toNat * width.toNat % modulus ∧
        word.toNat * width.toNat / modulus = result.toNat := by
  rw [← high_eq_iff, ← not_lt, ← reduce?_eq_none_iff positive, reduce?]
  split <;> simp

/-- A draw that is accepted gives a result below the width. -/
theorem lt_of_reduce? {width word result : UInt64} (positive : 0 < width)
    (accepted : reduce? width word = some result) : result < width := by
  rw [reduce?, Option.ite_none_left_eq_some] at accepted
  rw [← Option.some.inj accepted.2]
  exact high_lt positive word

/-- Of two words next to each other at most one is refused. The low half of the second product is
the width more than that of the first, since a low half below the remainder leaves room for it. -/
theorem isSome_reduce?_or {width word next : UInt64} (positive : 0 < width)
    (neighbours : next.toNat = word.toNat + 1) :
    (reduce? width word).isSome ∨ (reduce? width next).isSome := by
  rw [Option.isSome_iff_ne_none, Option.isSome_iff_ne_none, ne_eq, ne_eq,
    reduce?_eq_none_iff positive, reduce?_eq_none_iff positive, ← not_and_or, neighbours,
    Nat.succ_mul]
  rintro ⟨first, second⟩
  have positive : 0 < width.toNat := positive
  have bound : width.toNat ≤ modulus := Nat.le_of_lt width.toNat_lt
  have remainder := Nat.mod_lt modulus positive
  have room : modulus % width.toNat + width.toNat ≤ modulus := by
    have total := Nat.mod_add_div modulus width.toNat
    have once := Nat.le_mul_of_pos_right width.toNat (Nat.div_pos bound positive)
    omega
  have grown : (word.toNat * width.toNat + width.toNat) % modulus =
      word.toNat * width.toNat % modulus + width.toNat := by
    rw [← Nat.mod_add_mod, Nat.mod_eq_of_lt (by omega)]
  omega

/-- A result is given by as many draws as the width goes into the number of words. -/
theorem ncard_accepted {width result : UInt64} (below : result < width) :
    {word | reduce? width word = some result}.ncard = modulus / width.toNat := by
  have positive : 0 < width := Nat.lt_of_le_of_lt (Nat.zero_le _) below
  have total : width.toNat * (modulus / width.toNat) + modulus % width.toNat = modulus :=
    Nat.div_add_mod _ _
  have stretch (word : UInt64) : reduce? width word = some result ↔
      result.toNat * modulus + modulus % width.toNat ≤ word.toNat * width.toNat ∧
        word.toNat * width.toNat < result.toNat * modulus + modulus % width.toNat +
          width.toNat * (modulus / width.toNat) := by
    have parts := Nat.div_add_mod' (word.toNat * width.toNat) modulus
    rw [reduce?_eq_some_iff positive]
    -- What is left is linear in the two products and the remainder.
    generalize word.toNat * width.toNat = product at *
    generalize width.toNat * (modulus / width.toNat) = multiple at *
    generalize modulus % width.toNat = remainder at *
    simp only [modulus, UInt64.size] at *
    omega
  have inside : result.toNat * modulus + modulus % width.toNat +
      width.toNat * (modulus / width.toNat) ≤ width.toNat * modulus := by
    have next := Nat.mul_le_mul_right modulus (show result.toNat + 1 ≤ width.toNat from below)
    rw [Nat.succ_mul] at next
    omega
  simp only [stretch]
  exact ncard_multiples positive inside

/-- As many draws are refused as the number of words leaves over when it is divided by the
width. -/
theorem ncard_refused {width : UInt64} (positive : 0 < width) :
    {word | reduce? width word = none}.ncard = modulus % width.toNat := by
  have accepted := ncard_isSome (fun word result => lt_of_reduce? positive)
    fun result below => ncard_accepted below
  have others : {word | (reduce? width word).isSome}ᶜ = {word | reduce? width word = none} := by
    ext word
    simp
  have every : Nat.card UInt64 = modulus :=
    Nat.card_eq_fintype_card.trans FinEnum.card_eq_fintypeCard.symm
  have total := Set.ncard_add_ncard_compl {word | (reduce? width word).isSome}
  rw [others, accepted, every] at total
  have parts := Nat.div_add_mod modulus width.toNat
  omega

section Below

variable {γ : Type} [BitSource γ] {width : UInt64} (positive : 0 < width) {generator : γ}
include positive

/-- A width that is not zero is drawn below. -/
theorem below_of_pos : below width generator = drawAccepted (reduce? width) generator :=
  if_neg fun zero => by
    rw [zero] at positive
    exact absurd positive (by decide)

/-- A first draw that is accepted gives the result and is the only one. -/
theorem below_of_accepted {result : UInt64} (turning : 0 < BitSource.turn generator)
    (accepted : reduce? width (BitSource.draw generator).1 = some result) :
    below width generator = .ok (result, (BitSource.draw generator).2) := by
  rw [below_of_pos positive]
  exact drawAccepted_of_some turning accepted

/-- A first draw that is refused leaves everything to the draws behind it. -/
theorem below_of_refused (refused : reduce? width (BitSource.draw generator).1 = none) :
    below width generator = drawUntil (reduce? width) (BitSource.turn generator - 1)
      (BitSource.draw generator).2 := by
  rw [below_of_pos positive]
  exact drawAccepted_of_none refused

end Below

/-- Of all words that a generator can draw first, equally many give each result below the width,
namely as many as the width goes into the number of words, and the rest, less than the width, is
refused. A word that is accepted is the only draw and gives the high half of its product with the
width, which is below the width; a word is refused for a low half below the rest, and then what is
drawn next decides in the same way. -/
theorem below_unbiased {γ : Type} [BitSource γ] {width : UInt64} (positive : 0 < width)
    {generator : γ} (turning : 0 < BitSource.turn generator) :
    let first := BitSource.draw generator
    (∀ result < width,
        {word | reduce? width word = some result}.ncard = modulus / width.toNat) ∧
      {word | reduce? width word = none}.ncard = modulus % width.toNat ∧
      (∀ word, reduce? width word = none ↔
        word.toNat * width.toNat % modulus < modulus % width.toNat) ∧
      (∀ word result, reduce? width word = some result →
        result < width ∧ result.toNat = word.toNat * width.toNat / modulus) ∧
      (∀ result, reduce? width first.1 = some result →
        below width generator = .ok (result, first.2)) ∧
      (reduce? width first.1 = none →
        below width generator =
          drawUntil (reduce? width) (BitSource.turn generator - 1) first.2) := by
  intro first
  refine ⟨fun result below => ncard_accepted below, ncard_refused positive,
    reduce?_eq_none_iff positive, fun word result accepted => ?_,
    fun result => below_of_accepted positive turning, below_of_refused positive⟩
  exact ⟨lt_of_reduce? positive accepted,
    ((reduce?_eq_some_iff positive word result).1 accepted).2.symm⟩

/-- Below the width that wastes most, every result is given by one word alone, and nearly half of
the words are refused. -/
theorem below_unbiased_wasteful :
    let width : UInt64 := 0x8000000000000001
    0 < width ∧ 0 < BitSource.turn Weyl.default ∧
      {word | reduce? width word = some 0x8000000000000000}.ncard = 1 ∧
      {word | reduce? width word = none}.ncard = 0x7FFFFFFFFFFFFFFF := by
  intro width
  have positive : 0 < width := by decide
  have turning : 0 < BitSource.turn Weyl.default := by decide
  have once : modulus / width.toNat = 1 := by decide
  have rest : modulus % width.toNat = 0x7FFFFFFFFFFFFFFF := by decide
  obtain ⟨accepted, refused, _⟩ := below_unbiased positive turning
  rw [once] at accepted
  rw [rest] at refused
  exact ⟨positive, turning, accepted 0x8000000000000000 (by decide), refused⟩

end Uniform

end WordPairs
