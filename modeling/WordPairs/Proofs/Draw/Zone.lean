import WordPairs.Draw.Tape
import WordPairs.Proofs.Draw.Ranges

/-!
# Indices of a zone

The zone of low halves is the length shifted until no zero stands in front of it: a power of two
times the length, and at least half of all words. The products that give one index begin at a
multiple of the number of words and end where the zone ends, so that the power of two is the number
of draws that each index has. A zone refuses the last low halves, where drawing below a width
refuses the first ones. A draw that neither refuses gives the same in both.
-/

namespace WordPairs.Zone

open Word64

section Length

variable {length : UInt64} (positive : 0 < length)
include positive

/-- There is a one somewhere in a length that is not zero. -/
theorem zeros_lt : length.toBitVec.clz.toNat < 64 := by
  have one : length.toBitVec ≠ 0#64 := by
    intro none
    have zero : length = 0 := UInt64.toBitVec_inj.1 none
    rw [zero] at positive
    exact absurd positive (by decide)
  exact BitVec.clz_lt_iff_ne_zero.2 one

/-- The first one of a length tells between which powers of two it lies. -/
theorem toNat_between : 2 ^ (63 - length.toBitVec.clz.toNat) ≤ length.toNat ∧
    length.toNat < 2 ^ (63 - length.toBitVec.clz.toNat + 1) := by
  have few := zeros_lt positive
  have one : length.toBitVec ≠ 0#64 := BitVec.clz_lt_iff_ne_zero.1 few
  have most : length.toNat < 2 ^ (64 - length.toBitVec.clz.toNat) :=
    BitVec.toNat_lt_two_pow_sub_clz
  have exponent : 64 - length.toBitVec.clz.toNat = 63 - length.toBitVec.clz.toNat + 1 := by omega
  rw [exponent] at most
  exact ⟨BitVec.two_pow_sub_clz_le_toNat_of_ne_zero (by decide) one, most⟩

/-- Shifted by the zeros in front of it, a length is at least half of the number of words, and it is
still a word. -/
theorem shifted_between : 2 ^ 63 ≤ length.toNat * 2 ^ length.toBitVec.clz.toNat ∧
    length.toNat * 2 ^ length.toBitVec.clz.toNat < 2 ^ 64 := by
  have few := zeros_lt positive
  obtain ⟨least, most⟩ := toNat_between positive
  constructor
  · calc 2 ^ 63 = 2 ^ (63 - length.toBitVec.clz.toNat) * 2 ^ length.toBitVec.clz.toNat := by
          rw [← Nat.pow_add, Nat.sub_add_cancel (Nat.le_of_lt_succ few)]
      _ ≤ length.toNat * 2 ^ length.toBitVec.clz.toNat := Nat.mul_le_mul_right _ least
  · calc length.toNat * 2 ^ length.toBitVec.clz.toNat
      _ < 2 ^ (63 - length.toBitVec.clz.toNat + 1) * 2 ^ length.toBitVec.clz.toNat :=
          Nat.mul_lt_mul_of_pos_right most (Nat.two_pow_pos _)
      _ = 2 ^ 64 := by
          rw [← Nat.pow_add]
          congr 1
          omega

/-- The shift of the zone is by the zeros in front of the length. -/
theorem toNat_shift : (63 - length.log2).toNat = length.toBitVec.clz.toNat := by
  have few := zeros_lt positive
  have nonzero : length.toNat ≠ 0 := Nat.ne_of_gt positive
  have log : length.log2.toNat = 63 - length.toBitVec.clz.toNat :=
    (Nat.log2_eq_iff nonzero).2 (toNat_between positive)
  have ordered : length.log2 ≤ 63 := by
    rw [UInt64.le_iff_toNat_le, log]
    exact Nat.sub_le _ _
  rw [UInt64.toNat_sub_of_le _ _ ordered, log]
  exact Nat.sub_sub_self (Nat.le_of_lt_succ few)

/-- The last low half of the zone is one less than the length shifted. Neither the shift nor the
difference leaves the words. -/
theorem toNat_last : (last length).toNat = length.toNat * 2 ^ length.toBitVec.clz.toNat - 1 := by
  obtain ⟨least, most⟩ := shifted_between positive
  have shifted : (length <<< (63 - length.log2)).toNat =
      length.toNat * 2 ^ length.toBitVec.clz.toNat := by
    rw [UInt64.toNat_shiftLeft, toNat_shift positive, Nat.mod_eq_of_lt (zeros_lt positive),
      Nat.shiftLeft_eq, Nat.mod_eq_of_lt most]
  have above : (1 : UInt64) ≤ length <<< (63 - length.log2) := by
    rw [UInt64.le_iff_toNat_le, shifted]
    exact Nat.le_trans (by decide) least
  rw [last, UInt64.toNat_sub_of_le _ _ above, shifted]
  rfl

/-- A draw whose low half lies in the zone gives the high half of its product, and no other draw
gives anything. -/
theorem reduce?_eq_some_iff (word result : UInt64) :
    reduce? length word = some result ↔
      word.toNat * length.toNat % modulus ≤ length.toNat * 2 ^ length.toBitVec.clz.toNat - 1 ∧
        word.toNat * length.toNat / modulus = result.toNat := by
  have low : (word * length).toNat = word.toNat * length.toNat % modulus := UInt64.toNat_mul _ _
  rw [reduce?, Option.ite_none_right_eq_some, UInt64.le_iff_toNat_le, low, toNat_last positive,
    Option.some.injEq, high_eq_iff]

end Length

/-- An index is given by as many draws as the length is shifted by a power of two. -/
theorem ncard_accepted {length result : UInt64} (below : result < length) :
    {word | reduce? length word = some result}.ncard = 2 ^ length.toBitVec.clz.toNat := by
  have positive : 0 < length := Nat.lt_of_le_of_lt (Nat.zero_le _) below
  obtain ⟨least, most⟩ := shifted_between positive
  have stretch (word : UInt64) : reduce? length word = some result ↔
      result.toNat * modulus ≤ word.toNat * length.toNat ∧
        word.toNat * length.toNat < result.toNat * modulus +
          length.toNat * 2 ^ length.toBitVec.clz.toNat := by
    have parts := Nat.div_add_mod' (word.toNat * length.toNat) modulus
    rw [reduce?_eq_some_iff positive]
    -- What is left is linear in the product and the size of the zone.
    generalize word.toNat * length.toNat = product at *
    generalize length.toNat * 2 ^ length.toBitVec.clz.toNat = size at *
    simp only [modulus, UInt64.size] at *
    omega
  have inside : result.toNat * modulus + length.toNat * 2 ^ length.toBitVec.clz.toNat ≤
      length.toNat * modulus := by
    have next := Nat.mul_le_mul_right modulus (show result.toNat + 1 ≤ length.toNat from below)
    rw [Nat.succ_mul] at next
    exact Nat.le_trans (Nat.add_le_add_left (Nat.le_of_lt most) _) next
  simp only [stretch]
  exact ncard_multiples positive inside

/-- As many draws are accepted as there are low halves in the zone. -/
theorem ncard_isSome_reduce? {length : UInt64} (positive : 0 < length) :
    {word | (reduce? length word).isSome}.ncard =
      length.toNat * 2 ^ length.toBitVec.clz.toNat :=
  ncard_isSome (fun _ _ => lt_of_reduce? positive) fun _ below => ncard_accepted below

/-- A draw that is refused neither by the zone nor below the length as a width gives the same in
both. -/
theorem reduce?_agrees {length word result other : UInt64}
    (inside : reduce? length word = some result)
    (kept : Uniform.reduce? length word = some other) : result = other := by
  rw [reduce?, Option.ite_none_right_eq_some] at inside
  rw [Uniform.reduce?, Option.ite_none_left_eq_some] at kept
  exact Option.some.inj (inside.2.symm.trans kept.2)

section Generators

variable {γ : Type} [BitSource γ] {length : UInt64} (positive : 0 < length) {generator : γ}
include positive

/-- Below a length that is not zero an index is drawn until a word is accepted. -/
theorem next_toNat (zone : Zone γ) :
    next length.toNat zone = (drawAccepted (reduce? length) zone.generator).map
      fun drawn => (drawn.1.toNat, ⟨drawn.2⟩) := by
  have fits : length.toNat < modulus := length.toNat_lt
  have above : 0 < length.toNat := positive
  rw [next_eq above fits, UInt64.ofNat_toNat]

/-- A first draw that is accepted gives the index and is the only one. -/
theorem next_of_accepted {result : UInt64} (turning : 0 < BitSource.turn generator)
    (accepted : reduce? length (BitSource.draw generator).1 = some result) :
    next length.toNat ⟨generator⟩ = .ok (result.toNat, ⟨(BitSource.draw generator).2⟩) := by
  rw [next_toNat positive, drawAccepted_of_some turning accepted]
  rfl

/-- A first draw that is refused leaves everything to the draws behind it. -/
theorem next_of_refused (refused : reduce? length (BitSource.draw generator).1 = none) :
    next length.toNat ⟨generator⟩ = (drawUntil (reduce? length) (BitSource.turn generator - 1)
      (BitSource.draw generator).2).map fun drawn => (drawn.1.toNat, ⟨drawn.2⟩) := by
  rw [next_toNat positive, drawAccepted_of_none refused]

end Generators

/-- Of all words that a generator can draw first, equally many give each index below a length,
namely the power of two whose exponent is the number of zeros in front of the length; these are at
least half of all words. A word is accepted exactly if the low half of its product with the length
is at most one less than the length times that power, and gives the high half. It is the only draw
then, and otherwise what is drawn next decides in the same way. A word that is accepted here and
when it is drawn below the length as a width gives the same result in both. -/
theorem next_unbiased {γ : Type} [BitSource γ] {length : UInt64} (positive : 0 < length)
    {generator : γ} (turning : 0 < BitSource.turn generator) :
    let zeros := length.toBitVec.clz.toNat
    let first := BitSource.draw generator
    (∀ result < length, {word | reduce? length word = some result}.ncard = 2 ^ zeros) ∧
      ({word | (reduce? length word).isSome}.ncard = length.toNat * 2 ^ zeros ∧
        2 ^ 64 ≤ 2 * {word | (reduce? length word).isSome}.ncard) ∧
      (∀ word result, reduce? length word = some result ↔
        word.toNat * length.toNat % 2 ^ 64 ≤ length.toNat * 2 ^ zeros - 1 ∧
          word.toNat * length.toNat / 2 ^ 64 = result.toNat) ∧
      (∀ result, reduce? length first.1 = some result →
        result < length ∧ next length.toNat ⟨generator⟩ = .ok (result.toNat, ⟨first.2⟩)) ∧
      (reduce? length first.1 = none →
        next length.toNat ⟨generator⟩ =
          (drawUntil (reduce? length) (BitSource.turn generator - 1) first.2).map
            fun drawn => (drawn.1.toNat, ⟨drawn.2⟩)) ∧
      (∀ word result other, reduce? length word = some result →
        Uniform.reduce? length word = some other → result = other) ∧
      ∀ result other, reduce? length first.1 = some result →
        Uniform.reduce? length first.1 = some other →
        next length.toNat ⟨generator⟩ = .ok (result.toNat, ⟨first.2⟩) ∧
          Uniform.below length generator = .ok (result, first.2) := by
  intro zeros first
  have accepted := ncard_isSome_reduce? positive
  have half := (shifted_between positive).1
  refine ⟨fun result below => ncard_accepted below, ⟨accepted, ?_⟩, reduce?_eq_some_iff positive,
    fun result inside => ⟨lt_of_reduce? positive inside, next_of_accepted positive turning inside⟩,
    next_of_refused positive, fun word result other => reduce?_agrees, ?_⟩
  · rw [accepted]
    omega
  · intro result other inside kept
    have same : other = result := (reduce?_agrees inside kept).symm
    rw [same] at kept
    exact ⟨next_of_accepted positive turning inside,
      Uniform.below_of_accepted positive turning kept⟩

/-- Below two the zone holds just half of the words. Of the first two words of a tape it refuses the
one whose low half is large, which is accepted below two as a width, and the other one gives the
index. -/
theorem next_unbiased_halved :
    let tape := Tape.ofList [0x4000000000000000, 0x8000000000000001]
    (0 : UInt64) < 2 ∧ 0 < BitSource.turn tape ∧
      {word | reduce? 2 word = some 1}.ncard = 2 ^ 62 ∧
      {word | (reduce? 2 word).isSome}.ncard = 2 ^ 63 ∧
      Uniform.reduce? 2 (BitSource.draw tape).1 = some 0 ∧
      next 2 ⟨tape⟩ = .ok (1, ⟨{ tape with position := 2 }⟩) := by
  intro tape
  have positive : (0 : UInt64) < 2 := by decide
  have turning : 0 < BitSource.turn tape := by decide
  have zeros : (2 : UInt64).toBitVec.clz.toNat = 62 := by decide
  have refused : reduce? 2 (BitSource.draw tape).1 = none := by decide
  have accepted : reduce? 2 (BitSource.draw (BitSource.draw tape).2).1 = some 1 := by decide
  have second : drawUntil (reduce? 2) (BitSource.turn tape - 1) (BitSource.draw tape).2 =
      .ok (1, { tape with position := 2 }) := by
    show drawUntil (reduce? 2) (0 + 1) _ = _
    rw [drawUntil]
    simp only [accepted]
    rfl
  have kept : Uniform.reduce? 2 (BitSource.draw tape).1 = some 0 := by decide
  obtain ⟨each, ⟨all, _⟩, _, _, further, _⟩ := next_unbiased positive turning
  rw [zeros] at each all
  have drawn := further refused
  rw [second] at drawn
  exact ⟨positive, turning, each 1 (by decide), all, kept, drawn⟩

end WordPairs.Zone
