import WordPairs.Draw.Uniform

/-!
# Which words an interval holds

An interval holds a word exactly if it holds its least one. The words of an interval that holds its
least one are counted without leaving the 64-bit words, except that all words together are too many
to be counted.
-/

namespace WordPairs.Bound

open Word64

/-- The largest word is one less than the number of words. -/
theorem toNat_largest : largest.toNat + 1 = modulus := rfl

/-- No word is larger than the largest. -/
theorem le_largest (word : UInt64) : word ≤ largest := by
  have bound : word.toNat < modulus := word.toNat_lt
  rw [← toNat_largest] at bound
  exact UInt64.le_iff_toNat_le.2 (Nat.le_of_lt_succ bound)

/-- Below the largest word there is a next one. -/
theorem toNat_add_one {word : UInt64} (small : word ≠ largest) :
    (word + 1).toNat = word.toNat + 1 := by
  have different : word.toNat ≠ largest.toNat := fun same => small (UInt64.toNat.inj same)
  have bound : word.toNat < modulus := word.toNat_lt
  have fits : word.toNat + (1 : UInt64).toNat < modulus := by
    show word.toNat + 1 < modulus
    have most := toNat_largest
    omega
  exact toNat_of_add (add_of_lt fits)

/-- A start bound admits the words from its least one on, if it admits any. -/
theorem admitsFrom_iff {start : Bound} {word : UInt64} :
    start.admitsFrom word ↔ start.admitsFrom start.least ∧ start.least ≤ word := by
  cases start with
  | unbounded => simp [admitsFrom, least]
  | included start => simp [admitsFrom, least]
  | excluded start =>
    have bound : word.toNat < modulus := word.toNat_lt
    have most := toNat_largest
    by_cases top : start = largest
    · subst top
      simp only [admitsFrom, least, if_true, decide_eq_true_eq, UInt64.lt_iff_toNat_lt]
      omega
    · have next := toNat_add_one top
      simp only [admitsFrom, least, if_neg top, decide_eq_true_eq, UInt64.lt_iff_toNat_lt,
        UInt64.le_iff_toNat_le, next]
      omega

/-- A stop bound that admits a word admits the smaller ones. -/
theorem admitsTo_of_le {stop : Bound} {smaller word : UInt64} (admitted : stop.admitsTo word)
    (ordered : smaller ≤ word) : stop.admitsTo smaller := by
  cases stop with
  | unbounded => rfl
  | included stop =>
    simp only [admitsTo, decide_eq_true_eq] at admitted ⊢
    exact UInt64.le_trans ordered admitted
  | excluded stop =>
    simp only [admitsTo, decide_eq_true_eq] at admitted ⊢
    exact UInt64.lt_of_le_of_lt ordered admitted

/-- An interval that holds a word holds its least one. -/
theorem admits_least_iff {start stop : Bound} :
    admits start stop start.least ↔ ∃ word, admits start stop word := by
  constructor
  · intro held
    exact ⟨start.least, held⟩
  · rintro ⟨word, held⟩
    obtain ⟨above, below⟩ := Bool.and_eq_true_iff.1 held
    obtain ⟨first, ordered⟩ := admitsFrom_iff.1 above
    exact Bool.and_eq_true_iff.2 ⟨first, admitsTo_of_le below ordered⟩

/-- From a word on, the words up to a stop bound are so many. -/
structure Counts (stop : Bound) (least width : UInt64) : Prop where
  /-- The width is computed. -/
  computed : stop.width least = .ok (some width)
  /-- There is a word. -/
  positive : 0 < width
  /-- The words are counted among the 64-bit words. -/
  inside : least.toNat + width.toNat ≤ modulus
  /-- The words that are counted are those that the bound admits. -/
  admits_iff : ∀ word : UInt64, least ≤ word ∧ stop.admitsTo word ↔
    least.toNat ≤ word.toNat ∧ word.toNat < least.toNat + width.toNat

/-- The words from one to another, both counted, are one more than their difference. -/
theorem counts_through {stop : Bound} {least last : UInt64} (ordered : least ≤ last)
    (fewer : last - least ≠ largest)
    (computed : stop.width least = some <$> Word64.add (last - least) 1)
    (admitted : ∀ word, stop.admitsTo word ↔ word ≤ last) :
    stop.Counts least (last - least + 1) := by
  have span : (last - least).toNat + least.toNat = last.toNat := toNat_of_sub (sub_of_le ordered)
  have width := toNat_add_one fewer
  have bound : last.toNat < modulus := last.toNat_lt
  have fits : (last - least).toNat + (1 : UInt64).toNat < modulus := by
    have total : (last - least + 1).toNat < modulus := (last - least + 1).toNat_lt
    rwa [width] at total
  refine ⟨by rw [computed, add_of_lt fits]; rfl, ?_, by omega, fun word => ?_⟩
  · rw [UInt64.lt_iff_toNat_lt, width]
    exact Nat.succ_pos _
  · rw [admitted, UInt64.le_iff_toNat_le, UInt64.le_iff_toNat_le]
    omega

/-- From a word that is not the first on, all words are counted. -/
theorem counts_unbounded {least : UInt64} (positive : 0 < least) :
    unbounded.Counts least (largest - least + 1) := by
  have ordered := le_largest least
  have fewer : largest - least ≠ largest := by
    intro same
    have span := toNat_of_sub (sub_of_le ordered)
    have positive : 0 < least.toNat := positive
    rw [same] at span
    omega
  refine counts_through ordered fewer ?_ fun word => ⟨fun _ => le_largest word, fun _ => rfl⟩
  rw [width, if_pos positive, sub_of_le ordered]
  -- By computation the comparison of the sum with the number of words would be opened.
  exact pure_bind (largest - least) fun span => some <$> Word64.add span 1

/-- The words up to a last one are counted, unless these are all words. -/
theorem counts_included {least last : UInt64} (ordered : least ≤ last)
    (fewer : last - least ≠ largest) : (included last).Counts least (last - least + 1) := by
  refine counts_through ordered fewer ?_ fun word => decide_eq_true_iff
  rw [width, sub_of_le ordered]
  exact if_pos (UInt64.lt_of_le_of_ne (le_largest _) fewer)

/-- The words in front of one that is not counted are as many as the difference. -/
theorem counts_excluded {least last : UInt64} (below : least < last) :
    (excluded last).Counts least (last - least) := by
  have ordered := UInt64.le_of_lt below
  have span := toNat_of_sub (sub_of_le ordered)
  have below : least.toNat < last.toNat := below
  have bound : last.toNat < modulus := last.toNat_lt
  refine ⟨?_, ?_, by omega, fun word => ?_⟩
  · rw [width, sub_of_le ordered]
    rfl
  · rw [UInt64.lt_iff_toNat_lt]
    show 0 < (last - least).toNat
    omega
  · simp only [admitsTo, decide_eq_true_eq, UInt64.lt_iff_toNat_lt, UInt64.le_iff_toNat_le]
    omega

/-- Only from zero to the largest word the difference is the largest. -/
theorem ends_of_sub_eq_largest {least last : UInt64} (ordered : least ≤ last)
    (all : last - least = largest) : least = 0 ∧ last = largest := by
  have span := toNat_of_sub (sub_of_le ordered)
  have top := toNat_largest
  have bound : last.toNat < modulus := last.toNat_lt
  rw [all] at span
  constructor <;> apply UInt64.toNat.inj
  · show least.toNat = 0
    omega
  · omega

/-- The words of an interval that holds its least one are counted, unless these are all words. -/
theorem counts_or_all {stop : Bound} {least : UInt64} (held : stop.admitsTo least) :
    (stop.width least = .ok none ∧ least = 0 ∧ ∀ word, stop.admitsTo word) ∨
      ∃ width, stop.Counts least width := by
  cases stop with
  | unbounded =>
    by_cases positive : 0 < least
    · exact .inr ⟨_, counts_unbounded positive⟩
    · have zero : least = 0 := UInt64.toNat.inj (Nat.eq_zero_of_not_pos positive)
      exact .inl ⟨by rw [width, if_neg positive]; rfl, zero, fun _ => rfl⟩
  | included last =>
    have ordered : least ≤ last := of_decide_eq_true held
    by_cases all : last - least = largest
    · obtain ⟨zero, top⟩ := ends_of_sub_eq_largest ordered all
      refine .inl ⟨?_, zero, fun word => ?_⟩
      · rw [width, sub_of_le ordered, all]
        rfl
      · rw [top]
        exact decide_eq_true (le_largest word)
    · exact .inr ⟨_, counts_included ordered all⟩
  | excluded last => exact .inr ⟨_, counts_excluded (of_decide_eq_true held)⟩

/-- An interval that holds a word holds all words, which are not counted, or its words are counted
from its least one on. -/
theorem all_or_counts {start stop : Bound} (held : ∃ word, admits start stop word) :
    ((∀ word, admits start stop word) ∧ stop.width start.least = .ok none) ∨
      ∃ width, stop.Counts start.least width := by
  obtain ⟨first, last⟩ := Bool.and_eq_true_iff.1 (admits_least_iff.2 held)
  rcases counts_or_all last with ⟨none, zero, all⟩ | counted
  · refine .inl ⟨fun word => Bool.and_eq_true_iff.2 ⟨?_, all word⟩, none⟩
    have above : start.least ≤ word := by
      rw [zero]
      exact UInt64.zero_le
    exact admitsFrom_iff.2 ⟨first, above⟩
  · exact .inr counted

end WordPairs.Bound
