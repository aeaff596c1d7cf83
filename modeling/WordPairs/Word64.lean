import WordPairs.Fault

/-!
# Checked arithmetic on 64-bit words

Sums, differences and products that must be exact are computed here: each returns the exact value
or the fault `overflow`. The high half of a full product is exact by itself.
-/

namespace WordPairs.Word64

/-- The number of 64-bit words. -/
def modulus : Nat := UInt64.size

/-- The largest word. -/
def largest : UInt64 := 0xFFFFFFFFFFFFFFFF

/-- A natural number as a word, when it fits. -/
def ofNat (value : Nat) : Except Fault UInt64 :=
  if value < modulus then .ok (UInt64.ofNat value) else .error .overflow

/-- The exact sum of two words. -/
def add (left right : UInt64) : Except Fault UInt64 := ofNat (left.toNat + right.toNat)

/-- The exact difference of two words. -/
def sub (left right : UInt64) : Except Fault UInt64 :=
  if right ≤ left then .ok (left - right) else .error .overflow

/-- The exact product of two words. -/
def mul (left right : UInt64) : Except Fault UInt64 := ofNat (left.toNat * right.toNat)

/-- The high word of the full product of two words. The low word is `left * right`. -/
def high (left right : UInt64) : UInt64 := UInt64.ofNat (left.toNat * right.toNat / modulus)

/-- A number that fits is returned with its value. -/
theorem ofNat_of_lt {value : Nat} (fits : value < modulus) :
    ofNat value = .ok (UInt64.ofNat value) := if_pos fits

/-- A word made of a number that fits has that number as its value. -/
theorem toNat_of_ofNat {value : Nat} {word : UInt64} (made : ofNat value = .ok word) :
    word.toNat = value := by
  unfold ofNat at made
  split at made
  · rename_i fits
    cases made
    simpa [modulus] using fits
  · contradiction

/-- A sum that is returned is exact. -/
theorem toNat_of_add {left right sum : UInt64} (made : add left right = .ok sum) :
    sum.toNat = left.toNat + right.toNat := toNat_of_ofNat made

/-- A sum that fits is returned. -/
theorem add_of_lt {left right : UInt64} (fits : left.toNat + right.toNat < modulus) :
    add left right = .ok (left + right) := by
  rw [add, ofNat_of_lt fits, UInt64.ofNat_add, UInt64.ofNat_toNat, UInt64.ofNat_toNat]

/-- A difference of a word and one that is not larger is returned. -/
theorem sub_of_le {left right : UInt64} (ordered : right ≤ left) :
    sub left right = .ok (left - right) := if_pos ordered

/-- A difference that is returned is exact. -/
theorem toNat_of_sub {left right difference : UInt64} (made : sub left right = .ok difference) :
    difference.toNat + right.toNat = left.toNat := by
  unfold sub at made
  split at made
  · rename_i ordered
    cases made
    have ordered := UInt64.le_iff_toNat_le.1 ordered
    rw [UInt64.toNat_sub_of_le _ _ ordered]
    omega
  · contradiction

/-- A product that is returned is exact. -/
theorem toNat_of_mul {left right product : UInt64} (made : mul left right = .ok product) :
    product.toNat = left.toNat * right.toNat := toNat_of_ofNat made

/-- The high word of a product is its quotient by the number of words. -/
theorem toNat_high (left right : UInt64) :
    (high left right).toNat = left.toNat * right.toNat / modulus := by
  have fits : left.toNat * right.toNat / modulus < modulus := by
    apply (Nat.div_lt_iff_lt_mul (by decide)).2
    exact Nat.mul_lt_mul'' left.toNat_lt_size right.toNat_lt_size
  exact UInt64.toNat_ofNat_of_lt fits

/-- A word is the high word of a product exactly if it is the quotient by the number of words. -/
theorem high_eq_iff {left right result : UInt64} :
    high left right = result ↔ left.toNat * right.toNat / modulus = result.toNat := by
  rw [← toNat_high, UInt64.toNat_inj]

/-- The high word of a product with a width is below the width. -/
theorem high_lt {width : UInt64} (positive : 0 < width) (word : UInt64) :
    high word width < width := by
  rw [UInt64.lt_iff_toNat_lt, toNat_high]
  apply Nat.div_lt_of_lt_mul
  exact Nat.mul_lt_mul_of_pos_right word.toNat_lt_size positive

end WordPairs.Word64
