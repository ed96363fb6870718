import ShelfRules.Double.Decimal

/-!
# Decimals read exactly

Reading a decimal looks at its size first, so that no huge power of ten is computed. The two short
cuts never change the answer: a decimal of more than 400 places is past the largest double, and one
behind more than 400 zeros is nearer to zero than to the least double.

Results:
* `roundUnits_mul_mul`: rounding depends on the quotient alone.
* `Decimal.units_shift`: zeros at the end of the digits count as places of the exponent.
* `Decimal.toDouble_eq`: the double of a decimal is the double of its units, whatever its size.
-/

namespace ShelfRules

/-! ## Rounding -/

theorem roundHalfEven_mul_mul (num den : Nat) {k : Nat} (hk : 0 < k) :
    roundHalfEven (num * k) (den * k) = roundHalfEven num den := by
  have hquot : num * k / (den * k) = num / den := Nat.mul_div_mul_right num den hk
  have hrem : num * k % (den * k) = num % den * k := Nat.mul_mod_mul_right k num den
  have hlt : den * k < 2 * (num % den * k) ↔ den < 2 * (num % den) := by
    rw [← Nat.mul_assoc, Nat.mul_lt_mul_right hk]
  have heq : 2 * (num % den * k) = den * k ↔ 2 * (num % den) = den := by
    rw [← Nat.mul_assoc, Nat.mul_right_cancel_iff hk]
  simp only [roundHalfEven, hquot, hrem, hlt, heq]

/-- Rounding depends on the quotient alone. -/
theorem roundUnits_mul_mul (num den : Nat) {k : Nat} (hk : 0 < k) :
    roundUnits (num * k) (den * k) = roundUnits num den := by
  unfold roundUnits
  have hquot : num * k / (den * k) = num / den := Nat.mul_div_mul_right num den hk
  simp only [hquot]
  rw [Nat.mul_right_comm den k, roundHalfEven_mul_mul _ _ hk]

theorem div_le_roundHalfEven (num den : Nat) : num / den ≤ roundHalfEven num den := by
  unfold roundHalfEven
  split <;> omega

/-- Rounding does not fall below a power of two. -/
theorem two_pow_le_roundUnits {num k : Nat} (h : 2 ^ k ≤ num) : 2 ^ k ≤ roundUnits num 1 := by
  have hnum : num ≠ 0 := by have := Nat.two_pow_pos k; omega
  have hlog : k ≤ num.log2 := (Nat.le_log2 hnum).2 h
  unfold roundUnits
  simp only [Nat.div_one, Nat.one_mul]
  have hplace : 2 ^ (num.log2 - 52) ∣ 2 ^ num.log2 := Nat.pow_dvd_pow 2 (Nat.sub_le _ 52)
  calc 2 ^ k ≤ 2 ^ num.log2 := Nat.pow_le_pow_right (by omega) hlog
    _ = 2 ^ num.log2 / 2 ^ (num.log2 - 52) * 2 ^ (num.log2 - 52) :=
        (Nat.div_mul_cancel hplace).symm
    _ ≤ num / 2 ^ (num.log2 - 52) * 2 ^ (num.log2 - 52) :=
        Nat.mul_le_mul_right _ (Nat.div_le_div_right (Nat.log2_self_le hnum))
    _ ≤ roundHalfEven num (2 ^ (num.log2 - 52)) * 2 ^ (num.log2 - 52) :=
        Nat.mul_le_mul_right _ (div_le_roundHalfEven _ _)

/-- What is no more than a half rounds to zero. -/
theorem roundUnits_eq_zero {num den : Nat} (hden : 0 < den) (h : 2 * num ≤ den) :
    roundUnits num den = 0 := by
  have hquot : num / den = 0 := Nat.div_eq_of_lt (by omega)
  have hrem : num % den = num := Nat.mod_eq_of_lt (by omega)
  unfold roundUnits
  simp only [hquot, show Nat.log2 0 - 52 = 0 from rfl, Nat.pow_zero, Nat.mul_one]
  unfold roundHalfEven
  rw [hquot, hrem, if_neg (by omega)]

namespace Double

theorem depth_eq : depth = 1074 := by
  unfold depth; rfl

theorem ofUnits_of_fits {units : Nat} (h : IsDoubleUnits units) (negative : Bool) :
    ofUnits negative units = .finite negative units h := by
  unfold ofUnits
  rw [dif_pos h]

theorem ofUnits_zero (negative : Bool) : ofUnits negative 0 = zero negative :=
  ofUnits_of_fits isDoubleUnits_zero negative

theorem ofUnits_of_ceiling_le {units : Nat} (h : ceiling ≤ units) (negative : Bool) :
    ofUnits negative units = .infinite negative := by
  unfold ofUnits
  rw [dif_neg fun hu => Nat.not_lt.2 h hu.2]

end Double

/-! ## Decimals -/

namespace Decimal

/-- Zeros at the end of the digits count as places of the exponent. -/
theorem units_shift (digits k : Nat) (exponent : Int) :
    units ⟨digits * 10 ^ k, exponent⟩ = units ⟨digits, exponent + k⟩ := by
  unfold units
  dsimp only
  by_cases he : 0 ≤ exponent
  · obtain ⟨e, rfl⟩ := Int.eq_ofNat_of_zero_le he
    rw [if_pos he, if_pos (by omega), Nat.mul_assoc digits, ← Nat.pow_add,
      show ((e : Int) + k).toNat = k + (e : Int).toNat by omega]
  · rw [if_neg he]
    by_cases hk : 0 ≤ exponent + k
    · rw [if_pos hk, ← roundUnits_mul_mul _ 1 (Nat.pow_pos (n := (-exponent).toNat)
        (show 0 < 10 by decide))]
      have hsplit : 10 ^ k = 10 ^ (exponent + k).toNat * 10 ^ (-exponent).toNat := by
        rw [← Nat.pow_add]; congr 1; omega
      rw [hsplit, Nat.one_mul]
      congr 1
      rw [← Nat.mul_assoc, Nat.mul_right_comm]
    · rw [if_neg hk, ← roundUnits_mul_mul (digits * Double.one) _ (Nat.pow_pos (n := k)
        (show 0 < 10 by decide)), ← Nat.pow_add]
      congr 1
      · rw [Nat.mul_right_comm]
      · congr 1; omega

/-- Three bits are less than a decimal place. -/
theorem two_pow_le_ten_pow {m k : Nat} (h : m ≤ 3 * k) : 2 ^ m ≤ 10 ^ k :=
  calc 2 ^ m ≤ 2 ^ (3 * k) := Nat.pow_le_pow_right (by decide) h
    _ = 8 ^ k := Nat.pow_mul 2 3 k
    _ ≤ 10 ^ k := Nat.pow_le_pow_left (by decide) k

theorem two_pow_le_digits_mul {digits m k : Nat} (hd : digits ≠ 0) (h : m ≤ 3 * k) :
    2 ^ (m + Double.depth) ≤ digits * 10 ^ k * Double.one := by
  have hpow : 10 ^ k ≤ digits * 10 ^ k := Nat.le_mul_of_pos_left _ (Nat.pos_of_ne_zero hd)
  rw [Nat.pow_add]
  exact Nat.mul_le_mul_right _ (Nat.le_trans (two_pow_le_ten_pow h) hpow)

/-- A decimal of more than 400 places before the point is past the largest double. -/
theorem ceiling_le_units {d : Decimal} (hd : d.digits ≠ 0) (he : 400 < d.exponent) :
    Double.ceiling ≤ d.units := by
  unfold units
  rw [if_pos (by omega)]
  exact two_pow_le_roundUnits (two_pow_le_digits_mul hd (by omega))

/-- A decimal behind more than 400 zeros is nearer to zero than to the least double. -/
theorem units_eq_zero_of_small {d : Decimal} (he : d.exponent + d.digits.log2 < -400) :
    d.units = 0 := by
  unfold units
  rw [if_neg (by omega)]
  apply roundUnits_eq_zero (Nat.pow_pos (by decide))
  have hdigits : d.digits < 2 ^ (d.digits.log2 + 1) := Nat.lt_log2_self
  have hdepth := Double.depth_eq
  calc 2 * (d.digits * Double.one) ≤ 2 * (2 ^ (d.digits.log2 + 1) * Double.one) :=
        Nat.mul_le_mul_left 2 (Nat.mul_le_mul_right _ (Nat.le_of_lt hdigits))
    _ = 2 ^ (1 + (d.digits.log2 + 1 + Double.depth)) := by
        rw [Nat.pow_add 2 1, Nat.pow_add 2 (d.digits.log2 + 1)]; rfl
    _ ≤ 10 ^ (-d.exponent).toNat := two_pow_le_ten_pow (by omega)

theorem units_of_digits_eq_zero {d : Decimal} (hd : d.digits = 0) : d.units = 0 := by
  unfold units
  rw [hd]
  split
  · simp only [Nat.zero_mul]
    exact roundUnits_eq_zero (by decide) (by decide)
  · rw [Nat.zero_mul]
    exact roundUnits_eq_zero (Nat.pow_pos (by decide)) (Nat.zero_le _)

/-- The double of a decimal is the double of its units, whatever its size. -/
theorem toDouble_eq (negative : Bool) (d : Decimal) :
    d.toDouble negative = .ofUnits negative d.units := by
  unfold toDouble
  split
  · rename_i hd
    rw [units_of_digits_eq_zero hd, Double.ofUnits_zero]
  · rename_i hd
    split
    · rename_i he
      rw [Double.ofUnits_of_ceiling_le (ceiling_le_units hd he)]
    · split
      · rename_i he
        rw [units_eq_zero_of_small he, Double.ofUnits_zero]
      · rfl

end Decimal

end ShelfRules
