import ShelfRules.Filter.Test
import ShelfRules.Proofs.DecimalReading
import ShelfRules.Proofs.JsonDocuments

/-!
# Integers among the doubles

A double that is an integer and the integer itself are one number: they have the same place on the
number line, they equal the same numbers, and both are written with the digits of the integer.

Results:
* `Double.place_of_toInt?`: a double that is an integer stands in the place of the integer.
* `Double.ofInt?_of_toInt?`: such an integer is read as a double without rounding.
* `Double.ofInt?_of_ten_pow_le`: an integer of many digits is no double.
* `Double.eq_iff_toInt?`: what equals such a double is the same integer.
* `isLongInteger_of_toInt?`, `isLongInteger_of_ofInt?`: the integers inside of the range of doubles are
  not too long to be written.
-/

namespace ShelfRules

theorem natAbs_ten_pow (k : Nat) : (10 ^ k : Int).natAbs = 10 ^ k := by
  rw [Int.natAbs_pow]
  rfl

theorem isLongInteger_ten_pow {k : Nat} (hk : k < maxIntegerDigits) :
    isLongInteger (10 ^ k) = false := by
  refine Json.isLongInteger_eq_false ?_
  rw [natAbs_ten_pow]
  exact Nat.pow_lt_pow_right (by decide) hk

namespace Double

/-- The size of an integer among the doubles, in units. -/
theorem units_of_toInt? {negative : Bool} {units : Nat} {fits : IsDoubleUnits units} {n : Int}
    (h : toInt? (.finite negative units fits) = some n) :
    units = n.natAbs * one ∧ (if negative then -(units : Int) else units) = n * one := by
  unfold toInt? at h
  dsimp only at h
  split at h
  · rename_i hmod
    have hunits : units = units / one * one := (Nat.div_mul_cancel (Nat.dvd_of_mod_eq_zero hmod)).symm
    generalize units / one = k at h hunits
    cases negative with
    | true =>
      obtain rfl : -(k : Int) = n := Option.some.inj h
      subst hunits
      refine ⟨by rw [Int.natAbs_neg, Int.natAbs_natCast], ?_⟩
      rw [if_pos rfl, Int.neg_mul, Int.natCast_mul]
    | false =>
      obtain rfl : (k : Int) = n := Option.some.inj h
      subst hunits
      refine ⟨by rw [Int.natAbs_natCast], ?_⟩
      rw [if_neg Bool.false_ne_true, Int.natCast_mul]
  · cases h

theorem isNaN_of_toInt? {d : Double} {n : Int} (h : d.toInt? = some n) : d.isNaN = false := by
  cases d with
  | nan => cases h
  | _ => rfl

/-- A double that is an integer stands in the place of the integer. -/
theorem place_of_toInt? {d : Double} {n : Int} (h : d.toInt? = some n) :
    d.place = some (n * one) := by
  cases d with
  | nan => cases h
  | infinite negative => cases h
  | finite negative units fits => exact congrArg some (units_of_toInt? h).2

theorem toInt?_of_units {n : Int} {negative : Bool} {units : Nat} {fits : IsDoubleUnits units}
    (hunits : units = n.natAbs * one)
    (hn : (if negative then -(n.natAbs : Int) else n.natAbs) = n) :
    toInt? (.finite negative units fits) = some n := by
  unfold toInt?
  dsimp only
  rw [if_pos (by rw [hunits, Nat.mul_mod_left]), hunits, Nat.mul_div_cancel _ one_pos, hn]

/-- An integer that a double is is read as a double without rounding. -/
theorem ofInt?_of_toInt? {d : Double} {n : Int} (h : d.toInt? = some n) :
    ∃ e, ofInt? n = some e ∧ e.toInt? = some n := by
  cases d with
  | nan => cases h
  | infinite negative => cases h
  | finite negative units fits =>
    have hunits := (units_of_toInt? h).1
    have hround : roundUnits (n.natAbs * one) 1 = units := by
      have hsame := roundUnits_units fits Nat.one_pos
      rw [Nat.mul_one] at hsame
      rw [← hunits, hsame]
    have hratio : ofRatio (n < 0) n.natAbs 1 = .finite (n < 0) units fits := by
      rw [ofRatio, hround, ofUnits_of_fits fits]
    refine ⟨_, by rw [ofInt?, hratio]; rfl, toInt?_of_units hunits ?_⟩
    by_cases hn : n < 0
    · rw [if_pos (by simpa using hn)]
      omega
    · rw [if_neg (by simpa using hn)]
      omega

theorem two_pow_le_mul {n m j k : Nat} (hk : m ≤ 3 * k) (hn : 10 ^ k ≤ n) :
    2 ^ (m + j) ≤ n * 2 ^ j := by
  rw [Nat.pow_add]
  exact Nat.mul_le_mul_right _ (Nat.le_trans (Decimal.two_pow_le_ten_pow hk) hn)

/-- An integer of many digits is past the largest double. -/
theorem ofInt?_of_ten_pow_le {n : Int} {k : Nat} (hk : 1024 ≤ 3 * k) (hn : 10 ^ k ≤ n.natAbs) :
    ofInt? n = none := by
  have hunits : ceiling ≤ roundUnits (n.natAbs * one) 1 :=
    two_pow_le_roundUnits (two_pow_le_mul hk hn)
  have hratio : ofRatio (n < 0) n.natAbs 1 = .infinite (n < 0) := by
    rw [ofRatio, ofUnits_of_ceiling_le hunits]
  rw [ofInt?, hratio]
  rfl

theorem ofInt?_ten_pow {k : Nat} (hk : 1024 ≤ 3 * k) : ofInt? (10 ^ k) = none :=
  ofInt?_of_ten_pow_le hk (natAbs_ten_pow k).ge

/-- The integers among the doubles are smaller than the infinities. -/
theorem natAbs_lt_of_toInt? {d : Double} {n : Int} (h : d.toInt? = some n) :
    n.natAbs * one < ceiling := by
  cases d with
  | nan => cases h
  | infinite negative => cases h
  | finite negative units fits =>
    have hlt := fits.2
    rwa [(units_of_toInt? h).1] at hlt

/-- What equals a double that is an integer is the same integer. -/
theorem eq_iff_toInt? {d e : Double} {n : Int} (h : d.toInt? = some n) :
    e.eq d = (e.toInt? == some n) := by
  have hplace := place_of_toInt? h
  have hone : (one : Int) ≠ 0 := by have := one_pos; omega
  by_cases he : e.toInt? = some n
  · simp [eq, place_of_toInt? he, hplace, he]
  · rw [beq_false_of_ne he]
    unfold eq
    rw [hplace]
    have habs : (n * (one : Int)).natAbs = n.natAbs * one := by
      rw [Int.natAbs_mul, Int.natAbs_natCast]
    cases e with
    | nan => rfl
    | infinite negative =>
      -- an infinity stands past the integers among the doubles
      have hlt := natAbs_lt_of_toInt? h
      refine beq_false_of_ne fun hx => ?_
      have hx : (if negative then -(ceiling : Int) else ceiling) = n * one := hx
      split at hx <;> omega
    | finite negative units fits =>
      refine beq_false_of_ne fun hx => he ?_
      have hx : (if negative then -(units : Int) else units) = n * one := hx
      have hunits : units = n.natAbs * one := by
        split at hx <;> omega
      refine toInt?_of_units hunits (Int.eq_of_mul_eq_mul_right hone ?_)
      rw [← hx, hunits, Int.natCast_mul]
      split
      · rw [Int.neg_mul]
      · rfl

end Double

theorem lt_ten_pow_of_mul_lt {n m j k : Nat} (h : n * 2 ^ j < 2 ^ (m + j)) (hk : m ≤ 3 * k) :
    n < 10 ^ k := by
  rw [Nat.pow_add] at h
  exact Nat.lt_of_lt_of_le (Nat.lt_of_mul_lt_mul_right h) (Decimal.two_pow_le_ten_pow hk)

/-- The integers among the doubles are not too long to be written. -/
theorem isLongInteger_of_toInt? {d : Double} {n : Int} (h : d.toInt? = some n) :
    isLongInteger n = false :=
  Json.isLongInteger_eq_false (lt_ten_pow_of_mul_lt (Double.natAbs_lt_of_toInt? h) (by decide))

/-- An integer that is not past the largest double is not too long to be written. -/
theorem isLongInteger_of_ofInt? {n : Int} (h : (Double.ofInt? n).isSome = true) :
    isLongInteger n = false := by
  refine Json.isLongInteger_eq_false (Nat.lt_of_not_le fun hn => ?_)
  rw [Double.ofInt?_of_ten_pow_le (by decide) hn] at h
  cases h

end ShelfRules
