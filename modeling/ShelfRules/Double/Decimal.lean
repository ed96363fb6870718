import ShelfRules.Double

/-!
# Decimals and doubles

A decimal is a natural number times a power of ten. Reading one gives the nearest double; writing
a double gives the shortest decimal that reads back, and of the shortest ones the nearest.

Results:
* `Double.units_exact`: the exact decimal of a double reads back.
* `Double.units_shortest`: so does the shortest one, whatever the search for it found.
-/

namespace ShelfRules

/-- The number `digits * 10 ^ exponent`. -/
structure Decimal where
  digits : Nat
  exponent : Int
deriving DecidableEq, Repr

namespace Decimal

/-! ## Reading -/

/-- The units of the double nearest to a decimal, of any size. -/
def units (d : Decimal) : Nat :=
  if 0 ≤ d.exponent then roundUnits (d.digits * 10 ^ d.exponent.toNat * Double.one) 1
  else roundUnits (d.digits * Double.one) (10 ^ (-d.exponent).toNat)

/-- The double nearest to a decimal. A decimal of more than 400 places before the point is infinite
    and one of more than 400 zeros behind it is zero; neither power is computed. -/
@[irreducible] def toDouble (negative : Bool) (d : Decimal) : Double :=
  if d.digits = 0 then .zero negative
  else if 400 < d.exponent then .infinite negative
  else if d.exponent + d.digits.log2 < -400 then .zero negative
  else .ofUnits negative d.units

end Decimal

namespace Double

/-! ## Writing -/

/-- The decimal that equals a number of units: a unit is `5 ^ depth * 10 ^ (-depth)`. -/
def exact (units : Nat) : Decimal :=
  ⟨units * 5 ^ depth, -depth⟩

/-- The exponent of ten of the first digit of a positive number of units. -/
def leadingPower (units : Nat) : Int :=
  if one ≤ units then ((Nat.toDigits 10 (units / one)).length : Int) - 1
  else match (List.range 325).find? fun j => one ≤ units * 10 ^ j with
    | some j => -(j : Int)
    | none => -324

/-- The units as a fraction over `10 ^ power`: numerator and denominator. -/
def scaled (units : Nat) (power : Int) : Nat × Nat :=
  if 0 ≤ power then (units, one * 10 ^ power.toNat)
  else (units * 10 ^ (-power).toNat, one)

/-- The decimal on the grid of `10 ^ power` that reads back as `units`: of the two neighbours on the
    grid the nearer that does, and the even one when both do at one distance. -/
def onGrid (units : Nat) (power : Int) : Option Decimal :=
  let (num, den) := scaled units power
  let below : Decimal := ⟨num / den, power⟩
  let above : Decimal := ⟨num / den + 1, power⟩
  let twice := 2 * (num % den)
  match below.units == units, above.units == units with
  | true, true =>
    if twice < den ∨ (twice = den ∧ num / den % 2 = 0) then some below else some above
  | true, false => some below
  | false, true => some above
  | false, false => none

/-- The shortest decimal that reads back as a positive number of units, tried with 1 to 17 digits. -/
@[irreducible] def shortest (units : Nat) : Decimal :=
  let top := leadingPower units
  ((List.range 17).findSome? fun n : Nat => onGrid units (top - n)).getD (exact units)

theorem units_of_onGrid {units : Nat} {power : Int} {d : Decimal}
    (h : onGrid units power = some d) : d.units = units := by
  unfold onGrid at h
  split at h
  dsimp only at h
  split at h
  · split at h <;> simp_all
  · simp_all
  · simp_all
  · cases h

theorem units_exact {units : Nat} (h : IsDoubleUnits units) : (exact units).units = units := by
  have hten : ∀ k, units * 5 ^ k * 2 ^ k = units * 10 ^ k := fun k => by
    rw [Nat.mul_assoc, ← Nat.mul_pow]
  unfold Decimal.units exact
  by_cases hd : (0 : Int) ≤ -(depth : Int)
  · have h0 : depth = 0 := by omega
    simp only [one, h0]
    simpa using roundUnits_units h Nat.one_pos
  · rw [if_neg hd]
    simp only [one, hten, Int.neg_neg, Int.toNat_natCast]
    exact roundUnits_units h (Nat.pow_pos (by decide))

/-- The shortest decimal of a double reads back as that double. -/
theorem units_shortest {units : Nat} (h : IsDoubleUnits units) : (shortest units).units = units := by
  unfold shortest
  cases hs : (List.range 17).findSome? fun n : Nat => onGrid units (leadingPower units - n) with
  | none => simpa [hs] using units_exact h
  | some d =>
    obtain ⟨n, _, hn⟩ := List.exists_of_findSome?_eq_some hs
    simpa [hs] using units_of_onGrid hn

end Double

end ShelfRules
