/-!
# Double-precision numbers

A double is held exactly: a finite one is a sign and a natural number of *units*, a unit being the
least positive double, `2 ^ (-1074)`. Rounding, order and equality are then questions about natural
numbers.

Results:
* `roundUnits_units`: a number that is a double already is not changed by rounding.
* `Double.eq_comm`: the numeric equality, under which a NaN equals nothing and the two zeros are one
  number.
-/

namespace ShelfRules

/-! ## Rounding -/

-- A power of a natural number or an integer is the one of the core library, whatever else is imported.
attribute [instance (2000)] instPowNat

/-- The quotient of `num` by `den`, rounded to the nearest natural number; a half goes to the even
    neighbour. -/
def roundHalfEven (num den : Nat) : Nat :=
  if den < 2 * (num % den) ∨ (2 * (num % den) = den ∧ num / den % 2 = 1) then num / den + 1
  else num / den

/-- The quotient of `num` by `den`, rounded to 53 significant bits, and at least to a natural
    number. -/
@[irreducible] def roundUnits (num den : Nat) : Nat :=
  let place := 2 ^ ((num / den).log2 - 52)
  roundHalfEven num (den * place) * place

theorem roundHalfEven_mul (n : Nat) {den : Nat} (h : 0 < den) : roundHalfEven (n * den) den = n := by
  have hr : n * den % den = 0 := Nat.mul_mod_left n den
  have hq : n * den / den = n := Nat.mul_div_cancel n h
  unfold roundHalfEven
  rw [hr, hq, if_neg]
  omega

/-! ## The type -/

/-- A unit is one, halved this often. -/
@[irreducible] def Double.depth : Nat := 1074

/-- Units in the number one. -/
def Double.one : Nat := 2 ^ Double.depth

/-- Units in `2 ^ 1024`, the first power of two past the largest double. -/
def Double.ceiling : Nat := 2 ^ (1024 + Double.depth)

theorem Double.one_pos : 0 < Double.one := Nat.two_pow_pos _

/-- `units` has at most 53 significant bits and is smaller than `2 ^ 1024`. -/
def IsDoubleUnits (units : Nat) : Prop :=
  units % 2 ^ (units.log2 - 52) = 0 ∧ units < Double.ceiling

instance (units : Nat) : Decidable (IsDoubleUnits units) :=
  inferInstanceAs (Decidable (_ ∧ _))

/-- A double-precision number. -/
inductive Double where
  /-- The value of an undefined result; there is one NaN. -/
  | nan
  /-- An infinity, negative or positive. -/
  | infinite (negative : Bool)
  /-- A sign and a number of units of `2 ^ (-1074)`; zero has both signs. -/
  | finite (negative : Bool) (units : Nat) (fits : IsDoubleUnits units)
deriving DecidableEq, Repr

/-- Rounding leaves the units of a double as they are. -/
theorem roundUnits_units {units den : Nat} (hu : IsDoubleUnits units) (hd : 0 < den) :
    roundUnits (units * den) den = units := by
  unfold roundUnits
  simp only [Nat.mul_div_cancel units hd]
  have hp : 0 < 2 ^ (units.log2 - 52) := Nat.two_pow_pos _
  have hdiv : units / 2 ^ (units.log2 - 52) * 2 ^ (units.log2 - 52) = units :=
    Nat.div_mul_cancel (Nat.dvd_of_mod_eq_zero hu.1)
  have hsplit : units * den =
      units / 2 ^ (units.log2 - 52) * (den * 2 ^ (units.log2 - 52)) := by
    rw [Nat.mul_comm den, ← Nat.mul_assoc, hdiv]
  rw [hsplit, roundHalfEven_mul _ (Nat.mul_pos hd hp), hdiv]

namespace Double

theorem isDoubleUnits_zero : IsDoubleUnits 0 :=
  ⟨Nat.zero_mod _, Nat.two_pow_pos _⟩

theorem isDoubleUnits_two_pow {k : Nat} (h : k < 1024 + depth) : IsDoubleUnits (2 ^ k) := by
  refine ⟨?_, Nat.pow_lt_pow_right (by decide) h⟩
  rw [Nat.log2_two_pow]
  exact Nat.mod_eq_zero_of_dvd (Nat.pow_dvd_pow 2 (Nat.sub_le k 52))

/-- A zero with the given sign. -/
def zero (negative : Bool) : Double := .finite negative 0 isDoubleUnits_zero

/-- The number one. -/
def unit : Double := .finite false one (isDoubleUnits_two_pow (by omega))

/-- The double with the given sign and units, infinite when they are past the largest double. -/
@[irreducible] def ofUnits (negative : Bool) (units : Nat) : Double :=
  if h : IsDoubleUnits units then .finite negative units h else .infinite negative

/-- The double nearest to `num / den`, with a sign. -/
@[irreducible] def ofRatio (negative : Bool) (num den : Nat) : Double :=
  ofUnits negative (roundUnits (num * one) den)

/-- The double unless it is an infinity. -/
def unlessInfinite : Double → Option Double
  | .infinite _ => none
  | d => some d

/-- The double nearest to an integer, none when the integer is past the largest double. -/
def ofInt? (n : Int) : Option Double := (ofRatio (n < 0) n.natAbs 1).unlessInfinite

/-- The product with a natural number, rounded. -/
def mulNat (d : Double) (k : Nat) : Double :=
  match d with
  | .finite s u _ => ofUnits s (roundUnits (u * k) 1)
  | d => d

/-! ## Order and equality -/

/-- A place on the number line: the signed units of a finite double, the infinities past all of
    them, and no place for a NaN. -/
def place : Double → Option Int
  | .nan => none
  | .infinite negative => some (if negative then -(ceiling : Int) else ceiling)
  | .finite negative units _ => some (if negative then -(units : Int) else units)

/-- Numeric equality: a NaN equals nothing, the two zeros are equal. -/
def eq (a b : Double) : Bool :=
  match a.place, b.place with
  | some x, some y => x == y
  | _, _ => false

/-- Numeric order: a NaN is below nothing and above nothing. -/
def lt (a b : Double) : Bool :=
  match a.place, b.place with
  | some x, some y => x < y
  | _, _ => false

/-- Below or equal. -/
def le (a b : Double) : Bool :=
  match a.place, b.place with
  | some x, some y => x ≤ y
  | _, _ => false

/-- The number is undefined. -/
def isNaN : Double → Bool
  | .nan => true
  | _ => false

/-- The number is a zero of either sign. -/
def isZero : Double → Bool
  | .finite _ units _ => units == 0
  | _ => false

theorem eq_comm (a b : Double) : a.eq b = b.eq a := by
  cases a <;> cases b <;> simp [eq, place, Bool.beq_comm]

/-! ## Integers among the doubles -/

/-- The integer that the double is, if it is one. -/
def toInt? : Double → Option Int
  | .finite negative units _ =>
    if units % one = 0 then
      some (if negative then -((units / one : Nat) : Int) else ((units / one : Nat) : Int))
    else none
  | _ => none

/-- The double and the integer are the same number; no rounding takes place. -/
def eqInt (d : Double) (n : Int) : Bool :=
  d.toInt? == some n

end Double

end ShelfRules
