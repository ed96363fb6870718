import ShelfRules.Double.Decimal

/-!
# The text of a double

A double is written with the fewest digits that read back. The point stands among the digits while
the exponent of the first digit lies in `-4 ... 15`; outside of that range an exponent of at least two
digits follows the mantissa. A double always shows a point or an exponent, so that it is never
taken for an integer.
-/

namespace ShelfRules

/-- The words for the doubles that have no digits. -/
structure DoubleWords where
  undefined : String
  infinite : String

namespace Double

/-- The words used in plain text. -/
def plainWords : DoubleWords := ⟨"nan", "inf"⟩

/-- Places `point` digits before the point; zeros fill the places that have no digit. -/
def positional (digits : List Char) (point : Int) : List Char :=
  if point ≤ 0 then '0' :: '.' :: (List.replicate (-point).toNat '0' ++ digits)
  else if digits.length ≤ point.toNat then
    digits ++ List.replicate (point.toNat - digits.length) '0' ++ ['.', '0']
  else digits.take point.toNat ++ '.' :: digits.drop point.toNat

/-- Places one digit before the point, and the exponent of that digit behind. -/
def scientific (digits : List Char) (exponent : Int) : List Char :=
  let mantissa := match digits with
    | [] => []
    | [d] => [d]
    | d :: rest => d :: '.' :: rest
  let size := Nat.toDigits 10 exponent.natAbs
  mantissa ++ 'e' :: (if exponent < 0 then '-' else '+') ::
    (List.replicate (2 - size.length) '0' ++ size)

/-- The digits of a number without the zeros at its end. -/
def significant (n : Nat) : List Char :=
  ((Nat.toDigits 10 n).reverse.dropWhile (· == '0')).reverse

/-- The text of a positive decimal. -/
def decimalText (d : Decimal) : List Char :=
  let exponent := d.exponent + (Nat.toDigits 10 d.digits).length - 1
  let digits := significant d.digits
  if -4 ≤ exponent ∧ exponent < 16 then positional digits (exponent + 1)
  else scientific digits exponent

/-- The text of the size of a finite double. -/
def unitsText (units : Nat) : List Char :=
  if units = 0 then ['0', '.', '0'] else decimalText (shortest units)

/-- The text of a double, with the given words where it has no digits. -/
def chars (words : DoubleWords) : Double → List Char
  | .nan => words.undefined.toList
  | .infinite negative => (if negative then ['-'] else []) ++ words.infinite.toList
  | .finite negative units _ => (if negative then ['-'] else []) ++ unitsText units

/-- The text of a double as a string. -/
def text (words : DoubleWords) (d : Double) : String :=
  String.ofList (d.chars words)

end Double

end ShelfRules
