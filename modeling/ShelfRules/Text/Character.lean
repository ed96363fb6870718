/-!
# Characters

Classes of characters are given as ascending lists of intervals of code points, both ends included.
Blanks are the white space of Unicode together with the four information separators
`U+001C ... U+001F`. A decimal digit is a character of category Nd: one of ten successive code points
that start with a zero. A digit-like character is a decimal digit or one written as a superscript, a
subscript, in a circle and so on. Hexadecimal numbers have a fixed count of lower-case digits, and a
digit is read in either case.

Results:
* `hexValue?_hexDigit`: a hexadecimal digit reads back.
-/

namespace ShelfRules.Text

/-- A list of intervals of code points, both ends included. -/
abbrev CodeRanges := List (Nat × Nat)

/-- The code point of the character lies in one of the intervals. -/
def CodeRanges.has (ranges : CodeRanges) (c : Char) : Bool :=
  ranges.any fun (first, last) => first ≤ c.toNat && c.toNat ≤ last

/-! ## Blanks -/

/-- The blank code points. -/
def blanks : CodeRanges := [
  (0x9, 0xD), (0x1C, 0x20), (0x85, 0x85), (0xA0, 0xA0), (0x1680, 0x1680), (0x2000, 0x200A),
  (0x2028, 0x2029), (0x202F, 0x202F), (0x205F, 0x205F), (0x3000, 0x3000)]

/-- The character is a blank. -/
def isBlank (c : Char) : Bool := blanks.has c

/-- The text without the blanks at its start. -/
def stripStart (s : List Char) : List Char := s.dropWhile isBlank

/-- The text without the blanks at either end. -/
def strip (s : List Char) : List Char := (stripStart (stripStart s).reverse).reverse

/-- The text without the blanks at either end, as a string. -/
def stripped (s : String) : String := String.ofList (strip s.toList)

/-! ## Decimal digits -/

/-- The code points of the zeros; each is followed by the other nine digits of its script. -/
def zeros : List Nat := [
  0x30, 0x660, 0x6F0, 0x7C0, 0x966, 0x9E6, 0xA66, 0xAE6, 0xB66, 0xBE6, 0xC66, 0xCE6, 0xD66, 0xDE6,
  0xE50, 0xED0, 0xF20, 0x1040, 0x1090, 0x17E0, 0x1810, 0x1946, 0x19D0, 0x1A80, 0x1A90, 0x1B50,
  0x1BB0, 0x1C40, 0x1C50, 0xA620, 0xA8D0, 0xA900, 0xA9D0, 0xA9F0, 0xAA50, 0xABF0, 0xFF10, 0x104A0,
  0x10D30, 0x11066, 0x110F0, 0x11136, 0x111D0, 0x112F0, 0x11450, 0x114D0, 0x11650, 0x116C0,
  0x11730, 0x118E0, 0x11950, 0x11C50, 0x11D50, 0x11DA0, 0x16A60, 0x16AC0, 0x16B50, 0x1D7CE,
  0x1D7D8, 0x1D7E2, 0x1D7EC, 0x1D7F6, 0x1E140, 0x1E2F0, 0x1E950, 0x1FBF0]

/-- The code points with a digit's value that are no decimal digits. -/
def otherDigits : CodeRanges := [
  (0xB2, 0xB3), (0xB9, 0xB9), (0x1369, 0x1371), (0x19DA, 0x19DA), (0x2070, 0x2070),
  (0x2074, 0x2079), (0x2080, 0x2089), (0x2460, 0x2468), (0x2474, 0x247C), (0x2488, 0x2490),
  (0x24EA, 0x24EA), (0x24F5, 0x24FD), (0x24FF, 0x24FF), (0x2776, 0x277E), (0x2780, 0x2788),
  (0x278A, 0x2792), (0x10A40, 0x10A43), (0x10E60, 0x10E68), (0x11052, 0x1105A), (0x1F100, 0x1F10A)]

/-- The value of a decimal digit. -/
def digitValue? (c : Char) : Option Nat :=
  (zeros.find? fun z => z ≤ c.toNat && c.toNat < z + 10).map (c.toNat - ·)

/-- The character is a decimal digit. -/
def isDecimal (c : Char) : Bool := (digitValue? c).isSome

/-- The character is a decimal digit or another digit. -/
def isDigitLike (c : Char) : Bool := isDecimal c || otherDigits.has c

/-- The number written by decimal digits of any script; a character without a value counts as
    zero. -/
def digitsValue (s : List Char) : Nat :=
  s.foldl (fun n c => 10 * n + (digitValue? c).getD 0) 0

/-! ## Hexadecimal digits -/

/-- The lower-case digit with a value below sixteen. -/
def hexDigit (n : Nat) : Char :=
  if n < 10 then Char.ofNat (48 + n) else Char.ofNat (87 + n)

/-- The last `count` hexadecimal digits of a number. -/
def hexDigits : Nat → Nat → List Char
  | 0, _ => []
  | count + 1, n => hexDigits count (n / 16) ++ [hexDigit (n % 16)]

/-- The value of a hexadecimal digit in either case. -/
def hexValue? (c : Char) : Option Nat :=
  if '0' ≤ c ∧ c ≤ '9' then some (c.toNat - 48)
  else if 'a' ≤ c ∧ c ≤ 'f' then some (c.toNat - 87)
  else if 'A' ≤ c ∧ c ≤ 'F' then some (c.toNat - 55)
  else none

theorem hexValue?_hexDigit : ∀ n, n < 16 → hexValue? (hexDigit n) = some n := by decide

end ShelfRules.Text
