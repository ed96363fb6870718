import ShelfRules.Double.Decimal
import ShelfRules.Fault
import ShelfRules.Text.Character
import ShelfRules.Value

/-!
# The number of a value

Values are ordered as doubles. A timestamp counts as milliseconds since 1970, a text as the number it
writes, and a value that stands for no number as a NaN, which is never above or below anything.

Results:
* `Value.number?_eq_error`: only an integer past the largest double and a clock that tells its
  offset have no number.
-/

namespace ShelfRules

/-! ## Numbers in texts -/

/-- The text without a sign in front, and whether that was a minus. -/
def splitSign : List Char → Bool × List Char
  | '-' :: s => (true, s)
  | '+' :: s => (false, s)
  | s => (false, s)

/-- The exponent that a whole text is: none behind the mantissa, or a letter, a sign or none, and
    digits. -/
def readExponentText : List Char → Option Int
  | [] => some 0
  | c :: s =>
    let (negative, digits) := splitSign s
    if (c == 'e' || c == 'E') && digits != [] && digits.all Text.isDecimal then
      let size : Int := Text.digitsValue digits
      some (if negative then -size else size)
    else none

/-- The digits before and behind the point of a mantissa in front, and the text behind it. A
    mantissa has a digit. -/
def readMantissa (s : List Char) : Option (List Char × List Char × List Char) :=
  let whole := s.takeWhile Text.isDecimal
  let (fraction, rest) := match s.dropWhile Text.isDecimal with
    | '.' :: t => (t.takeWhile Text.isDecimal, t.dropWhile Text.isDecimal)
    | t => ([], t)
  if whole = [] ∧ fraction = [] then none else some (whole, fraction, rest)

/-- The double that a text without blanks at its ends writes in digits. -/
def Double.ofText? (s : List Char) : Option Double := do
  let (negative, s) := splitSign s
  let (whole, fraction, rest) ← readMantissa s
  let exponent ← readExponentText rest
  some (Decimal.toDouble negative
    ⟨Text.digitsValue (whole ++ fraction), exponent - fraction.length⟩)

/-- The double that a text writes in digits or as an infinity; a NaN when it writes none. -/
def Double.ofText (s : String) : Double :=
  let text := Text.strip s.toList
  match Double.ofText? text with
  | some d => d
  | none =>
    if text = "infinity".toList ∨ text = "+infinity".toList then .infinite false
    else if text = "-infinity".toList then .infinite true
    else .nan

/-! ## Numbers of values -/

namespace Value

/-- The number that a value counts as when values are ordered. -/
def number? : Value → Except Fault Double
  | .bool b => .ok (if b then .unit else .zero false)
  | .int n => Fault.numberTooLarge.ifNone (Double.ofInt? n)
  | .float d => .ok d
  | .stamp ⟨wall, none⟩ => .ok wall.epochMillis
  | .stamp ⟨_, some _⟩ => .error .mixedClocks
  | .text s => .ok (Double.ofText s)
  | _ => .ok .nan

theorem number?_eq_error {v : Value} {f : Fault} (h : v.number? = .error f) :
    (∃ n, v = .int n ∧ f = .numberTooLarge) ∨
      (∃ wall o, v = .stamp ⟨wall, some o⟩ ∧ f = .mixedClocks) := by
  cases v with
  | int n => exact .inl ⟨n, rfl, (Fault.ifNone_eq_error h).1⟩
  | stamp t =>
    obtain ⟨wall, offset⟩ := t
    cases offset with
    | none => exact nomatch h
    | some o => exact .inr ⟨wall, o, rfl, (Except.error.inj h).symm⟩
  | null | bool | float | text | list | tuple | object | date | status => exact nomatch h

end Value

end ShelfRules
