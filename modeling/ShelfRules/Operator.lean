import ShelfRules.Field

/-!
# Operators

The tests of a rule, in four families, and the operators that are offered for a field. A rule may
name an operator that is not among them; such a name is kept as it is written.

Results:
* `Operator.ofName?_name`: an operator is found by its name.
* `Operator.mem_family`: every operator belongs to the family it tells.
* `OperatorName.ofText_text`: an operator name is read back from its text.
-/

namespace ShelfRules

/-! ## Operators -/

/-- A test on the value of a field. -/
inductive Operator where
  | equals
  | notEquals
  | contains
  | doesNotContain
  | startsWith
  | endsWith
  | greaterThan
  | greaterThanEqualTo
  | lessThan
  | lessThanEqualTo
  | inBetween
  | isEmpty
  | isNotEmpty
  | includesAny
  | excludesAll
  | includesAll
deriving DecidableEq, Repr

namespace Operator

/-- All operators, in the order in which they are listed. -/
def all : List Operator := [
  .equals, .notEquals, .contains, .doesNotContain, .startsWith, .endsWith, .greaterThan,
  .greaterThanEqualTo, .lessThan, .lessThanEqualTo, .inBetween, .isEmpty, .isNotEmpty,
  .includesAny, .excludesAll, .includesAll]

/-- The name of an operator in rules. -/
def name : Operator → String
  | .equals => "equals"
  | .notEquals => "not_equals"
  | .contains => "contains"
  | .doesNotContain => "does_not_contain"
  | .startsWith => "starts_with"
  | .endsWith => "ends_with"
  | .greaterThan => "greater_than"
  | .greaterThanEqualTo => "greater_than_equal_to"
  | .lessThan => "less_than"
  | .lessThanEqualTo => "less_than_equal_to"
  | .inBetween => "in_between"
  | .isEmpty => "is_empty"
  | .isNotEmpty => "is_not_empty"
  | .includesAny => "includes_any"
  | .excludesAll => "excludes_all"
  | .includesAll => "includes_all"

/-- The operator with a name. -/
def ofName? (s : String) : Option Operator := all.find? fun operator => operator.name == s

theorem ofName?_name (operator : Operator) : ofName? operator.name = some operator := by
  cases operator <;> rfl

end Operator

/-! ## Families -/

/-- Operators that apply to the same fields. -/
inductive OperatorFamily where
  | base
  | multiValue
  | text
  | comparison
deriving DecidableEq, Repr

namespace OperatorFamily

/-- All families, in the order in which they are listed. -/
def all : List OperatorFamily := [.base, .multiValue, .text, .comparison]

/-- The name of a family. -/
def name : OperatorFamily → String
  | .base => "base"
  | .multiValue => "multi_value"
  | .text => "text"
  | .comparison => "comparison"

/-- The operators of a family, in the order in which they are offered. -/
def operators : OperatorFamily → List Operator
  | .base => [.equals, .notEquals, .isEmpty, .isNotEmpty]
  | .multiValue => [.includesAny, .excludesAll, .includesAll]
  | .text => [.contains, .doesNotContain, .startsWith, .endsWith]
  | .comparison =>
    [.greaterThan, .greaterThanEqualTo, .lessThan, .lessThanEqualTo, .inBetween]

end OperatorFamily

namespace Operator

/-- The family of an operator. -/
def family : Operator → OperatorFamily
  | .equals | .notEquals | .isEmpty | .isNotEmpty => .base
  | .includesAny | .excludesAll | .includesAll => .multiValue
  | .contains | .doesNotContain | .startsWith | .endsWith => .text
  | .greaterThan | .greaterThanEqualTo | .lessThan | .lessThanEqualTo | .inBetween => .comparison

/-- The operator tests a set of values. -/
def takesSet (operator : Operator) : Bool := operator.family == .multiValue

theorem mem_family (operator : Operator) : operator ∈ operator.family.operators := by
  cases operator <;> decide

/-- The operators offered for a field: the base ones, those on sets, and either the comparisons or
    those on text. While no field is chosen the first two families are offered. -/
def offered : Option Field → List Operator
  | none => OperatorFamily.base.operators ++ OperatorFamily.multiValue.operators
  | some field =>
    let d := field.descriptor
    OperatorFamily.base.operators ++
      (if d.multiValued then OperatorFamily.multiValue.operators else []) ++
      (if d.isComparable then OperatorFamily.comparison.operators
       else if d.textEligible then OperatorFamily.text.operators else [])

end Operator

/-! ## Names of operators -/

/-- The operator of a rule: a known one, or another text. -/
inductive OperatorName where
  | known (operator : Operator)
  | unknown (raw : String) (fresh : Operator.ofName? raw = none)
deriving DecidableEq, Repr

namespace OperatorName

/-- The name of no operator. -/
def blank : OperatorName := .unknown "" (by decide)

/-- The operator that a text names. -/
def ofText (s : String) : OperatorName :=
  match h : Operator.ofName? s with
  | some operator => .known operator
  | none => .unknown s h

/-- The operator that a value names: null names the blank one, and a value that is no text is taken
    by its text. -/
def ofValue? : Value → Except Fault OperatorName
  | .null => .ok blank
  | .text s => .ok (ofText s)
  | v => v.text?.map ofText

/-- The text of an operator name. -/
def text : OperatorName → String
  | .known operator => operator.name
  | .unknown raw _ => raw

/-- No operator is named. -/
def isBlank (name : OperatorName) : Bool := name.text == ""

theorem ofText_text (name : OperatorName) : ofText name.text = name := by
  cases name with
  | known operator =>
    unfold ofText text
    split
    · rename_i other h
      rw [Operator.ofName?_name] at h
      exact congrArg known (Option.some.inj h).symm
    · rename_i h
      rw [Operator.ofName?_name] at h
      cases h
  | unknown raw fresh =>
    unfold ofText text
    split
    · rename_i other h
      rw [fresh] at h
      cases h
    · rfl

theorem text_ofText (s : String) : (ofText s).text = s := by
  unfold ofText
  split
  · rename_i operator h
    have := List.find?_some h
    simpa [text] using this
  · rfl

end OperatorName

end ShelfRules
