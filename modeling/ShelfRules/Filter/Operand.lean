import ShelfRules.Operator
import ShelfRules.Value.Normal

/-!
# Operands

What an operator compares a field with: one value, the two bounds of a range, or a set of values. The
operator decides which of them; the values are brought to their normal shape, and those of a set are
texts in lower case.

Results:
* `Operand.build?_takesSet`: an operator on sets takes the texts of its value.
-/

namespace ShelfRules

/-- What an operator compares a field with. -/
inductive Operand where
  /-- One value as it stands in the rule, and in its normal shape. -/
  | scalar (raw value : Value)
  /-- The bounds of a range in their normal shape. -/
  | range (start finish : Value)
  /-- Values of which some or all are looked for. -/
  | set (values : List Value)
deriving Repr, Inhabited

namespace Operand

/-- The set of texts. -/
def ofTexts (ss : List String) : Operand := set (ss.map .text)

/-- The operand of an operator, from the value and the bounds of a rule. -/
def build? (name : OperatorName) (value start finish : Value) : Except Fault Operand :=
  match name with
  | .known .includesAny | .known .excludesAll | .known .includesAll => value.lowerList?.map ofTexts
  | .known .inBetween =>
    match start.normalize?, finish.normalize? with
    | .ok start, .ok finish => .ok (range start finish)
    | .error f, _ => .error f
    | _, .error f => .error f
  | _ => value.normalize?.map (scalar value)

/-- The one value in its normal shape, null when there is none. -/
def value : Operand → Value
  | scalar _ value => value
  | _ => .null

/-- The values that an item of a list is compared with. -/
def values? : Operand → Except Fault (List Value)
  | scalar raw _ => raw.lowerList?.map (·.map .text)
  | set values => .ok values
  | range .. => .ok []

/-- The values of a set, none when the operand is no set. -/
def setValues : Operand → List Value
  | set values => values
  | _ => []

theorem build?_takesSet {operator : Operator} (h : operator.takesSet = true)
    (value start finish : Value) :
    build? (.known operator) value start finish = value.lowerList?.map ofTexts := by
  cases operator with
  | includesAny | excludesAll | includesAll => rfl
  | _ => cases h

end Operand

end ShelfRules
