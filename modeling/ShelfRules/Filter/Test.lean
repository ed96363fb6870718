import ShelfRules.Filter.Operand
import ShelfRules.Filter.Verdict
import ShelfRules.Text.Character
import ShelfRules.Value.Equality
import ShelfRules.Value.Number

/-!
# Tests

What each operator asks of the value of a field. The value is in its normal shape; a list stands for
several values at once. Values that cannot be compared as the operator asks give a no, or
a yes when the operator is a negation.

Results:
* `Value.isAmong_texts`: a text is among texts when it is one of them.
* `Operand.differs?_eq`, `Operand.relates?_negated`, `Value.isFilled_eq`, `Operand.misses?_eq`: each
  negation answers the opposite of its test, whatever it is asked about.
* `OperatorName.test?_unknown`: an operator that is not known never holds.
-/

namespace ShelfRules

/-! ## Parts of texts -/

/-- The first text is a part of the second one. -/
def Text.isPartOf (part : List Char) : List Char → Bool
  | [] => part.isEmpty
  | c :: s => part.isPrefixOf (c :: s) || isPartOf part s

/-! ## Order -/

/-- The order of two doubles, none when one is a NaN. -/
def Double.compare (a b : Double) : Option Ordering :=
  match a.place, b.place with
  | some x, some y => some (Ord.compare x y)
  | _, _ => none

/-- The order of two timestamps, on clocks that both tell their offset or both do not. -/
def Timestamp.compare? (a b : Timestamp) : Except Fault Ordering :=
  if a.offset.isSome == b.offset.isSome then .ok (Ord.compare a.utcMicros b.utcMicros)
  else .error .mixedClocks

/-- The first timestamp is not after the second one. -/
def Timestamp.le? (a b : Timestamp) : Verdict := (a.compare? b).map Ordering.isLE

namespace Value

/-- The order of the numbers of two values. -/
def compareNumbers? (a b : Value) : Except Fault (Option Ordering) :=
  a.number?.bind fun x => b.number?.map x.compare

/-- The order of two values: of their instants when both are timestamps, else of their numbers. -/
def compare? : Value → Value → Except Fault (Option Ordering)
  | .stamp a, .stamp b => (a.compare? b).map some
  | a, b => a.compareNumbers? b

/-- The value lies between two others, the bounds included: by their instants when all three are
    timestamps, else by their numbers. Null lies nowhere, and nothing lies beyond it. -/
def isBetween? : Value → Value → Value → Verdict
  | .null, _, _ => .ok false
  | _, .null, _ => .ok false
  | _, _, .null => .ok false
  | .stamp v, .stamp start, .stamp finish => (start.le? v).and (v.le? finish)
  | v, start, finish =>
    v.number?.bind fun x =>
      Verdict.and (start.number?.map (·.le x)) (finish.number?.map (x.le ·))

/-! ## Equality and emptiness -/

/-- The two values are of one kind and equal, integers and doubles being one kind. -/
def equals : Value → Value → Bool
  | .null, .null => true
  | .bool a, .bool b => a == b
  | .int m, .int n => m == n
  | .int n, .float d => d.eqInt n
  | .float d, .int n => d.eqInt n
  | .float a, .float b => a.eq b
  | .text a, .text b => a == b
  | .stamp a, .stamp b => a.same b
  | _, _ => false

/-- The value is the same as one of those given. -/
def isAmong (values : List Value) (v : Value) : Bool := values.any v.same

theorem isAmong_texts (ss : List String) (s : String) :
    isAmong (ss.map .text) (.text s) = ss.contains s := by
  simp only [isAmong, List.any_map, Function.comp_def, same_text, List.contains_eq_any_beq]

/-- The value is null, a blank text, or a list without items. -/
def isEmpty : Value → Bool
  | .null => true
  | .text s => Text.strip s.toList == []
  | .list items => items.isEmpty
  | _ => false

/-- The value is not null, and no blank text or list without items. -/
def isFilled : Value → Bool
  | .null => false
  | .text s => Text.strip s.toList != []
  | .list items => 0 < items.length
  | _ => true

theorem isFilled_eq (v : Value) : v.isFilled = !v.isEmpty := by
  cases v with
  | list items => cases items <;> rfl
  | _ => rfl

end Value

/-! ## The tests -/

namespace Operand

/-- The value, or one of its items, is the operand. -/
def matches? (operand : Operand) : Value → Verdict
  | .list items => operand.values?.map fun values => items.any (Value.isAmong values)
  | subject => .ok (subject.equals operand.value)

/-- The value is not the operand, nor is one of its items. -/
def differs? (operand : Operand) : Value → Verdict
  | .list items => operand.values?.map fun values => items.all fun v => !Value.isAmong values v
  | subject => .ok !subject.equals operand.value

/-- The value, or one of its items, is a text that stands in a relation to the text of the operand.
    The negated test asks that none does. What is no text stands in no relation. -/
def relates? (operand : Operand) (relation : List Char → List Char → Bool) (negated : Bool)
    (subject : Value) : Verdict :=
  match operand.value, subject with
  | .text target, .list items =>
    let hit := Verdict.any (items.map fun v => v.text?.map fun s => relation target.toList s.toList)
    if negated then hit.not else hit
  | .text target, .text s =>
    let hit := relation target.toList s.toList
    .ok (if negated then !hit else hit)
  | _, _ => .ok negated

/-- The value stands in an order to the operand that passes a test; a no when it stands in none. -/
def orders? (operand : Operand) (test : Ordering → Bool) (subject : Value) : Verdict :=
  (subject.compare? operand.value).map (·.any test)

/-- The value lies between the bounds of the operand. -/
def surrounds? (operand : Operand) (subject : Value) : Verdict :=
  match operand with
  | .range start finish => subject.isBetween? start finish
  | _ => .ok false

/-- One value of the operand is among those given. -/
def meets? (operand : Operand) (values : Except Fault (List Value)) : Verdict :=
  values.map fun values => operand.setValues.any (Value.isAmong values)

/-- No value of the operand is among those given. -/
def misses? (operand : Operand) (values : Except Fault (List Value)) : Verdict :=
  values.map fun values => operand.setValues.all fun v => !Value.isAmong values v

/-- All values of the operand are among those given. -/
def within? (operand : Operand) (values : Except Fault (List Value)) : Verdict :=
  values.map fun values => operand.setValues.all (Value.isAmong values)

theorem differs?_eq (operand : Operand) (subject : Value) :
    operand.differs? subject = (operand.matches? subject).not := by
  cases subject with
  | list items =>
    simp only [differs?, matches?]
    cases operand.values? with
    | error f => rfl
    | ok values => simp [Except.map, Verdict.not, List.not_any_eq_all_not]
  | _ => rfl

theorem relates?_negated (operand : Operand) (relation : List Char → List Char → Bool)
    (subject : Value) :
    operand.relates? relation true subject = (operand.relates? relation false subject).not := by
  unfold relates?
  split <;> rfl

theorem misses?_eq (operand : Operand) (values : Except Fault (List Value)) :
    operand.misses? values = (operand.meets? values).not := by
  cases values with
  | error f => rfl
  | ok values => simp [misses?, meets?, Except.map, Verdict.not, List.not_any_eq_all_not]

end Operand

/-- The answer of an operator for a value and the set of values that the value stands for. -/
def Operator.test? (operator : Operator) (subject : Value) (operand : Operand)
    (set : Except Fault (List Value)) : Verdict :=
  match operator with
  | .equals => operand.matches? subject
  | .notEquals => operand.differs? subject
  | .contains => operand.relates? Text.isPartOf false subject
  | .doesNotContain => operand.relates? Text.isPartOf true subject
  | .startsWith => operand.relates? List.isPrefixOf false subject
  | .endsWith => operand.relates? List.isSuffixOf false subject
  | .greaterThan => operand.orders? Ordering.isGT subject
  | .greaterThanEqualTo => operand.orders? Ordering.isGE subject
  | .lessThan => operand.orders? Ordering.isLT subject
  | .lessThanEqualTo => operand.orders? Ordering.isLE subject
  | .inBetween => operand.surrounds? subject
  | .isEmpty => .ok subject.isEmpty
  | .isNotEmpty => .ok subject.isFilled
  | .includesAny => operand.meets? set
  | .excludesAll => operand.misses? set
  | .includesAll => operand.within? set

/-- The answer of a named operator; one that is not known never holds. -/
def OperatorName.test? (name : OperatorName) (subject : Value) (operand : Operand)
    (set : Except Fault (List Value)) : Verdict :=
  match name with
  | .known operator => operator.test? subject operand set
  | .unknown .. => .ok false

theorem OperatorName.test?_unknown (raw : String) (fresh : Operator.ofName? raw = none)
    (subject : Value) (operand : Operand) (set : Except Fault (List Value)) :
    test? (.unknown raw fresh) subject operand set = .ok false := rfl

end ShelfRules
