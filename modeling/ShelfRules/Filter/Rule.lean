import ShelfRules.Filter.Operand

/-!
# Rules

A rule tests one field of a book with an operator. It keeps its values as they were given, a list
excepted, which it keeps as a tuple, and with them the operand that the operator makes of them. Field
and operator may be blank or unknown while a rule is being edited.

Results:
* `Value.asTuple_asTuple`: keeping a value a second time changes nothing.
* `Rule.of?_eq_error`: a rule is refused only when its operand is.
* `Rule.ext_values`: a rule is its field, its operator and its values.
-/

namespace ShelfRules

/-- The value as a rule keeps it: a list is kept as a tuple. -/
def Value.asTuple : Value → Value
  | .list items => .tuple items
  | v => v

theorem Value.asTuple_asTuple (v : Value) : v.asTuple.asTuple = v.asTuple := by
  cases v <;> rfl

/-- A test of one field of a book. -/
structure Rule where
  field : FieldName
  operator : OperatorName
  /-- The value of an operator that takes one or several. -/
  value : Value
  /-- The lower bound of a range. -/
  start : Value
  /-- The upper bound of a range. -/
  finish : Value
  /-- What the field is compared with. -/
  operand : Operand
  value_kept : value.asTuple = value
  operand_eq : Operand.build? operator value start finish = .ok operand

namespace Rule

/-- The rule with a field, an operator and values. -/
def of? (field : FieldName) (operator : OperatorName) (value start finish : Value) :
    Except Fault Rule :=
  match h : Operand.build? operator value.asTuple start finish with
  | .ok operand =>
    .ok ⟨field, operator, value.asTuple, start, finish, operand, value.asTuple_asTuple, h⟩
  | .error f => .error f

/-- Field and operator are both named. -/
def isComplete (r : Rule) : Bool := !r.field.isBlank && !r.operator.isBlank

theorem of?_eq_error {field : FieldName} {operator : OperatorName} {value start finish : Value}
    {f : Fault} (h : of? field operator value start finish = .error f) :
    Operand.build? operator value.asTuple start finish = .error f := by
  unfold of? at h
  split at h
  · cases h
  · rename_i g hg
    rw [hg, Except.error.inj h]

theorem of?_eq_ok {field : FieldName} {operator : OperatorName} {value start finish : Value}
    {r : Rule} (h : of? field operator value start finish = .ok r) :
    r.field = field ∧ r.operator = operator ∧ r.value = value.asTuple ∧ r.start = start ∧
      r.finish = finish := by
  unfold of? at h
  split at h
  · cases h
    exact ⟨rfl, rfl, rfl, rfl, rfl⟩
  · cases h

theorem ext_values {r s : Rule} (hf : r.field = s.field) (ho : r.operator = s.operator)
    (hv : r.value = s.value) (hs : r.start = s.start) (he : r.finish = s.finish) : r = s := by
  obtain ⟨_, _, _, _, _, operand, _, hr⟩ := r
  obtain ⟨_, _, _, _, _, operand', _, hs'⟩ := s
  dsimp only at hf ho hv hs he
  subst hf ho hv hs he
  rw [hr] at hs'
  cases hs'
  rfl

theorem of?_self (r : Rule) : of? r.field r.operator r.value r.start r.finish = .ok r := by
  unfold of?
  split
  · rename_i operand h
    congr 1
    exact ext_values rfl rfl r.value_kept rfl rfl
  · rename_i f h
    rw [r.value_kept, r.operand_eq] at h
    cases h

end Rule

end ShelfRules
