import ShelfRules.Proofs.AnsweredFilters

/-!
# Rules that are being edited

A rule without a field or without an operator is incomplete, and should hold for no book. Without an
operator it does hold for none; it has no answer at all when the attribute of its field is not read.
Without a field its operator is asked about null, and answers as for a book in which the field is
missing: some operators take the missing value for a match.

Results:
* `Value.compare?_null`: null stands in no order to any number.
* `Operator.test?_null_iff`: which operators do not hold of null.
* `Rule.incomplete_denied_iff`: when an incomplete rule does not hold.
* `Rule.emptyUnnamed_holds`: a rule without a field that holds.
-/

namespace ShelfRules

/-! ## Null as the value of a field -/

/-- Null counts as a NaN: it stands in no order to what has a number, and is not compared with what
has none. -/
theorem Value.compare?_null (v : Value) : compare? .null v = v.number?.map fun _ => none := by
  have hnumbers : compare? .null v = compareNumbers? .null v := by
    cases v <;> rfl
  have hnan : Double.nan.compare = fun _ => none := by
    funext d
    rfl
  have hnumber : number? .null = .ok .nan := rfl
  rw [hnumbers, compareNumbers?, hnumber, ok_bind, hnan]

/-- The single value of an operand is in normal shape. -/
theorem Operand.value_isNormal_of_build? {name : OperatorName} {value start finish : Value}
    {operand : Operand} (h : build? name value start finish = .ok operand) :
    operand.value.IsNormal := by
  have hscalar : value.normalize?.map (scalar value) = .ok operand → operand.value.IsNormal := by
    intro h
    obtain ⟨w, hw, rfl⟩ := Json.except_map_eq_ok h
    exact Value.normalize?_isNormal hw
  have hset : value.lowerList?.map ofTexts = .ok operand → operand.value.IsNormal := by
    intro h
    obtain ⟨ss, -, rfl⟩ := Json.except_map_eq_ok h
    exact .plain rfl
  cases name with
  | unknown raw fresh => exact hscalar h
  | known operator =>
    cases operator with
    | includesAny | excludesAll | includesAll => exact hset h
    | inBetween =>
      obtain ⟨a, b, -, -, rfl⟩ := build?_range h
      exact .plain rfl
    | _ => exact hscalar h

namespace Operator

/-- The operator does not hold of null. Equality asks for an operand that is not null, and its negation
for null; the other negations hold, and so does emptiness. All values of a set are among none when there
are no values, and a comparison is not made with an integer past the largest double. -/
def deniesNull (operator : Operator) (operand : Operand) : Bool :=
  match operator with
  | .contains | .startsWith | .endsWith | .inBetween | .isNotEmpty | .includesAny => true
  | .doesNotContain | .isEmpty | .excludesAll => false
  | .equals => !operand.value.isNull
  | .notEquals => operand.value.isNull
  | .greaterThan | .greaterThanEqualTo | .lessThan | .lessThanEqualTo => !operand.value.isHuge
  | .includesAll => !operand.setValues.isEmpty

variable {operand : Operand}

theorem orders?_null_iff (h : operand.value.IsNormal) (test : Ordering → Bool) :
    operand.orders? test .null = .ok false ↔ operand.value.isHuge = false := by
  rw [Operand.orders?, Value.compare?_null, ← Bool.not_eq_true, ← h.number?_fails]
  cases operand.value.number? with
  | error f => simp [Except.map]
  | ok d => simp [Except.map]

/-- An operator that is asked about null, with no texts for a set, answers no exactly when it does not
hold of null. -/
theorem test?_null_iff (operator : Operator) (h : operand.value.IsNormal) :
    operator.test? .null operand (.ok []) = .ok false ↔ operator.deniesNull operand = true := by
  have hequals : ∀ v, Value.null.equals v = v.isNull := by
    intro v
    cases v <;> rfl
  have hnone : ∀ v, Value.isAmong [] v = false := fun _ => rfl
  cases operator with
  | equals => simp [test?, deniesNull, Operand.matches?, hequals]
  | notEquals => simp [test?, deniesNull, Operand.differs?, hequals]
  | contains | doesNotContain | startsWith | endsWith =>
    simp [test?, deniesNull, Operand.relates?]
  | greaterThan | greaterThanEqualTo | lessThan | lessThanEqualTo =>
    rw [test?, orders?_null_iff h, deniesNull, Bool.not_eq_true']
  | inBetween => cases operand <;> simp [test?, deniesNull, Operand.surrounds?, Value.isBetween?]
  | isEmpty | isNotEmpty => simp [test?, deniesNull, Value.isEmpty, Value.isFilled]
  | includesAny => simp [test?, deniesNull, Operand.meets?, Except.map, hnone]
  | excludesAll => simp [test?, deniesNull, Operand.misses?, Except.map, hnone]
  | includesAll =>
    rw [test?, deniesNull, Operand.within?]
    cases operand.setValues with
    | nil => simp [Except.map]
    | cons v rest => simp [Except.map, hnone]

end Operator

/-! ## Blank names -/

theorem FieldName.eq_of_isBlank {name : FieldName} (h : name.isBlank = true) :
    ∃ fresh, name = .unknown "" fresh := by
  cases name with
  | known field => cases field <;> exact nomatch h
  | unknown raw fresh =>
    obtain rfl : raw = "" := eq_of_beq h
    exact ⟨fresh, rfl⟩

theorem OperatorName.eq_of_isBlank {name : OperatorName} (h : name.isBlank = true) :
    ∃ fresh, name = .unknown "" fresh := by
  cases name with
  | known operator => cases operator <;> exact nomatch h
  | unknown raw fresh =>
    obtain rfl : raw = "" := eq_of_beq h
    exact ⟨fresh, rfl⟩

theorem Field.ofName?_blank : Field.ofName? "" = none := by decide

theorem Value.asTuple_null : null.asTuple = null := rfl

/-! ## Incomplete rules -/

namespace Rule

/-- The operator of the rule is none that is known, or does not hold of null. -/
def deniesNull (r : Rule) : Bool :=
  match r.operator with
  | .known operator => operator.deniesNull r.operand
  | .unknown .. => true

variable {r : Rule} {record : Record}

/-- A rule without an operator answers no when its field is read, and has no answer otherwise. -/
theorem denied_iff_of_blank_operator (h : r.operator.isBlank = true) :
    r.verdict record = .ok false ↔ ¬record.Refuses r.field := by
  obtain ⟨fresh, hoperator⟩ := OperatorName.eq_of_isBlank h
  rw [← record.subject?_fails, verdict, hoperator]
  cases (record.subject? r.field).bind Value.normalize? with
  | error f => simp [Except.bind]
  | ok subject => simp [Except.bind, OperatorName.test?]

/-- A rule without a field asks its operator about null. -/
theorem denied_iff_of_blank_field (h : r.field.isBlank = true) :
    r.verdict record = .ok false ↔ r.deniesNull = true := by
  obtain ⟨fresh, hfield⟩ := FieldName.eq_of_isBlank h
  have hverdict : r.verdict record = r.operator.test? .null r.operand (.ok []) := by
    rw [verdict, hfield]
    rfl
  have hnormal : r.operand.value.IsNormal := Operand.value_isNormal_of_build? r.operand_eq
  rw [hverdict, deniesNull]
  cases r.operator with
  | known operator => exact operator.test?_null_iff hnormal
  | unknown raw fresh => exact iff_of_true rfl rfl

/-- An incomplete rule does not hold of a record exactly when its field is read from the record, and
its operator does not hold of null in case no field is named. -/
theorem incomplete_denied_iff (h : r.isComplete = false) (record : Record) :
    r.verdict record = .ok false ↔
      ¬record.Refuses r.field ∧ (r.field.isBlank = true → r.deniesNull = true) := by
  by_cases hfield : r.field.isBlank = true
  · have hread : ¬record.Refuses r.field := by
      obtain ⟨fresh, hname⟩ := FieldName.eq_of_isBlank hfield
      rw [← record.subject?_fails, hname]
      exact fails_ok Value.null
    rw [denied_iff_of_blank_field hfield]
    exact ⟨fun hdenies => ⟨hread, fun _ => hdenies⟩, fun ⟨_, hdenies⟩ => hdenies hfield⟩
  · have hoperator : r.operator.isBlank = true := by
      simpa [isComplete, hfield] using h
    rw [denied_iff_of_blank_operator hoperator]
    exact ⟨fun hread => ⟨hread, fun hblank => absurd hblank hfield⟩, And.left⟩

/-- A rule without a field that looks for a part of a text. -/
def containsUnnamed : Rule := ⟨.unknown "" Field.ofName?_blank, .known .contains, .text "Abbey",
  .null, .null, .scalar (.text "Abbey") (.text "abbey"), rfl, rfl⟩

/-- A rule without an operator for authors. -/
def unaskedAuthors : Rule := ⟨.known .authors, .blank, .text "Ann", .null, .null,
  .scalar (.text "Ann") (.text "ann"), rfl, rfl⟩

/-- A rule without a field that asks for emptiness. -/
def emptyUnnamed : Rule := ⟨.unknown "" Field.ofName?_blank, .known .isEmpty, .null, .null, .null,
  .scalar .null .null, Value.asTuple_null, rfl⟩

/-- The book of a payload with a value for its authors. -/
def authoredBook (authors : Value) : Record := .book (.ofEntries (Group.authoredPayload authors))

/-- No part of a text is found where no field is named; and without an operator a book is denied when
its authors are listed, and only then. -/
theorem incomplete_denied_contains :
    containsUnnamed.isComplete = false ∧ unaskedAuthors.isComplete = false ∧
    containsUnnamed.verdict (authoredBook (.bool true)) = .ok false ∧
    unaskedAuthors.verdict (authoredBook (.list [.text "Ann"])) = .ok false ∧
    unaskedAuthors.verdict (authoredBook (.bool true)) ≠ .ok false := by
  have hunnamed : containsUnnamed.isComplete = false := by decide
  have hunasked : unaskedAuthors.isComplete = false := by decide
  have hread : ¬(authoredBook (.bool true)).Refuses containsUnnamed.field := by
    rintro ⟨v, hv, hlong⟩
    cases hv
    cases hlong
  have hlisted : ¬(authoredBook (.list [.text "Ann"])).Refuses unaskedAuthors.field := nofun
  have hboolean : (authoredBook (.bool true)).Refuses unaskedAuthors.field :=
    show FieldReading.items.refuses (.bool true) = true from rfl
  refine ⟨hunnamed, hunasked, ?_, ?_, ?_⟩
  · exact (incomplete_denied_iff hunnamed _).2 ⟨hread, fun _ => rfl⟩
  · exact (incomplete_denied_iff hunasked _).2 ⟨hlisted, nofun⟩
  · intro h
    exact ((incomplete_denied_iff hunasked _).1 h).1 hboolean

/-- A rule without a field that asks for emptiness holds of a book. -/
theorem emptyUnnamed_holds : emptyUnnamed.isComplete = false ∧
    emptyUnnamed.verdict (authoredBook (.list [])) = .ok true := by
  decide +kernel

end Rule

end ShelfRules
