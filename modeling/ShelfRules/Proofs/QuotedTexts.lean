import ShelfRules.Proofs.CountedDays
import ShelfRules.Proofs.DualFilters
import ShelfRules.Proofs.NormalizedAgain

/-!
# Rules that quote a text

Five fields hold one text, and a rule may compare such a field with a text. Both are brought to their
normal shape, the text of the book after it was put in lower case and that of the rule as it stands.
A text that is the same date in lower case, or none, equals each text of its lower-case form; any
other text equals none of them, itself included.

Results:
* `Value.normalize?_text`: the normal form of a text.
* `Rule.Quotes.verdict_eq`: what a rule that quotes a text asks of a book.
* `Rule.quoted_equals_iff`: when a text equals another one of its lower-case form.
* `Rule.quotedWeek_unequal`: the number of a week does not equal itself.
-/

namespace ShelfRules

/-! ## Normal texts -/

namespace Moment

/-- The text is the same date in lower case, or no date in either. -/
def KeptInLowerCase (t : String) : Prop := ofText? (Text.lowered t) = ofText? t

instance (t : String) : Decidable (KeptInLowerCase t) := inferInstanceAs (Decidable (_ = _))

end Moment

theorem Text.unmarked_of_no_mark {t : String} (h : ∀ c ∈ marks, c ∉ t.toList) : unmarked t = t := by
  have hkept : ∀ c ∈ t.toList, (if c ∈ marks then lowerChar c else [c]) = [c] := fun c hc =>
    if_neg fun hmark => h c hmark hc
  rw [unmarked, unmark, List.flatMap_congr hkept, List.flatMap_singleton', String.ofList_toList]

/-- A text without marks is the same date in lower case. -/
theorem Moment.keptInLowerCase_of_no_mark {t : String} (h : ∀ c ∈ Text.marks, c ∉ t.toList) :
    KeptInLowerCase t := by
  rw [KeptInLowerCase, ofText?_lowered, Text.unmarked_of_no_mark h]

namespace Value

/-- The normal form of a text: its moment if it is a date, else the text in lower case. -/
def normalText (s : String) : Value := ((Moment.ofText? s).map moment).getD (.text (Text.lowered s))

theorem normalize?_text (s : String) : (text s).normalize? = .ok (normalText s) := by
  unfold normalText
  cases h : Moment.ofText? s with
  | none => exact normalize?_of_not_date h
  | some m => exact normalize?_of_date h

theorem normalText_of_not_date {s : String} (h : Moment.ofText? s = none) :
    normalText s = .text (Text.lowered s) := by
  rw [normalText, h]
  rfl

theorem normalText_of_date {s : String} {m : Moment} (h : Moment.ofText? s = some m) :
    normalText s = moment m := by
  rw [normalText, h]
  rfl

theorem moment_equals_iff (a b : Moment) : (moment a).equals (moment b) = true ↔ a = b := by
  have hsame : (moment a).equals (moment b) = true ↔ a.micros = b.micros := by
    simp only [moment, equals, Timestamp.same, Timestamp.naive, Timestamp.utcMicros, BEq.rfl,
      Bool.true_and, beq_iff_eq, Option.map_none, Option.getD_none, Int.sub_zero, Int.ofNat_inj]
  exact hsame.trans ⟨Moment.micros_injective, congrArg Moment.micros⟩

/-- The lower-case form of a text equals the texts that are the same date in lower case. -/
theorem normalText_equals {s t : String} (h : Text.lowered t = Text.lowered s) :
    (normalText (Text.lowered s)).equals (normalText t) = decide (Moment.KeptInLowerCase t) := by
  rw [Bool.eq_iff_iff, decide_eq_true_eq, Moment.KeptInLowerCase, h, normalText, normalText,
    Text.lowered_lowered, h]
  -- Two texts that are no dates have one lower-case form by hypothesis, and a date equals no text.
  cases Moment.ofText? (Text.lowered s) with
  | none => cases Moment.ofText? t <;> simp [equals, moment]
  | some m =>
    cases Moment.ofText? t with
    | none => simp [equals, moment]
    | some n => simpa using moment_equals_iff m n

theorem matches?_normalText (operand : Operand) (s : String) :
    operand.matches? (normalText s) = .ok ((normalText s).equals operand.value) := by
  cases h : Moment.ofText? s with
  | none =>
    rw [normalText_of_not_date h]
    rfl
  | some m =>
    rw [normalText_of_date h]
    rfl

end Value

/-! ## Rules -/

/-- The fields that hold one text. -/
def Field.singleTexts : List Field := [.title, .subtitle, .publisher, .seriesName, .language]

theorem Field.mem_singleTexts_iff {field : Field} : field ∈ singleTexts ↔ field.reading = .text := by
  cases field <;> decide

/-- The operator compares with one value. -/
def Operator.takesOne (operator : Operator) : Bool := !operator.takesSet && operator != .inBetween

theorem Operand.build?_takesOne {operator : Operator} (h : operator.takesOne = true)
    (value start finish : Value) :
    build? (.known operator) value start finish = value.normalize?.map (scalar value) := by
  cases operator with
  | inBetween | includesAny | excludesAll | includesAll => cases h
  | _ => rfl

namespace Rule

/-- The rule compares a field with a text. -/
structure Quotes (r : Rule) (field : Field) (operator : Operator) (t : String) : Prop where
  field_eq : r.field = .known field
  operator_eq : r.operator = .known operator
  value_eq : r.value = .text t

/-- The rule that compares a field with a text. -/
def quoting (field : Field) (operator : Operator) (t : String) (h : operator.takesOne = true) : Rule where
  field := .known field
  operator := .known operator
  value := .text t
  start := .null
  finish := .null
  operand := .scalar (.text t) (.normalText t)
  value_kept := rfl
  operand_eq := by
    rw [Operand.build?_takesOne h, Value.normalize?_text]
    rfl

theorem quoting_quotes {field : Field} {operator : Operator} {t : String}
    (h : operator.takesOne = true) : (quoting field operator t h).Quotes field operator t :=
  ⟨rfl, rfl, rfl⟩

namespace Quotes

variable {r : Rule} {field : Field} {operator : Operator} {s t : String} {record : Record}

theorem operand_eq (h : r.Quotes field operator t) (hone : operator.takesOne = true) :
    r.operand = .scalar (.text t) (.normalText t) := by
  have hbuild := r.operand_eq
  rw [h.operator_eq, h.value_eq, Operand.build?_takesOne hone, Value.normalize?_text] at hbuild
  exact (Except.ok.inj hbuild).symm

/-- A rule that quotes a text compares its normal form with that of the book's text in lower case. -/
theorem verdict_eq (h : r.Quotes field operator t) (hone : operator.takesOne = true)
    (hfield : field ∈ Field.singleTexts) (hs : record.fieldValue field = .text s) :
    r.verdict record = operator.test? (.normalText (Text.lowered s))
      (.scalar (.text t) (.normalText t)) (.ok [.text (Text.lowered s)]) := by
  have hreading := Field.mem_singleTexts_iff.1 hfield
  have hsubject : record.subject? r.field = .ok (.text (Text.lowered s)) := by
    rw [h.field_eq, Record.subject?_known, hreading, hs]
    rfl
  have htexts : record.texts? r.field = .ok [Text.lowered s] := by
    rw [h.field_eq, Record.texts?, hreading, hs]
    exact congrArg (·.map fun s => [Text.lowered s]) (Value.webText?_text s)
  rw [verdict, hsubject, htexts, h.operator_eq, h.operand_eq hone, ok_bind, Value.normalize?_text,
    ok_bind]
  rfl

end Quotes

/-- A book whose text has the lower-case form of the text that a rule quotes is matched by `equals`, and
not by its negation, exactly when the quoted text is the same date in lower case. Every text without
a `W`, a `Z`, a dotted capital I and the Kelvin sign is. -/
theorem quoted_equals_iff {field : Field} (hfield : field ∈ Field.singleTexts) {record : Record}
    {s t : String} (hs : record.fieldValue field = .text s) (ht : Text.lowered t = Text.lowered s) :
    (∀ r : Rule, r.Quotes field .equals t →
      r.verdict record = .ok (decide (Moment.KeptInLowerCase t))) ∧
    (∀ r : Rule, r.Quotes field .notEquals t →
      r.verdict record = .ok !decide (Moment.KeptInLowerCase t)) ∧
    ((∀ c ∈ Text.marks, c ∉ t.toList) → Moment.KeptInLowerCase t) := by
  have hmatches : (Operand.scalar (.text t) (.normalText t)).matches? (.normalText (Text.lowered s)) =
      .ok (decide (Moment.KeptInLowerCase t)) := by
    rw [Value.matches?_normalText, Operand.value, Value.normalText_equals ht]
  refine ⟨fun r hr => ?_, fun r hr => ?_, Moment.keptInLowerCase_of_no_mark⟩
  · rw [hr.verdict_eq rfl hfield hs, Operator.test?, hmatches]
  · rw [hr.verdict_eq rfl hfield hs, Operator.test?, Operand.differs?_eq, hmatches]
    rfl

/-- A book matches the rule that quotes its title in another case. -/
theorem quotedDune_equal :
    (quoting .title .equals "Dune" rfl).verdict (Group.titledBook "DUNE" (.list [])) = .ok true ∧
    (quoting .title .notEquals "Dune" rfl).verdict (Group.titledBook "DUNE" (.list [])) = .ok false ∧
    (∀ c ∈ Text.marks, c ∉ "Dune".toList) ∧ Moment.KeptInLowerCase "Dune" := by
  have hlower : Text.lowered "Dune" = Text.lowered "DUNE" := by decide +kernel
  have hmarks : ∀ c ∈ Text.marks, c ∉ "Dune".toList := by simp [Text.marks]
  have htitle : Field.title ∈ Field.singleTexts := by decide
  have hbook : (Group.titledBook "DUNE" (.list [])).fieldValue .title = .text "DUNE" := rfl
  obtain ⟨hequals, hdiffers, hkept⟩ := quoted_equals_iff htitle hbook hlower
  have hdune := hkept hmarks
  refine ⟨?_, ?_, hmarks, hdune⟩
  · rw [hequals _ (quoting_quotes rfl), decide_eq_true hdune]
  · rw [hdiffers _ (quoting_quotes rfl), decide_eq_true hdune]
    rfl

/-- The number of a week is a date, and none in lower case: a book does not match the rule that
quotes its title. -/
theorem quotedWeek_unequal :
    (quoting .title .equals "2023-W40" rfl).verdict (Group.titledBook "2023-W40" (.list [])) =
      .ok false ∧
    (quoting .title .notEquals "2023-W40" rfl).verdict (Group.titledBook "2023-W40" (.list [])) =
      .ok true := by
  decide +kernel

end Rule

end ShelfRules
