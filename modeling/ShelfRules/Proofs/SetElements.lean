import ShelfRules.Proofs.AgreeingViews
import ShelfRules.Proofs.RegroupedFilters

/-!
# Sets asked element by element

An operator on sets asks of each text of its operand whether the field has it. `includes_any` wants one
of them to be there, `includes_all` all of them, and `excludes_all` none. So a rule for a list of values
has the outcome of the group of the rules for one of them each, faults included; only the group of no
rules does not look at the field, and has an answer where the rule has a fault. What counts in the list
is which texts its values have in lower case.

Results:
* `Rule.asked_set`: what a rule on sets asks of the texts of its values.
* `Rule.elements_cases`: the rules for one value each, and what they answer.
* `Rule.asked_congr`: lists whose values have the same texts in lower case have one outcome.
* `Rule.set_asked_by_elements`: the rule and the group have one outcome.
-/

namespace ShelfRules

open Relation (EqvGen)

/-! ## Texts of elements -/

/-- The texts in lower case that the values of a list have, or the faults that stand in the way. A null
has none. -/
def elementTexts (items : List Value) : List (Except Fault String) :=
  (items.filter (!·.isNull)).map fun v => v.webText?.map Text.lowered

theorem mem_elementTexts {items : List Value} {e : Except Fault String} : e ∈ elementTexts items ↔
    ∃ v ∈ items, v.isNull = false ∧ v.webText?.map Text.lowered = e := by
  simp [elementTexts, and_assoc]

theorem elementTexts_cons {v : Value} (hv : v ≠ .null) (rest : List Value) :
    elementTexts (v :: rest) = v.webText?.map Text.lowered :: elementTexts rest := by
  have hnull : (!v.isNull) = true := by
    cases v with
    | null => exact absurd rfl hv
    | _ => rfl
  rw [elementTexts, List.filter_cons_of_pos (p := fun v : Value => !v.isNull) hnull]
  rfl

theorem elementTexts_append (items others : List Value) :
    elementTexts (items ++ others) = elementTexts items ++ elementTexts others := by
  rw [elementTexts, List.filter_append, List.map_append]
  rfl

/-- A list of values has texts when each of its values has one. -/
theorem lowerItems?_eq_ok_iff {items : List Value} {ss : List String} :
    lowerItems? items = .ok ss ↔ elementTexts items = ss.map .ok := by
  induction items generalizing ss with
  | nil =>
    rw [lowerItems?, Except.ok.injEq]
    cases ss <;> simp [elementTexts]
  | cons v rest ih =>
    by_cases hnull : v = .null
    · subst hnull
      exact ih
    · rw [Value.lowerItems?_cons hnull, elementTexts_cons hnull]
      cases v.webText? with
      | error f =>
        cases ss <;> simp [Except.bind, Except.map]
      | ok s =>
        rw [ok_bind]
        cases ss with
        | nil => cases lowerItems? rest <;> simp [Except.map]
        | cons t ts =>
          rw [List.map_cons, List.cons.injEq, ← ih]
          cases lowerItems? rest <;> simp [Except.map]

theorem exists_lowerItems? {items : List Value} (h : ∀ e ∈ elementTexts items, ¬Fails e) :
    ∃ ss, lowerItems? items = .ok ss := by
  simp only [lowerItems?_eq_ok_iff]
  generalize elementTexts items = es at h
  induction es with
  | nil => exact ⟨[], rfl⟩
  | cons e es ih =>
    obtain ⟨he, hes⟩ := List.forall_mem_cons.1 h
    obtain ⟨s, rfl⟩ := not_fails_iff.1 he
    obtain ⟨ss, rfl⟩ := ih hes
    exact ⟨s :: ss, rfl⟩

/-! ## Operators on sets -/

/-- The set of texts of a field, which is read behind the value of the field. -/
def Record.set? (record : Record) (field : FieldName) : Except Fault (List String) :=
  ((record.subject? field).bind Value.normalize?).bind fun _ => record.texts? field

theorem Record.set?_fails (record : Record) (field : FieldName) :
    Fails (record.set? field) ↔ record.Refuses field ∨ record.RefusesSet field := by
  rw [set?, fails_bind, record.subject?_fails, record.texts?_fails]
  refine or_congr_right' fun hrefuses => ?_
  obtain ⟨subject, hsubject⟩ := not_fails_iff.1 (mt (record.subject?_fails field).1 hrefuses)
  simp [hsubject]

namespace Operator

/-- How many of its elements an operator on sets wants to be as it asks. -/
def setJoin : Operator → Join
  | .includesAny => .any
  | _ => .all

/-- Whether the operator is content with an element, by whether the field has it. -/
def suits (operator : Operator) (found : Bool) : Bool :=
  match operator with
  | .excludesAll => !found
  | _ => found

/-- The answer of an operator on sets for the texts of its operand and those of a field. -/
def answer (operator : Operator) (wanted found : List String) : Bool :=
  operator.setJoin.holds (wanted.map fun s => operator.suits (found.contains s))

theorem test?_ofTexts {operator : Operator} (h : operator.takesSet = true) (subject : Value)
    (wanted : List String) (set : Except Fault (List String)) :
    operator.test? subject (.ofTexts wanted) (set.map (·.map .text)) =
      set.map (operator.answer wanted) := by
  cases set with
  | error f =>
    cases operator with
    | includesAny | excludesAll | includesAll => rfl
    | _ => cases h
  | ok found =>
    cases operator with
    | includesAny | excludesAll | includesAll =>
      simp [test?, Operand.meets?, Operand.misses?, Operand.within?, Operand.ofTexts,
        Operand.setValues, Except.map, Function.comp_def, Value.isAmong_texts, answer, setJoin,
        suits, Join.holds]
    | _ => cases h

/-- The answer depends on which texts are wanted, not on their order and number. -/
theorem answer_congr (operator : Operator) {wanted others : List String}
    (h : ∀ s, s ∈ wanted ↔ s ∈ others) (found : List String) :
    operator.answer wanted found = operator.answer others found := by
  refine operator.setJoin.holds_congr fun b => ?_
  simp only [List.mem_map, h]

/-- The answer for several lists of texts together is made from the answers for each. -/
theorem answer_flatten (operator : Operator) (lists : List (List String)) (found : List String) :
    operator.answer lists.flatten found =
      operator.setJoin.holds (lists.map fun wanted => operator.answer wanted found) := by
  unfold answer
  cases operator.setJoin <;>
    simp [Join.holds, List.map_flatten, Function.comp_def]

end Operator

theorem Join.combine_error (join : Join) (f : Fault) (vs : List Verdict) :
    join.combine (.error f :: vs) = .error f := by
  cases join <;> rfl

/-! ## Rules on sets -/

namespace Rule

/-- The outcome of a rule on any field: the rule is made, and then asked about the record. -/
def asked (field : FieldName) (operator : Operator) (value start finish : Value) (record : Record) :
    Verdict :=
  (of? field (.known operator) value start finish).bind (·.verdict record)

/-- The rules with one operator for the values of a list, each of which stands in a list of its own. -/
def elements? (field : FieldName) (operator : Operator) (start finish : Value) (items : List Value) :
    Except Fault (List Rule) :=
  items.mapM fun v => of? field (.known operator) (.list [v]) start finish

/-- The outcome of the group of these rules that holds as the operator does: of one of them, or of
all. -/
def askedByElements (field : FieldName) (operator : Operator) (start finish : Value)
    (items : List Value) (name : Value) (record : Record) : Verdict :=
  (elements? field operator start finish items).bind fun rules =>
    Group.verdict ⟨name, operator.setJoin, rules.map .rule⟩ record

variable {field : FieldName} {operator : Operator} {start finish : Value} {items others : List Value}
  {record : Record}

/-- A rule on sets asks for the texts of its values among those of the field. -/
theorem verdict_set (h : operator.takesSet = true) {r : Rule}
    (hr : of? field (.known operator) (.list items) start finish = .ok r) (record : Record) :
    ∃ ss, lowerItems? items = .ok ss ∧
      r.verdict record = (record.set? field).map (operator.answer ss) := by
  obtain ⟨hfield, hoperator, hvalue, -, -⟩ := of?_eq_ok hr
  have hoperand := r.operand_eq
  rw [hoperator, hvalue, Operand.build?_takesSet h] at hoperand
  obtain ⟨ss, hss, heq⟩ := Json.except_map_eq_ok hoperand
  refine ⟨ss, hss, ?_⟩
  rw [verdict, hfield, hoperator, ← heq, Record.set?]
  cases (record.subject? field).bind Value.normalize? with
  | error f => rfl
  | ok subject => exact Operator.test?_ofTexts h subject ss (record.texts? field)

theorem of?_set_eq_error (h : operator.takesSet = true) {f : Fault}
    (hr : of? field (.known operator) (.list items) start finish = .error f) :
    lowerItems? items = .error f := by
  have hbuild := of?_eq_error hr
  rw [Operand.build?_takesSet h] at hbuild
  exact Json.except_map_eq_error hbuild

theorem asked_set (h : operator.takesSet = true) :
    asked field operator (.list items) start finish record =
      (lowerItems? items).bind fun ss => (record.set? field).map (operator.answer ss) := by
  rw [asked]
  cases hr : of? field (.known operator) (.list items) start finish with
  | error f => rw [of?_set_eq_error h hr]; rfl
  | ok r =>
    obtain ⟨ss, hss, hverdict⟩ := verdict_set h hr record
    rw [hss, ok_bind, ok_bind, hverdict]

/-- The rules for one value each are refused for the fault of the list. Otherwise the texts of the list
are those of its values, and each rule asks for the texts of its value. -/
theorem elements_cases (h : operator.takesSet = true) (field : FieldName) (start finish : Value)
    (record : Record) (items : List Value) :
    (∃ f, elements? field operator start finish items = .error f ∧ lowerItems? items = .error f) ∨
    ∃ (rules : List Rule) (lists : List (List String)),
      elements? field operator start finish items = .ok rules ∧
      lowerItems? items = .ok lists.flatten ∧ lists.length = items.length ∧
      rules.map (·.verdict record) =
        lists.map fun ss => (record.set? field).map (operator.answer ss) := by
  induction items with
  | nil => exact .inr ⟨[], [], rfl, rfl, rfl, rfl⟩
  | cons v rest ih =>
    have hcons : lowerItems? (v :: rest) =
        (lowerItems? [v]).bind fun ss => (lowerItems? rest).map (ss ++ ·) := by
      by_cases hnull : v = .null
      · subst hnull
        rw [lowerItems?_cons_null, lowerItems?_cons_null]
        cases lowerItems? rest <;> rfl
      · rw [Value.lowerItems?_cons hnull, Value.lowerItems?_cons hnull]
        cases v.webText? with
        | error f => rfl
        | ok s => cases lowerItems? rest <;> rfl
    rw [elements?, List.mapM_cons, hcons]
    cases hr : of? field (.known operator) (.list [v]) start finish with
    | error f => exact .inl ⟨f, rfl, by rw [of?_set_eq_error h hr]; rfl⟩
    | ok r =>
      obtain ⟨ss, hss, hverdict⟩ := verdict_set h hr record
      rw [hss, ok_bind]
      rcases ih with ⟨f, helements, hrest⟩ | ⟨rules, lists, helements, hrest, hlength, hanswers⟩
      · refine .inl ⟨f, ?_, by rw [hrest]; rfl⟩
        show (elements? field operator start finish rest).bind _ = _
        rw [helements]
        rfl
      · refine .inr ⟨r :: rules, ss :: lists, ?_, by rw [hrest]; rfl, ?_, ?_⟩
        · show (elements? field operator start finish rest).bind _ = _
          rw [helements]
          rfl
        · rw [List.length_cons, List.length_cons, hlength]
        · rw [List.map_cons, List.map_cons, hverdict, hanswers]

theorem askedByElements_nil (name : Value) :
    askedByElements field operator start finish [] name record = .ok (operator.setJoin.holds []) :=
  operator.setJoin.combine_ok []

/-- The group has the outcome of the rule, unless it has no rules and the field is not read. -/
theorem askedByElements_eq (h : operator.takesSet = true) (name : Value)
    (hread : items = [] → ¬Fails (record.set? field)) :
    askedByElements field operator start finish items name record =
      asked field operator (.list items) start finish record := by
  rw [asked_set h, askedByElements]
  rcases elements_cases h field start finish record items with
    ⟨f, helements, htexts⟩ | ⟨rules, lists, helements, htexts, hlength, hanswers⟩
  · rw [helements, htexts]
    rfl
  · have hverdict : Group.verdict ⟨name, operator.setJoin, rules.map .rule⟩ record =
        operator.setJoin.combine
          (lists.map fun ss => (record.set? field).map (operator.answer ss)) := by
      rw [← hanswers, Group.verdict, Group.toNode, Node.verdict, Node.verdicts_eq_map, List.map_map]
      rfl
    rw [helements, htexts, ok_bind, ok_bind, hverdict]
    cases hset : record.set? field with
    | error f =>
      -- The group has a rule, and the first one has the fault of the field.
      cases lists with
      | nil =>
        have hnone : items = [] := List.eq_nil_of_length_eq_zero hlength.symm
        exact absurd ⟨f, hset⟩ (hread hnone)
      | cons ss lists => exact operator.setJoin.combine_error f _
    | ok found =>
      have hoks : (lists.map fun ss => (Except.ok found : Except Fault _).map (operator.answer ss)) =
          (lists.map (operator.answer · found)).map .ok := by
        rw [List.map_map]
        rfl
      rw [hoks, Join.combine_ok, ← operator.answer_flatten]
      rfl

/-- Lists whose values have the same texts in lower case have one outcome. -/
theorem asked_congr (h : operator.takesSet = true)
    (hsame : ∀ e, e ∈ elementTexts items ↔ e ∈ elementTexts others) :
    asked field operator (.list items) start finish record =
      asked field operator (.list others) start finish record := by
  have hfails : ∀ {vs ws : List Value} {f : Fault},
      (∀ e, e ∈ elementTexts vs ↔ e ∈ elementTexts ws) → lowerItems? vs = .error f →
        lowerItems? ws = .error f := by
    intro vs ws f hsame hvs
    cases hws : lowerItems? ws with
    | error g => rw [lowerItems?_eq_error hvs, lowerItems?_eq_error hws]
    | ok ss =>
      have hoks : ∀ e ∈ elementTexts vs, ¬Fails e := by
        intro e he
        rw [hsame, lowerItems?_eq_ok_iff.1 hws] at he
        obtain ⟨s, -, rfl⟩ := List.mem_map.1 he
        exact fails_ok s
      obtain ⟨ts, hts⟩ := exists_lowerItems? hoks
      rw [hts] at hvs
      cases hvs
  rw [asked_set h, asked_set h]
  cases hitems : lowerItems? items with
  | error f => rw [hfails hsame hitems]
  | ok ss =>
    cases hothers : lowerItems? others with
    | error f =>
      rw [hfails (fun e => (hsame e).symm) hothers] at hitems
      cases hitems
    | ok ts =>
      rw [lowerItems?_eq_ok_iff] at hitems hothers
      have hmem : ∀ s, s ∈ ss ↔ s ∈ ts := by
        intro s
        simpa [hitems, hothers] using hsame (.ok s)
      have hanswer : operator.answer ss = operator.answer ts := funext (operator.answer_congr hmem)
      rw [ok_bind, ok_bind, hanswer]

end Rule

/-! ## Lists with the same elements -/

namespace Value

/-- In the second list the values stand in another order, one of them is repeated, a null is added, or
a value is replaced by one with the same text in lower case. -/
inductive Rearranges : List Value → List Value → Prop
  | permuted {items others : List Value} : items.Perm others → Rearranges items others
  | repeated {before after : List Value} {v : Value} : v ∈ before ++ after →
      Rearranges (before ++ after) (before ++ v :: after)
  | padded {before after : List Value} : Rearranges (before ++ after) (before ++ .null :: after)
  | recased {before after : List Value} {v w : Value} : v ≠ .null → w ≠ .null →
      v.webText?.map Text.lowered = w.webText?.map Text.lowered →
      Rearranges (before ++ v :: after) (before ++ w :: after)

/-- A text may be written in another case. -/
theorem Rearranges.recased_text {before after : List Value} {s t : String}
    (h : Text.lowered s = Text.lowered t) :
    Rearranges (before ++ .text s :: after) (before ++ .text t :: after) := by
  refine .recased (by simp) (by simp) ?_
  rw [webText?_text, webText?_text]
  exact congrArg Except.ok h

theorem mem_elementTexts_of_rearranges {items others : List Value} (h : Rearranges items others)
    (e : Except Fault String) : e ∈ elementTexts items ↔ e ∈ elementTexts others := by
  cases h with
  | permuted hperm => exact ((hperm.filter _).map _).mem_iff
  | repeated hmem =>
    simp only [mem_elementTexts]
    constructor
    · rintro ⟨w, hw, htext⟩
      exact ⟨w, List.mem_append.2 ((List.mem_append.1 hw).imp_right (List.mem_cons_of_mem _)), htext⟩
    · rintro ⟨w, hw, htext⟩
      rcases List.mem_append.1 hw with hw | hw
      · exact ⟨w, List.mem_append_left _ hw, htext⟩
      · rcases List.mem_cons.1 hw with rfl | hw
        · exact ⟨w, hmem, htext⟩
        · exact ⟨w, List.mem_append_right _ hw, htext⟩
  | padded => simp only [elementTexts_append]; rfl
  | recased hv hw htext =>
    rw [elementTexts_append, elementTexts_append, elementTexts_cons hv, elementTexts_cons hw, htext]

theorem mem_elementTexts_of_eqvGen {items others : List Value} (h : EqvGen Rearranges items others)
    (e : Except Fault String) : e ∈ elementTexts items ↔ e ∈ elementTexts others := by
  induction h with
  | rel _ _ hstep => exact mem_elementTexts_of_rearranges hstep e
  | refl => exact Iff.rfl
  | symm _ _ _ ih => exact ih.symm
  | trans _ _ _ _ _ ih ih' => exact ih.trans ih'

end Value

namespace Rule

/-- A rule on sets has the outcome of the group of its rules for one value each: for `includes_any` of
the group that asks one of them to hold, for `includes_all` and `excludes_all` of the one that asks all.
A list without values is the exception when the value of the field or its set of texts is not read:
then the rule has a fault, and the group an answer. Moving and repeating the values of the list, adding
nulls and changing the case of texts keeps the outcome, faults included. -/
theorem set_asked_by_elements {operator : Operator} (h : operator.takesSet = true) (field : FieldName)
    (items : List Value) (start finish name : Value) (record : Record) :
    (askedByElements field operator start finish items name record =
        asked field operator (.list items) start finish record ↔
      (items = [] → ¬record.Refuses field ∧ ¬record.RefusesSet field)) ∧
    ∀ others, EqvGen Value.Rearranges items others →
      asked field operator (.list others) start finish record =
        asked field operator (.list items) start finish record := by
  rw [← not_or, ← record.set?_fails]
  refine ⟨⟨fun hsame hnone => ?_, askedByElements_eq h name⟩, fun others hothers => ?_⟩
  · subst hnone
    rintro ⟨f, hset⟩
    rw [askedByElements_nil, asked_set h, hset] at hsame
    cases hsame
  · exact asked_congr h fun e => (Value.mem_elementTexts_of_eqvGen hothers e).symm

/-- A book is found by one of two names in any case, wherever it stands in the list and whatever else
stands there. -/
theorem eitherAuthor_asked :
    Operator.includesAny.takesSet = true ∧
    askedByElements (.known .authors) .includesAny .null .null [.text "Bob", .text "ANN"] .null
      (Group.titledBook "Emma" (.list [.text "Ann"])) = .ok true ∧
    asked (.known .authors) .includesAny (.list [.text "ann", .null, .text "Bob"]) .null .null
      (Group.titledBook "Emma" (.list [.text "Ann"])) = .ok true := by
  have hcase : Text.lowered "ANN" = Text.lowered "ann" := by decide +kernel
  have hothers : EqvGen Value.Rearranges [.text "Bob", .text "ANN"]
      [.text "ann", .null, .text "Bob"] :=
    .trans _ _ _ (.rel _ _ (@Value.Rearranges.recased_text [.text "Bob"] [] _ _ hcase))
      (.trans _ _ _ (.rel _ _ (.permuted (.swap _ _ [])))
        (.rel _ _ (@Value.Rearranges.padded [.text "ann"] [.text "Bob"])))
  have hasked : asked (.known .authors) .includesAny (.list [.text "Bob", .text "ANN"]) .null .null
      (Group.titledBook "Emma" (.list [.text "Ann"])) = .ok true := by decide +kernel
  obtain ⟨helements, hrearranged⟩ := @set_asked_by_elements .includesAny rfl (.known .authors)
    [.text "Bob", .text "ANN"] .null .null .null (Group.titledBook "Emma" (.list [.text "Ann"]))
  exact ⟨rfl, (helements.2 nofun).trans hasked, (hrearranged _ hothers).trans hasked⟩

end Rule

end ShelfRules
