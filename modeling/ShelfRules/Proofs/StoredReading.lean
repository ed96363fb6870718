import ShelfRules.Catalogue
import ShelfRules.Proofs.OperandReading

/-!
# Stored filters that are read

A stored filter is read, refused with the reason why it is no filter, or met with a fault that is no
reason of the kind. The last happens on numbers alone: an integer of too many digits in the text, or a
rule with an operand that is too large for its field. What stands in front is read first, so that a
refusal in front hides such a number.

Results:
* `Rule.ofEntries?_fails`: when a rule cannot be read.
* `Node.escapes_iff`: when the nodes of a document are neither read nor refused.
-/

namespace ShelfRules

/-! ## Refusals -/

/-- The computation ends with a fault that refuses no filter. -/
def Report.Escapes {α : Type} (r : Report α) : Prop :=
  ∃ f, r.result = .error f ∧ ∀ cause, f ≠ .filter cause

namespace Report

variable {α β : Type}

/-- The computation has a result or refuses a filter. -/
theorem not_escapes_iff {r : Report α} :
    ¬r.Escapes ↔ (∃ a, r.result = .ok a) ∨ ∃ cause, r.result = .error (.filter cause) := by
  unfold Escapes
  cases h : r.result with
  | ok a => simp
  | error f => cases f <;> simp

@[simp] theorem not_escapes_ok (a : α) : ¬(ok a).Escapes := fun ⟨_, h, _⟩ => nomatch h

@[simp] theorem not_escapes_refused (cause : FilterError) :
    ¬(fail (.filter cause) : Report α).Escapes := fun ⟨_, h, hf⟩ => hf cause (Except.error.inj h).symm

theorem bind_result (r : Report α) (g : α → Report β) :
    (r.bind g).result = r.result.bind fun a => (g a).result := result_bind r g

theorem escapes_bind {r : Report α} {g : α → Report β} :
    (r.bind g).Escapes ↔ r.Escapes ∨ ∃ a, r.result = .ok a ∧ (g a).Escapes := by
  unfold Escapes
  rw [bind_result]
  cases r.result <;> simp [Except.bind]

end Report

/-- The computation never refuses a filter. -/
def RefusesNone {α : Type} (e : Except Fault α) : Prop := ∀ cause, e ≠ .error (.filter cause)

section RefusesNone

variable {α β : Type}

theorem refusesNone_ok (a : α) : RefusesNone (.ok a) := fun _ h => nomatch h

theorem RefusesNone.bind {e : Except Fault α} {g : α → Except Fault β} (he : RefusesNone e)
    (hg : ∀ a, RefusesNone (g a)) : RefusesNone (e.bind g) := by
  intro cause
  cases e with
  | error f => exact fun h => he cause (congrArg _ (Except.error.inj h))
  | ok a => exact hg a cause

theorem RefusesNone.map {e : Except Fault α} {g : α → β} (he : RefusesNone e) :
    RefusesNone (e.map g) := by
  intro cause
  cases e with
  | error f => exact fun h => he cause (congrArg _ (Except.error.inj h))
  | ok a => exact fun h => nomatch h

theorem escapes_ofExcept {e : Except Fault α} (he : RefusesNone e) :
    (Report.ofExcept e).Escapes ↔ Fails e := by
  constructor
  · rintro ⟨f, h, -⟩
    exact ⟨f, h⟩
  · rintro ⟨f, h⟩
    exact ⟨f, h, fun cause hf => he cause (hf ▸ h)⟩

end RefusesNone

/-! ## Rules -/

namespace Value

theorem text?_refusesNone (v : Value) : RefusesNone v.text? := by
  unfold text?
  split
  · exact fun _ h => nomatch h
  · exact refusesNone_ok _

theorem text?_fails {v : Value} : Fails v.text? ↔ v.holdsLongInteger = true := by
  unfold text?
  split <;> simp [*]

theorem webText?_refusesNone (v : Value) : RefusesNone v.webText? := by
  intro cause h
  cases (webText?_eq_error h).1

theorem typedItem?_refusesNone (type : FieldType) (v : Value) : RefusesNone (typedItem? type v) := by
  have hnumber : RefusesNone v.number? := by
    intro cause h
    rcases number?_eq_error h with ⟨_, _, hf⟩ | ⟨_, _, _, hf⟩ <;> cases hf
  have hread : ∀ integral, RefusesNone (v.typedNumber? integral) := by
    intro integral
    cases v with
    | bool b => exact refusesNone_ok _
    | _ => exact hnumber.map
  cases type with
  | number => exact hread true
  | decimal => exact hread false
  | date => exact refusesNone_ok _

mutual
theorem typedAs?_refusesNone (type : FieldType) : ∀ v : Value, RefusesNone (typedAs? type v)
  | .null => refusesNone_ok _
  | .list items | .tuple items => (typedItems?_refusesNone type items).map
  | .bool _ | .int _ | .float _ | .text _ | .object _ | .date _ | .stamp _ | .status _ =>
    typedItem?_refusesNone type _
theorem typedItems?_refusesNone (type : FieldType) : ∀ items : List Value,
    RefusesNone (typedItems? type items)
  | [] => refusesNone_ok _
  | v :: rest =>
    (typedAs?_refusesNone type v).bind fun _ => (typedItems?_refusesNone type rest).map
end

theorem typed?_refusesNone (type : Option FieldType) (v : Value) : RefusesNone (typed? type v) := by
  cases type with
  | none => exact refusesNone_ok _
  | some type => exact typedAs?_refusesNone type v

theorem lowerItems?_refusesNone : ∀ items : List Value, RefusesNone (lowerItems? items)
  | [] => refusesNone_ok _
  | v :: rest => by
    have hrest := lowerItems?_refusesNone rest
    by_cases hnull : v = .null
    · subst hnull
      exact hrest
    · rw [lowerItems?_cons hnull]
      exact (webText?_refusesNone v).bind fun _ => hrest.map

theorem lowerList?_refusesNone (v : Value) : RefusesNone v.lowerList? := by
  have hsingle : RefusesNone (if v.truthy then v.webText?.map fun s => [Text.lowered s]
      else .ok []) := by
    split
    · exact (webText?_refusesNone v).map
    · exact refusesNone_ok _
  cases v with
  | list items | tuple items => exact lowerItems?_refusesNone items
  | _ => exact hsingle

theorem normalize?_refusesNone (v : Value) : RefusesNone v.normalize? := by
  cases v with
  | list items | tuple items => exact (lowerItems?_refusesNone items).map
  | stamp t => cases h : t.toUtc? <;> simp [normalize?, h, refusesNone_ok]
  | text s => cases h : Moment.ofText? s <;> simp [normalize?, h, refusesNone_ok]
  | _ => exact refusesNone_ok _

end Value

theorem Operand.build?_refusesNone (name : OperatorName) (value start finish : Value) :
    RefusesNone (build? name value start finish) := by
  have hsingle : RefusesNone (value.normalize?.map (scalar value)) :=
    value.normalize?_refusesNone.map
  cases name with
  | unknown raw fresh => exact hsingle
  | known operator =>
    cases operator with
    | inBetween =>
      rw [build?_inBetween]
      exact start.normalize?_refusesNone.bind fun _ => finish.normalize?_refusesNone.map
    | includesAny | excludesAll | includesAll => exact value.lowerList?_refusesNone.map
    | _ => exact hsingle

namespace Rule

/-- The entries of a rule hold a number that cannot be read: a field or an operator is named by an
integer that is too long, an operand of a field of numbers is or lists an integer past the largest
double, or an operand without a type holds an integer that is too long for its operator. -/
def Oversized (entries : Entries) : Prop :=
  (entries.get "field").holdsLongInteger = true ∨
  (entries.get "operator").holdsLongInteger = true ∨
  ∃ field operator, FieldName.ofValue? (entries.get "field") = .ok field ∧
    OperatorName.ofValue? (entries.get "operator") = .ok operator ∧
    match field.type with
    | some type => type.isNumeric = true ∧
        ∃ key ∈ ["value", "valueStart", "valueEnd"], (entries.get key).defiesNumber = true
    | none => Operand.isOversized operator (entries.get "value") (entries.get "valueStart")
        (entries.get "valueEnd") = true

theorem of?_refusesNone (field : FieldName) (operator : OperatorName) (value start finish : Value) :
    RefusesNone (of? field operator value start finish) := fun cause h =>
  Operand.build?_refusesNone operator value.asTuple start finish cause (of?_eq_error h)

end Rule

theorem FieldName.ofValue?_refusesNone (v : Value) : RefusesNone (ofValue? v) := by
  cases v with
  | null | text => exact refusesNone_ok _
  | _ =>
    simp only [ofValue?]
    exact (Value.text?_refusesNone _).map

theorem FieldName.ofValue?_fails {v : Value} : Fails (ofValue? v) ↔ v.holdsLongInteger = true := by
  cases v with
  | null | text => simp [ofValue?, Value.holdsLongInteger]
  | _ => simp only [ofValue?, fails_map, Value.text?_fails]

theorem OperatorName.ofValue?_refusesNone (v : Value) : RefusesNone (ofValue? v) := by
  cases v with
  | null | text => exact refusesNone_ok _
  | _ =>
    simp only [ofValue?]
    exact (Value.text?_refusesNone _).map

theorem OperatorName.ofValue?_fails {v : Value} : Fails (ofValue? v) ↔ v.holdsLongInteger = true := by
  cases v with
  | null | text => simp [ofValue?, Value.holdsLongInteger]
  | _ => simp only [ofValue?, fails_map, Value.text?_fails]

namespace Rule

theorem ofEntries?_eq (entries : Entries) : ofEntries? entries =
    (FieldName.ofValue? (entries.get "field")).bind fun field =>
    ((entries.get "value").typed? field.type).bind fun value =>
    ((entries.get "valueStart").typed? field.type).bind fun start =>
    ((entries.get "valueEnd").typed? field.type).bind fun finish =>
    (OperatorName.ofValue? (entries.get "operator")).bind fun operator =>
    of? field operator value start finish := rfl

/-- A rule that is read has the field and the operator that are named, and the values as they are read
by the type of the field. -/
theorem ofEntries?_eq_ok {entries : Entries} {r : Rule} (h : ofEntries? entries = .ok r) :
    FieldName.ofValue? (entries.get "field") = .ok r.field ∧
    OperatorName.ofValue? (entries.get "operator") = .ok r.operator ∧
    (∃ value, (entries.get "value").typed? r.field.type = .ok value ∧ r.value = value.asTuple) ∧
    (entries.get "valueStart").typed? r.field.type = .ok r.start ∧
    (entries.get "valueEnd").typed? r.field.type = .ok r.finish := by
  rw [ofEntries?_eq] at h
  obtain ⟨field, hfield, h⟩ := except_bind_eq_ok h
  obtain ⟨value, hvalue, h⟩ := except_bind_eq_ok h
  obtain ⟨start, hstart, h⟩ := except_bind_eq_ok h
  obtain ⟨finish, hfinish, h⟩ := except_bind_eq_ok h
  obtain ⟨operator, hoperator, h⟩ := except_bind_eq_ok h
  obtain ⟨rfl, rfl, hv, rfl, rfl⟩ := of?_eq_ok h
  exact ⟨hfield, hoperator, ⟨value, hvalue, hv⟩, hstart, hfinish⟩

theorem ofEntries?_refusesNone (entries : Entries) : RefusesNone (ofEntries? entries) := by
  rw [ofEntries?_eq]
  refine (FieldName.ofValue?_refusesNone _).bind fun field => ?_
  refine (Value.typed?_refusesNone _ _).bind fun value => ?_
  refine (Value.typed?_refusesNone _ _).bind fun start => ?_
  refine (Value.typed?_refusesNone _ _).bind fun finish => ?_
  refine (OperatorName.ofValue?_refusesNone _).bind fun operator => ?_
  exact of?_refusesNone field operator value start finish

/-- With field and operator read, only the operands can be oversized. -/
theorem oversized_iff {entries : Entries} {field : FieldName} {operator : OperatorName}
    (hfield : ¬(entries.get "field").holdsLongInteger = true)
    (hoperator : ¬(entries.get "operator").holdsLongInteger = true)
    (hf : FieldName.ofValue? (entries.get "field") = .ok field)
    (ho : OperatorName.ofValue? (entries.get "operator") = .ok operator) :
    Oversized entries ↔ match field.type with
      | some type => type.isNumeric = true ∧
          ∃ key ∈ ["value", "valueStart", "valueEnd"], (entries.get key).defiesNumber = true
      | none => Operand.isOversized operator (entries.get "value") (entries.get "valueStart")
          (entries.get "valueEnd") = true := by
  constructor
  · rintro (h | h | ⟨field', operator', hf', ho', h⟩)
    · exact absurd h hfield
    · exact absurd h hoperator
    · cases hf.symm.trans hf'
      cases ho.symm.trans ho'
      exact h
  · exact fun h => .inr (.inr ⟨field, operator, hf, ho, h⟩)

/-- Operands that are read by a type never stand in the way of their operator. -/
theorem typedOperands_fail (type : FieldType) {field : FieldName} {operator : OperatorName}
    {value start finish : Value} :
    Fails ((value.typedAs? type).bind fun value => (start.typedAs? type).bind fun start =>
      (finish.typedAs? type).bind fun finish => of? field operator value start finish) ↔
    type.isNumeric = true ∧ (value.defiesNumber = true ∨ start.defiesNumber = true ∨
      finish.defiesNumber = true) := by
  constructor
  · intro h
    rcases fails_bind.1 h with h | ⟨v, hv, h⟩
    · obtain ⟨ht, h⟩ := (Value.typedAs?_fails type _).1 h
      exact ⟨ht, .inl h⟩
    rcases fails_bind.1 h with h | ⟨s, hs, h⟩
    · obtain ⟨ht, h⟩ := (Value.typedAs?_fails type _).1 h
      exact ⟨ht, .inr (.inl h)⟩
    rcases fails_bind.1 h with h | ⟨e, he, h⟩
    · obtain ⟨ht, h⟩ := (Value.typedAs?_fails type _).1 h
      exact ⟨ht, .inr (.inr h)⟩
    have hlong : ∀ {v w : Value}, v.typedAs? type = .ok w → w.holdsLongInteger = false := fun h =>
      Value.holdsLongInteger_of_isLoaded (Value.typedAs?_isLoaded h)
    rw [of?_fails, Operand.isOversized_of_not_long (hlong hv) (hlong hs) (hlong he)] at h
    cases h
  · rintro ⟨ht, h | h | h⟩
    · exact fails_bind.2 (.inl ((Value.typedAs?_fails type _).2 ⟨ht, h⟩))
    · refine fails_bind_of_forall fun _ => ?_
      exact fails_bind.2 (.inl ((Value.typedAs?_fails type _).2 ⟨ht, h⟩))
    · refine fails_bind_of_forall fun _ => fails_bind_of_forall fun _ => ?_
      exact fails_bind.2 (.inl ((Value.typedAs?_fails type _).2 ⟨ht, h⟩))

/-- A rule cannot be read exactly when it holds a number that cannot be read. -/
theorem ofEntries?_fails {entries : Entries} :
    Fails (ofEntries? entries) ↔ Oversized entries := by
  rw [ofEntries?_eq]
  by_cases hfield : (entries.get "field").holdsLongInteger = true
  · exact ⟨fun _ => .inl hfield, fun _ => fails_bind.2 (.inl (FieldName.ofValue?_fails.2 hfield))⟩
  obtain ⟨field, hf⟩ := not_fails_iff.1 (mt FieldName.ofValue?_fails.1 hfield)
  rw [hf, ok_bind]
  by_cases hoperator : (entries.get "operator").holdsLongInteger = true
  · refine ⟨fun _ => .inr (.inl hoperator), fun _ => ?_⟩
    refine fails_bind_of_forall fun value => ?_
    refine fails_bind_of_forall fun start => ?_
    refine fails_bind_of_forall fun finish => ?_
    exact fails_bind.2 (.inl (OperatorName.ofValue?_fails.2 hoperator))
  obtain ⟨operator, ho⟩ := not_fails_iff.1 (mt OperatorName.ofValue?_fails.1 hoperator)
  rw [oversized_iff hfield hoperator hf ho, ho]
  cases field.type with
  | none => exact of?_fails
  | some type => exact (typedOperands_fail type).trans (by simp)

end Rule

/-! ## Trees -/

namespace Node

/-- The stored node is read. -/
def IsRead (v : Value) : Prop := ∃ node, (ofDocument v).result = .ok node

/-- In the stored node a rule holds a number that cannot be read, and all that stands in front of the
rule is read. -/
inductive Oversized : Value → Prop
  | rule {entries : Entries} : isGroup entries = false → Rule.Oversized entries →
      Oversized (.object entries)
  | child {entries : Entries} {before after : List Value} {v : Value} : isGroup entries = true →
      entries.get "rules" = .list (before ++ v :: after) → (∀ w ∈ before, IsRead w) →
      Oversized v → Oversized (.object entries)

/-- One of the stored children is such a node, and those in front of it are read. -/
def ChildOversized (items : List Value) : Prop :=
  ∃ before v after, items = before ++ v :: after ∧ (∀ w ∈ before, IsRead w) ∧ Oversized v

theorem childOversized_cons {v : Value} {rest : List Value} :
    ChildOversized (v :: rest) ↔ Oversized v ∨ IsRead v ∧ ChildOversized rest :=
  exists_behind_cons IsRead Oversized

theorem oversized_object {entries : Entries} :
    Oversized (.object entries) ↔ (isGroup entries = false ∧ Rule.Oversized entries) ∨
      (isGroup entries = true ∧ ∃ items, entries.get "rules" = .list items ∧
        ChildOversized items) := by
  constructor
  · rintro (⟨hg, h⟩ | ⟨hg, hrules, hbefore, h⟩)
    · exact .inl ⟨hg, h⟩
    · exact .inr ⟨hg, _, hrules, _, _, _, rfl, hbefore, h⟩
  · rintro (⟨hg, h⟩ | ⟨hg, items, hrules, before, v, after, rfl, hbefore, h⟩)
    · exact .rule hg h
    · exact .child hg hrules hbefore h

theorem groupOf_eq (entries : Entries) (children : List Node) :
    ∃ join, (groupOf entries children).result = .ok ⟨Group.nameOf entries, join, children⟩ := by
  have hjoin : ∀ v, ∃ join, (Join.ofValue v).result = .ok join := by
    intro v
    unfold Join.ofValue
    split
    · exact ⟨_, rfl⟩
    · split <;> exact ⟨_, rfl⟩
    · exact ⟨_, rfl⟩
  obtain ⟨join, hj⟩ := hjoin (entries.get "join")
  refine ⟨join, ?_⟩
  rw [groupOf, Report.bind_result, hj]
  rfl

/-- Only the children of a group can stand in the way of reading it. -/
theorem escapes_group {α : Type} {r : Report (List Node)} {entries : Entries} {g : Group → α} :
    (r.bind fun children => (groupOf entries children).bind fun group => .ok (g group)).Escapes ↔
      r.Escapes := by
  rw [Report.escapes_bind]
  refine or_iff_left fun ⟨children, _, h⟩ => ?_
  obtain ⟨join, hgroup⟩ := groupOf_eq entries children
  rcases Report.escapes_bind.1 h with ⟨f, hf, -⟩ | ⟨_, -, h⟩
  · cases hgroup.symm.trans hf
  · exact Report.not_escapes_ok _ h

mutual
/-- A stored node is neither read nor refused exactly when it holds a number that cannot be read behind
what is read. -/
theorem escapes_iff : ∀ v : Value, (ofDocument v).Escapes ↔ Oversized v
  | .object entries => by
    rw [ofDocument, oversized_object]
    cases isGroup entries with
    | true => simp [escapes_group, childrenOf_escapes_iff entries]
    | false =>
      simp only [Bool.false_eq_true, if_false, Report.escapes_bind, Report.not_escapes_ok,
        and_false, exists_false, or_false, escapes_ofExcept (Rule.ofEntries?_refusesNone entries),
        Rule.ofEntries?_fails, true_and, false_and]
  | .null | .bool _ | .int _ | .float _ | .text _ | .list _ | .tuple _ | .date _ | .stamp _
  | .status _ => iff_of_false (Report.not_escapes_refused _) (fun h => nomatch h)
theorem childrenOf_escapes_iff : ∀ entries : List (String × Value),
    (childrenOf entries).Escapes ↔ ∃ items, Entries.get entries "rules" = .list items ∧
      ChildOversized items
  | [] => by simp [childrenOf, Entries.get]
  | (key, v) :: rest => by
    rw [childrenOf, Entries.get_cons]
    split
    · rename_i h
      subst h
      simp [ofList_escapes_iff v]
    · simp [childrenOf_escapes_iff rest]
theorem ofList_escapes_iff : ∀ v : Value,
    (ofList v).Escapes ↔ ∃ items, v = .list items ∧ ChildOversized items
  | .list items => by simp [ofList, ofItems_escapes_iff items]
  | .null | .bool _ | .int _ | .float _ | .text _ | .object _ | .tuple _ | .date _ | .stamp _
  | .status _ => by simp [ofList]
theorem ofItems_escapes_iff : ∀ items : List Value, (ofItems items).Escapes ↔ ChildOversized items
  | [] => by simp [ofItems, ChildOversized]
  | v :: rest => by
    rw [ofItems, childOversized_cons, Report.escapes_bind, escapes_iff v]
    simp only [Report.escapes_bind, ofItems_escapes_iff rest, Report.not_escapes_ok, and_false,
      exists_false, or_false]
    simp only [IsRead, exists_and_right]
end

end Node

end ShelfRules
