import ShelfRules.Filter.Rule
import ShelfRules.Proofs.DoubleIntegers
import ShelfRules.Value.Typed

/-!
# Operands that are read

A stored operand is read by the type of its field, and the operator makes an operand of what was
read. Both steps fail on some values only: an integer past the largest double is no number, nor is a
clock that tells its offset, and an integer that is too long has no text.

Results:
* `Value.typedAs?_fails`: when a value cannot be read by the type of a field.
* `Value.typed?_isLoaded`: what is read from a document holds no integer that is too long.
* `Operand.build?_fails`: when an operator cannot make an operand of values.
-/

namespace ShelfRules

/-! ## Failing -/

/-- The computation has no result. -/
def Fails {ε α : Type} (e : Except ε α) : Prop := ∃ f, e = .error f

section Fails

variable {ε α β : Type}

@[simp] theorem fails_ok (a : α) : ¬Fails (.ok a : Except ε α) := fun ⟨_, h⟩ => nomatch h

@[simp] theorem fails_error (f : ε) : Fails (.error f : Except ε α) := ⟨f, rfl⟩

@[simp] theorem fails_map {e : Except ε α} {g : α → β} : Fails (e.map g) ↔ Fails e := by
  cases e <;> simp [Except.map]

theorem ok_bind (a : α) (g : α → Except ε β) : (Except.ok a).bind g = g a := rfl

theorem fails_bind {e : Except ε α} {g : α → Except ε β} :
    Fails (e.bind g) ↔ Fails e ∨ ∃ a, e = .ok a ∧ Fails (g a) := by
  cases e <;> simp [Except.bind]

theorem fails_bind_of_forall {e : Except ε α} {g : α → Except ε β} (h : ∀ a, Fails (g a)) :
    Fails (e.bind g) := by
  cases e with
  | error f => exact fails_error f
  | ok a => exact h a

theorem not_fails_iff {e : Except ε α} : ¬Fails e ↔ ∃ a, e = .ok a := by
  cases e <;> simp

theorem except_bind_eq_ok {e : Except ε α} {g : α → Except ε β} {b : β} (h : e.bind g = .ok b) :
    ∃ a, e = .ok a ∧ g a = .ok b := by
  cases e with
  | error f => cases h
  | ok a => exact ⟨a, rfl, h⟩

end Fails

/-- A list has an element with a property behind elements with another one: the head has it, or the head
has the other one and the tail has such an element. -/
theorem exists_behind_cons {α : Type} (P Q : α → Prop) {a : α} {as : List α} :
    (∃ before b after, a :: as = before ++ b :: after ∧ (∀ c ∈ before, P c) ∧ Q b) ↔
      Q a ∨ P a ∧ ∃ before b after, as = before ++ b :: after ∧ (∀ c ∈ before, P c) ∧ Q b := by
  constructor
  · rintro ⟨before, b, after, h, hbefore, hb⟩
    cases before with
    | nil =>
      cases h
      exact .inl hb
    | cons c before =>
      cases h
      obtain ⟨hc, hbefore⟩ := List.forall_mem_cons.1 hbefore
      exact .inr ⟨hc, before, b, after, rfl, hbefore, hb⟩
  · rintro (h | ⟨ha, before, b, after, rfl, hbefore, hb⟩)
    · exact ⟨[], a, as, rfl, by simp, h⟩
    · exact ⟨a :: before, b, after, rfl, List.forall_mem_cons.2 ⟨ha, hbefore⟩, hb⟩

theorem Fault.ifNone_fails {α : Type} {f : Fault} {o : Option α} :
    Fails (f.ifNone o) ↔ o = none := by
  cases o <;> simp [ifNone]

/-! ## Reading by a type -/

/-- The values of the type are numbers. -/
def FieldType.isNumeric : FieldType → Bool
  | .number | .decimal => true
  | .date => false

namespace Value

mutual
/-- The value has no number: it is an integer past the largest double or a clock that tells its
    offset, or a list of which one item has none. -/
def defiesNumber : Value → Bool
  | .int n => (Double.ofInt? n).isNone
  | .stamp t => t.offset.isSome
  | .list items => anyDefiesNumber items
  | .tuple items => anyDefiesNumber items
  | _ => false
/-- One of the values has no number. -/
def anyDefiesNumber : List Value → Bool
  | [] => false
  | v :: rest => v.defiesNumber || anyDefiesNumber rest
end

/-- The value is no list. -/
def isSingle : Value → Bool
  | .list _ | .tuple _ => false
  | _ => true

theorem number?_fails {v : Value} (hv : v.isSingle = true) :
    Fails v.number? ↔ v.defiesNumber = true := by
  cases v with
  | int n => simp [number?, defiesNumber, Fault.ifNone_fails]
  | stamp t =>
    obtain ⟨wall, offset⟩ := t
    cases offset <;> simp [number?, defiesNumber]
  | list | tuple => cases hv
  | null | bool | float | text | object | date | status => simp [number?, defiesNumber]

theorem typedItem?_fails (type : FieldType) {v : Value} (hv : v.isSingle = true) :
    Fails (typedItem? type v) ↔ type.isNumeric = true ∧ v.defiesNumber = true := by
  have hnumber : ∀ integral, Fails (v.typedNumber? integral) ↔ v.defiesNumber = true := by
    intro integral
    rw [← number?_fails hv]
    cases v <;> simp [typedNumber?, number?]
  cases type <;> simp [typedItem?, FieldType.isNumeric, hnumber]

mutual
/-- A value cannot be read by the type of a field when the type is one of numbers and the value has
none. -/
theorem typedAs?_fails (type : FieldType) : ∀ v : Value,
    Fails (typedAs? type v) ↔ type.isNumeric = true ∧ v.defiesNumber = true
  | .null => by simp [typedAs?, defiesNumber]
  | .list items => by simp [typedAs?, defiesNumber, typedItems?_fails type items]
  | .tuple items => by simp [typedAs?, defiesNumber, typedItems?_fails type items]
  | .bool _ | .int _ | .float _ | .text _ | .object _ | .date _ | .stamp _ | .status _ =>
    typedItem?_fails type rfl
theorem typedItems?_fails (type : FieldType) : ∀ items : List Value,
    Fails (typedItems? type items) ↔ type.isNumeric = true ∧ anyDefiesNumber items = true
  | [] => by simp [typedItems?, anyDefiesNumber]
  | v :: rest => by
    rw [typedItems?, fails_bind, typedAs?_fails type v]
    simp only [fails_map, typedItems?_fails type rest, anyDefiesNumber, Bool.or_eq_true]
    constructor
    · rintro (⟨ht, hv⟩ | ⟨_, -, ht, hr⟩)
      · exact ⟨ht, .inl hv⟩
      · exact ⟨ht, .inr hr⟩
    · rintro ⟨ht, h⟩
      by_cases hv : v.defiesNumber = true
      · exact .inl ⟨ht, hv⟩
      · obtain ⟨w, hw⟩ := not_fails_iff.1 (mt (typedAs?_fails type v).1 fun h => hv h.2)
        exact .inr ⟨w, hw, ht, h.resolve_left hv⟩
end

/-- A double that is an integer becomes that integer. -/
theorem ofDouble_of_toInt? {d : Double} {n : Int} (h : d.toInt? = some n) :
    ofDouble true d = .int n := by
  rw [ofDouble, Double.isNaN_of_toInt? h, h]
  rfl

/-! ## What is read from a document -/

mutual
/-- The value is one of JSON in which timestamps may stand. -/
def isDatedJson : Value → Bool
  | .null | .bool _ | .int _ | .float _ | .text _ | .stamp _ => true
  | .list items => areDatedJson items
  | .object entries => entriesAreDatedJson entries
  | .tuple _ | .date _ | .status _ => false
/-- The values are values of JSON in which timestamps may stand. -/
def areDatedJson : List Value → Bool
  | [] => true
  | v :: rest => v.isDatedJson && areDatedJson rest
/-- The values of the entries are such values, and the keys differ. -/
def entriesAreDatedJson : List (String × Value) → Bool
  | [] => true
  | (k, v) :: rest => !Entries.has rest k && v.isDatedJson && entriesAreDatedJson rest
end

mutual
/-- A timestamp stands in the value. -/
def holdsStamp : Value → Bool
  | .stamp _ => true
  | .list items => anyHoldsStamp items
  | .tuple items => anyHoldsStamp items
  | .object entries => anyEntryHoldsStamp entries
  | _ => false
/-- A timestamp stands in one of the values. -/
def anyHoldsStamp : List Value → Bool
  | [] => false
  | v :: rest => v.holdsStamp || anyHoldsStamp rest
/-- A timestamp stands in the value of one of the entries. -/
def anyEntryHoldsStamp : List (String × Value) → Bool
  | [] => false
  | (_, v) :: rest => v.holdsStamp || anyEntryHoldsStamp rest
end

mutual
/-- A value of JSON is one in which no timestamp stands. -/
theorem isJson_eq : ∀ v : Value, v.isJson = (v.isDatedJson && !v.holdsStamp)
  | .null | .bool _ | .int _ | .float _ | .text _ | .tuple _ | .date _ | .stamp _ | .status _ => rfl
  | .list items => areJson_eq items
  | .object entries => entriesAreJson_eq entries
theorem areJson_eq : ∀ items : List Value,
    areJson items = (areDatedJson items && !anyHoldsStamp items)
  | [] => rfl
  | v :: rest => by
    rw [areJson, areDatedJson, anyHoldsStamp, isJson_eq v, areJson_eq rest, Bool.not_or]
    cases v.isDatedJson <;> cases areDatedJson rest <;> cases v.holdsStamp <;> rfl
theorem entriesAreJson_eq : ∀ entries : List (String × Value),
    entriesAreJson entries = (entriesAreDatedJson entries && !anyEntryHoldsStamp entries)
  | [] => rfl
  | (k, v) :: rest => by
    rw [entriesAreJson, entriesAreDatedJson, anyEntryHoldsStamp, isJson_eq v,
      entriesAreJson_eq rest, Bool.not_or]
    cases Entries.has rest k <;> cases v.isDatedJson <;> cases entriesAreDatedJson rest <;>
      cases v.holdsStamp <;> rfl
end

/-- The value is one of JSON in which timestamps may stand, without an integer that is too long to be
written. -/
def isLoaded (v : Value) : Bool := v.isDatedJson && !v.holdsLongInteger

theorem holdsLongInteger_of_isLoaded {v : Value} (h : v.isLoaded = true) :
    v.holdsLongInteger = false := by
  simpa using (Bool.and_eq_true_iff.1 h).2

/-- A document is a loaded value in which no timestamp stands. -/
theorem isDocument_eq (v : Value) : v.isDocument = (v.isLoaded && !v.holdsStamp) := by
  rw [isDocument, isJson_eq, isLoaded]
  cases v.isDatedJson <;> cases v.holdsStamp <;> cases v.holdsLongInteger <;> rfl

theorem isLoaded_of_isDocument {v : Value} (h : v.isDocument = true) : v.isLoaded = true := by
  rw [isDocument_eq, Bool.and_eq_true] at h
  exact h.1

theorem isLoaded_list_cons {v : Value} {rest : List Value} :
    (list (v :: rest)).isLoaded = (v.isLoaded && (list rest).isLoaded) := by
  simp only [isLoaded, isDatedJson, areDatedJson, holdsLongInteger, anyHoldsLongInteger]
  cases v.isDatedJson <;> cases areDatedJson rest <;> cases v.holdsLongInteger <;> rfl

theorem isLoaded_object_cons {k : String} {v : Value} {rest : Entries} :
    (object ((k, v) :: rest)).isLoaded =
      (!rest.has k && v.isLoaded && (object rest).isLoaded) := by
  simp only [isLoaded, isDatedJson, entriesAreDatedJson, holdsLongInteger, anyEntryHoldsLongInteger]
  cases rest.has k <;> cases v.isDatedJson <;> cases entriesAreDatedJson rest <;>
    cases v.holdsLongInteger <;> rfl

theorem ofDouble_isLoaded (integral : Bool) (d : Double) : (ofDouble integral d).isLoaded = true := by
  unfold ofDouble
  split
  · rfl
  split
  · cases h : d.toInt? with
    | none => rfl
    | some n => simp [isLoaded, isDatedJson, holdsLongInteger, isLongInteger_of_toInt? h]
  · rfl

theorem typedDate_isLoaded (v : Value) : v.typedDate.isLoaded = true := by
  cases v with
  | stamp t => cases h : t.toUtc? <;> simp [typedDate, h, isLoaded, isDatedJson, holdsLongInteger,
      moment]
  | text s => cases h : Moment.ofText? s <;> simp [typedDate, dateOfText, h, isLoaded, isDatedJson,
      holdsLongInteger, moment]
  | _ => rfl

theorem typedItem?_isLoaded {type : FieldType} {v w : Value} (h : typedItem? type v = .ok w) :
    w.isLoaded = true := by
  have hnumber : ∀ integral, v.typedNumber? integral = .ok w → w.isLoaded = true := by
    intro integral h
    have hmap : v.number?.map (ofDouble integral) = .ok w → w.isLoaded = true := fun h => by
      obtain ⟨d, -, rfl⟩ := Json.except_map_eq_ok h
      exact ofDouble_isLoaded integral d
    cases v with
    | bool b => cases h; rfl
    | _ => exact hmap h
  cases type with
  | number => exact hnumber true h
  | decimal => exact hnumber false h
  | date =>
    cases h
    exact typedDate_isLoaded v

mutual
/-- What is read by a type is a number, a moment or null, or a list of such values. -/
theorem typedAs?_isLoaded {type : FieldType} : ∀ {v w : Value}, typedAs? type v = .ok w →
    w.isLoaded = true
  | .null, _, h => by cases h; rfl
  | .list items, _, h | .tuple items, _, h => by
    obtain ⟨ws, hws, rfl⟩ := Json.except_map_eq_ok h
    exact typedItems?_isLoaded hws
  | .bool _, _, h | .int _, _, h | .float _, _, h | .text _, _, h | .object _, _, h | .date _, _, h
  | .stamp _, _, h | .status _, _, h => typedItem?_isLoaded h
theorem typedItems?_isLoaded {type : FieldType} : ∀ {items ws : List Value},
    typedItems? type items = .ok ws → (list ws).isLoaded = true
  | [], _, h => by cases h; rfl
  | v :: rest, ws, h => by
    rw [typedItems?] at h
    cases hv : typedAs? type v with
    | error f => simp [hv, Except.bind] at h
    | ok w =>
      simp only [hv, Except.bind] at h
      obtain ⟨ws', hws, rfl⟩ := Json.except_map_eq_ok h
      rw [isLoaded_list_cons, typedAs?_isLoaded hv, typedItems?_isLoaded hws, Bool.and_self]
end

/-- What is read from a document by the type of a field holds no integer that is too long. -/
theorem typed?_isLoaded {type : Option FieldType} {v w : Value} (hv : v.isDocument = true)
    (h : typed? type v = .ok w) : w.isLoaded = true := by
  cases type with
  | none =>
    cases h
    exact isLoaded_of_isDocument hv
  | some type => exact typedAs?_isLoaded h

/-! ## Texts of values -/

/-- The value is a list that holds an integer that is too long to be written. -/
def listsLongInteger : Value → Bool
  | .list items => anyHoldsLongInteger items
  | .tuple items => anyHoldsLongInteger items
  | _ => false

theorem webText?_fails {v : Value} : Fails v.webText? ↔ v.holdsLongInteger = true := by
  unfold webText?
  split <;> simp [*]

theorem lowerItems?_cons {v : Value} (hv : v ≠ .null) (rest : List Value) :
    lowerItems? (v :: rest) = v.webText?.bind fun s =>
      (lowerItems? rest).map (Text.lowered s :: ·) := by
  rw [lowerItems?.eq_def]
  cases v with
  | null => exact absurd rfl hv
  | _ =>
    dsimp only
    cases webText? _ <;> rfl

theorem lowerItems?_fails : ∀ items : List Value,
    Fails (lowerItems? items) ↔ anyHoldsLongInteger items = true
  | [] => by simp [lowerItems?, anyHoldsLongInteger]
  | v :: rest => by
    have hrest := lowerItems?_fails rest
    by_cases hnull : v = .null
    · subst hnull
      simpa [lowerItems?, anyHoldsLongInteger, holdsLongInteger] using hrest
    · rw [lowerItems?_cons hnull, fails_bind, webText?_fails]
      simp only [fails_map, hrest, anyHoldsLongInteger, Bool.or_eq_true]
      constructor
      · rintro (hv | ⟨_, -, hr⟩)
        · exact .inl hv
        · exact .inr hr
      · intro h
        by_cases hv : v.holdsLongInteger = true
        · exact .inl hv
        · obtain ⟨s, hs⟩ := not_fails_iff.1 (mt webText?_fails.1 hv)
          exact .inr ⟨s, hs, h.resolve_left hv⟩

/-- What counts as nothing holds no integer that is too long. -/
theorem holdsLongInteger_of_falsy {v : Value} (h : v.truthy = false) : v.holdsLongInteger = false := by
  cases v with
  | int n =>
    obtain rfl : n = 0 := by simpa [truthy] using h
    exact Json.isLongInteger_eq_false (Nat.pow_pos (Nat.succ_pos 9))
  | list items | tuple items =>
    obtain rfl : items = [] := by simpa [truthy] using h
    rfl
  | object entries =>
    obtain rfl : entries = [] := by simpa [truthy] using h
    rfl
  | _ => rfl

theorem truthyText?_fails {α : Type} (v : Value) (f : String → α) (a : α) :
    Fails (if v.truthy then v.webText?.map f else .ok a) ↔ v.holdsLongInteger = true := by
  split
  · rw [fails_map, webText?_fails]
  · rename_i h
    simp [holdsLongInteger_of_falsy (Bool.eq_false_iff.2 h)]

theorem lowerList?_fails {v : Value} : Fails v.lowerList? ↔ v.holdsLongInteger = true := by
  have hsingle := truthyText?_fails v (fun s => [Text.lowered s]) []
  cases v with
  | list items | tuple items => exact lowerItems?_fails items
  | _ => exact hsingle

theorem normalize?_fails {v : Value} : Fails v.normalize? ↔ v.listsLongInteger = true := by
  cases v with
  | list items => simp [normalize?, listsLongInteger, lowerItems?_fails]
  | tuple items => simp [normalize?, listsLongInteger, lowerItems?_fails]
  | stamp t => cases h : t.toUtc? <;> simp [normalize?, listsLongInteger, h]
  | text s => cases h : Moment.ofText? s <;> simp [normalize?, listsLongInteger, h]
  | null | bool | int | float | object | date | status => simp [normalize?, listsLongInteger]

theorem listsLongInteger_imp {v : Value} (h : v.listsLongInteger = true) :
    v.holdsLongInteger = true := by
  cases v with
  | list items => exact h
  | tuple items => exact h
  | _ => cases h

theorem holdsLongInteger_asTuple (v : Value) : v.asTuple.holdsLongInteger = v.holdsLongInteger := by
  cases v <;> rfl

theorem listsLongInteger_asTuple (v : Value) : v.asTuple.listsLongInteger = v.listsLongInteger := by
  cases v <;> rfl

end Value

/-! ## Operands -/

namespace Operand

/-- The values hold an integer that is too long for what the operator makes of them. -/
def isOversized (name : OperatorName) (value start finish : Value) : Bool :=
  match name with
  | .known .includesAny | .known .excludesAll | .known .includesAll => value.holdsLongInteger
  | .known .inBetween => start.listsLongInteger || finish.listsLongInteger
  | _ => value.listsLongInteger

/-- The bounds of a range are brought to their normal shape, the lower one first. -/
theorem build?_inBetween (value start finish : Value) :
    build? (.known .inBetween) value start finish =
      start.normalize?.bind fun a => finish.normalize?.map (range a) := by
  unfold build?
  cases start.normalize? <;> cases finish.normalize? <;> rfl

/-- An operator cannot make an operand of values when they hold an integer that is too long. -/
theorem build?_fails {name : OperatorName} {value start finish : Value} :
    Fails (build? name value start finish) ↔ isOversized name value start finish = true := by
  have hsingle : Fails (value.normalize?.map (scalar value)) ↔ value.listsLongInteger = true := by
    rw [fails_map, Value.normalize?_fails]
  cases name with
  | unknown raw fresh => exact hsingle
  | known operator =>
    cases operator with
    | inBetween =>
      rw [build?_inBetween, isOversized, Bool.or_eq_true, ← Value.normalize?_fails,
        ← Value.normalize?_fails]
      cases start.normalize? <;> simp [Except.bind]
    | includesAny | excludesAll | includesAll => exact fails_map.trans Value.lowerList?_fails
    | _ => exact hsingle

theorem isOversized_of_not_long {name : OperatorName} {value start finish : Value}
    (hv : value.holdsLongInteger = false) (hs : start.holdsLongInteger = false)
    (he : finish.holdsLongInteger = false) : isOversized name value start finish = false := by
  have hlists : ∀ {v : Value}, v.holdsLongInteger = false → v.listsLongInteger = false := fun hv =>
    Bool.eq_false_iff.2 fun h => by simp [Value.listsLongInteger_imp h] at hv
  unfold isOversized
  split
  · exact hv
  · exact hv
  · exact hv
  · rw [hlists hs, hlists he, Bool.or_false]
  · exact hlists hv

theorem isOversized_asTuple (name : OperatorName) (value start finish : Value) :
    isOversized name value.asTuple start finish = isOversized name value start finish := by
  simp only [isOversized, Value.holdsLongInteger_asTuple, Value.listsLongInteger_asTuple]

end Operand

theorem Rule.of?_fails {field : FieldName} {operator : OperatorName} {value start finish : Value} :
    Fails (of? field operator value start finish) ↔
      Operand.isOversized operator value start finish = true := by
  rw [← Operand.isOversized_asTuple, ← Operand.build?_fails]
  unfold of?
  split <;> rename_i h <;> simp [h]

end ShelfRules
