import ShelfRules.Proofs.ResavedFilters

/-!
# Typed operands

What is read by the type of a field is typed: null, a number on a field of numbers, a moment on a field
of dates, or a list of typed values, with one item for each item of the list that is read. On a field of
integers a number is an integer wherever it is one. Typed values are read as what they are, and no
others are, so that reading is a projection onto them.

Results:
* `Value.typedAs?_readsAs`: what is read of a value is typed, item by item.
* `Value.typedAs?_eq_self_iff`: the values that are read as themselves are the typed ones.
* `Value.typed?_projects`: reading a second time changes nothing.
-/

namespace ShelfRules

namespace Value

variable {type : FieldType} {v w : Value}

/-! ## Typed values -/

/-- The value is one that a single value is read as: null, on a field of integers an integer that is a
double or a double that is none, on a field of decimals a double, and on a field of dates a moment. -/
inductive IsTypedItem : FieldType → Value → Prop
  | null (type : FieldType) : IsTypedItem type .null
  | integer {n : Int} {d : Double} : d.toInt? = some n → IsTypedItem .number (.int n)
  | fraction {d : Double} : d.isNaN = false → d.toInt? = none → IsTypedItem .number (.float d)
  | decimal {d : Double} : d.isNaN = false → IsTypedItem .decimal (.float d)
  | moment (m : Moment) : IsTypedItem .date (.moment m)

/-- The value is typed: a single typed value, or a list of typed values. -/
inductive IsTyped (type : FieldType) : Value → Prop
  | item {v : Value} : IsTypedItem type v → IsTyped type v
  | list {items : List Value} : (∀ v ∈ items, IsTyped type v) → IsTyped type (.list items)

mutual
/-- The second value is one that the first is read as: a typed value for a single value, and for a list
or a tuple a list of what its items are read as. -/
inductive ReadsAs (type : FieldType) : Value → Value → Prop
  | item {v w : Value} : v.isSingle = true → IsTypedItem type w → ReadsAs type v w
  | list {vs ws : List Value} : ReadAsAll type vs ws → ReadsAs type (.list vs) (.list ws)
  | tuple {vs ws : List Value} : ReadAsAll type vs ws → ReadsAs type (.tuple vs) (.list ws)
/-- The second list has for each value of the first one that it is read as. -/
inductive ReadAsAll (type : FieldType) : List Value → List Value → Prop
  | nil : ReadAsAll type [] []
  | cons {v w : Value} {vs ws : List Value} : ReadsAs type v w → ReadAsAll type vs ws →
      ReadAsAll type (v :: vs) (w :: ws)
end

mutual
theorem ReadsAs.isTyped : ∀ {v w : Value}, ReadsAs type v w → IsTyped type w
  | _, _, .item _ h => .item h
  | _, _, .list h | _, _, .tuple h => .list h.areTyped
theorem ReadAsAll.areTyped : ∀ {vs ws : List Value}, ReadAsAll type vs ws → ∀ w ∈ ws, IsTyped type w
  | _, _, .nil => List.forall_mem_nil _
  | _, _, .cons h hall => List.forall_mem_cons.2 ⟨h.isTyped, hall.areTyped⟩
end

theorem ReadAsAll.length_eq {vs ws : List Value} (h : ReadAsAll type vs ws) :
    ws.length = vs.length := by
  induction vs generalizing ws with
  | nil =>
    cases h
    rfl
  | cons v vs ih =>
    cases h with
    | cons _ hall => exact congrArg (· + 1) (ih hall)

/-! ## What is read -/

theorem ofDouble_integral_isTypedItem (d : Double) : IsTypedItem .number (ofDouble true d) := by
  unfold ofDouble
  cases hnan : d.isNaN with
  | true => exact .null .number
  | false =>
    cases hint : d.toInt? with
    | none => exact .fraction hnan hint
    | some n => exact .integer hint

theorem ofDouble_decimal_isTypedItem (d : Double) : IsTypedItem .decimal (ofDouble false d) := by
  unfold ofDouble
  cases hnan : d.isNaN with
  | true => exact .null .decimal
  | false => exact .decimal hnan

/-- What a number is read as is null or made of a double. -/
theorem typedNumber?_cases {integral : Bool} (h : v.typedNumber? integral = .ok w) :
    w = .null ∨ ∃ d, w = ofDouble integral d := by
  have hnumber : v.number?.map (ofDouble integral) = .ok w → ∃ d, w = ofDouble integral d := fun h => by
    obtain ⟨d, -, rfl⟩ := Json.except_map_eq_ok h
    exact ⟨d, rfl⟩
  cases v with
  | bool b => exact .inl (Except.ok.inj h).symm
  | _ => exact .inr (hnumber h)

theorem typedDate_isTypedItem (v : Value) : IsTypedItem .date v.typedDate := by
  cases v with
  | date d => exact .moment _
  | stamp t =>
    rw [typedDate]
    cases t.toUtc? with
    | none => exact .null .date
    | some m => exact .moment m
  | text s =>
    have hread : (Value.text s).typedDate = ((Moment.ofText? s).map Value.moment).getD .null := rfl
    rw [hread]
    cases Moment.ofText? s with
    | none => exact .null .date
    | some m => exact .moment m
  | _ => exact .null .date

theorem typedItem?_isTypedItem (h : typedItem? type v = .ok w) : IsTypedItem type w := by
  cases type with
  | number =>
    rcases typedNumber?_cases h with rfl | ⟨d, rfl⟩
    · exact .null .number
    · exact ofDouble_integral_isTypedItem d
  | decimal =>
    rcases typedNumber?_cases h with rfl | ⟨d, rfl⟩
    · exact .null .decimal
    · exact ofDouble_decimal_isTypedItem d
  | date =>
    obtain rfl := Except.ok.inj h
    exact typedDate_isTypedItem v

mutual
/-- What is read of a value is typed, item by item. -/
theorem typedAs?_readsAs : ∀ {v w : Value}, typedAs? type v = .ok w → ReadsAs type v w
  | .null, _, h => by
    obtain rfl := Except.ok.inj h
    exact .item rfl (.null type)
  | .list items, _, h => by
    obtain ⟨ws, hws, rfl⟩ := Json.except_map_eq_ok h
    exact .list (typedItems?_readAsAll hws)
  | .tuple items, _, h => by
    obtain ⟨ws, hws, rfl⟩ := Json.except_map_eq_ok h
    exact .tuple (typedItems?_readAsAll hws)
  | .bool _, _, h | .int _, _, h | .float _, _, h | .text _, _, h | .object _, _, h | .date _, _, h
  | .stamp _, _, h | .status _, _, h => .item rfl (typedItem?_isTypedItem h)
theorem typedItems?_readAsAll : ∀ {vs ws : List Value}, typedItems? type vs = .ok ws →
    ReadAsAll type vs ws
  | [], _, h => by
    obtain rfl := Except.ok.inj h
    exact .nil
  | v :: rest, _, h => by
    obtain ⟨w, hv, h⟩ := except_bind_eq_ok h
    obtain ⟨ws, hrest, rfl⟩ := Json.except_map_eq_ok h
    exact .cons (typedAs?_readsAs hv) (typedItems?_readAsAll hrest)
end

/-! ## Reading again -/

/-- A single typed value is read as what it is. -/
theorem IsTypedItem.typedAs? (h : IsTypedItem type v) : v.typedAs? type = .ok v := by
  cases h with
  | null => rfl
  | @integer n d hd =>
    -- The integer is read as a double, and that double is the integer again.
    obtain ⟨e, he, heInt⟩ := Double.ofInt?_of_toInt? hd
    have hread : Value.typedAs? .number (.int n) = (number? (.int n)).map (ofDouble true) := rfl
    rw [hread, number?, he]
    exact congrArg Except.ok (ofDouble_of_toInt? heInt)
  | @fraction d hnan hint =>
    have hread : Value.typedAs? .number (.float d) = .ok (ofDouble true d) := rfl
    rw [hread, ofDouble, hnan, hint]
    rfl
  | @decimal d hnan =>
    have hread : Value.typedAs? .decimal (.float d) = .ok (ofDouble false d) := rfl
    rw [hread, ofDouble, hnan]
    rfl
  | moment m => rfl

theorem typedItems?_of_forall {items : List Value} (h : ∀ v ∈ items, v.typedAs? type = .ok v) :
    typedItems? type items = .ok items := by
  induction items with
  | nil => rfl
  | cons v rest ih =>
    obtain ⟨hv, hrest⟩ := List.forall_mem_cons.1 h
    rw [typedItems?, hv, ok_bind, ih hrest]
    rfl

theorem IsTyped.typedAs? (h : IsTyped type v) : v.typedAs? type = .ok v := by
  induction h with
  | item h => exact h.typedAs?
  | list _ ih =>
    rw [Value.typedAs?, typedItems?_of_forall ih]
    rfl

/-- The values that are read as themselves are the typed ones. -/
theorem typedAs?_eq_self_iff : v.typedAs? type = .ok v ↔ IsTyped type v :=
  ⟨fun h => (typedAs?_readsAs h).isTyped, IsTyped.typedAs?⟩

/-! ## Equality -/

theorem IsTypedItem.same_self (h : IsTypedItem type v) : v.same v = true := by
  have hdouble : ∀ {d : Double}, d.isNaN = false → (Value.float d).same (.float d) = true := by
    intro d hnan
    cases d with
    | nan => cases hnan
    | infinite negative => simp [same, Double.eq, Double.place]
    | finite negative units fits => simp [same, Double.eq, Double.place]
  cases h with
  | null => rfl
  | integer => simp [same]
  | fraction hnan => exact hdouble hnan
  | decimal hnan => exact hdouble hnan
  | moment m => simp [same, Value.moment, Timestamp.same]

theorem sameAll_self {items : List Value} (h : ∀ v ∈ items, v.same v = true) :
    sameAll items items = true := by
  induction items with
  | nil => rfl
  | cons v rest ih =>
    obtain ⟨hv, hrest⟩ := List.forall_mem_cons.1 h
    rw [sameAll, hv, ih hrest]
    rfl

/-- A typed value holds no NaN, and so it is the same as itself. -/
theorem IsTyped.same_self (h : IsTyped type v) : v.same v = true := by
  induction h with
  | item h => exact h.same_self
  | list _ ih =>
    rw [same]
    exact sameAll_self ih

/-! ## The projection -/

/-- A value that has a number, wherever one is asked for, is read by the type of a field. What is read is
typed, item by item, and read a second time as the same value; the values that are read as themselves
are the typed ones. -/
theorem typed?_projects (type : FieldType) {v : Value}
    (h : type.isNumeric = true → v.defiesNumber = false) :
    (∃ w, typed? (some type) v = .ok w ∧ ReadsAs type v w ∧
      typed? (some type) w = .ok w ∧ w.same w = true) ∧
    ∀ u, typed? (some type) u = .ok u ↔ IsTyped type u := by
  refine ⟨?_, fun u => typedAs?_eq_self_iff⟩
  have hread : ¬Fails (typedAs? type v) := fun hfails => by
    obtain ⟨hnumeric, hdefies⟩ := (typedAs?_fails type v).1 hfails
    rw [h hnumeric] at hdefies
    cases hdefies
  obtain ⟨w, hw⟩ := not_fails_iff.1 hread
  have hreads := typedAs?_readsAs hw
  exact ⟨w, hw, hreads, hreads.isTyped.typedAs?, hreads.isTyped.same_self⟩

/-- A tuple with a text that writes a number, a boolean, a moment, and a list of a NaN, an integer that
is no double, an infinity and an object. -/
def mixedOperand : Value := .tuple [.text " 1984 ", .bool true, .moment .epoch,
  .list [.float .nan, .int 9007199254740993, .float (.infinite true), .object []]]

/-- The mixed operand is read on a field of integers, one item for one, and its text as the integer
that it writes; a clock that shows the first hour of the calendar ahead of UTC is read as no moment. -/
theorem mixedOperand_projects :
    ((FieldType.number.isNumeric = true → mixedOperand.defiesNumber = false) ∧
      ∃ ws, typed? (some .number) mixedOperand = .ok (.list (.int 1984 :: ws)) ∧ ws.length = 3 ∧
        typed? (some .number) (.list (.int 1984 :: ws)) = .ok (.list (.int 1984 :: ws))) ∧
    ((FieldType.date.isNumeric = true → (Value.null).defiesNumber = false) ∧
      typed? (some .date) (.stamp ⟨.ofDate .first, Offset.of? 3600000000⟩) = .ok .null ∧
      typed? (some .date) .null = .ok .null) := by
  have hmixed : FieldType.number.isNumeric = true → mixedOperand.defiesNumber = false := fun _ => by
    decide +kernel
  have hdate : FieldType.date.isNumeric = true → (Value.null).defiesNumber = false := fun _ => rfl
  obtain ⟨⟨w, hw, hreads, hagain, -⟩, -⟩ := typed?_projects .number hmixed
  obtain ⟨-, hfixed⟩ := typed?_projects .date hdate
  have htext : typedAs? .number (.text " 1984 ") = .ok (.int 1984) :=
    congrArg Except.ok (ofDouble_of_toInt? (by decide +kernel))
  have hoffset : Timestamp.toUtc? ⟨.ofDate .first, Offset.of? 3600000000⟩ = none := by decide +kernel
  refine ⟨⟨hmixed, ?_⟩, hdate, ?_, (hfixed .null).2 (.item (.null .date))⟩
  · obtain ⟨_, hws, rfl⟩ := Json.except_map_eq_ok hw
    obtain ⟨_, hfirst, hws⟩ := except_bind_eq_ok hws
    obtain ⟨ws, -, rfl⟩ := Json.except_map_eq_ok hws
    cases hfirst.symm.trans htext
    refine ⟨ws, hw, ?_, hagain⟩
    cases hreads with
    | item hsingle _ => cases hsingle
    | tuple hall => exact Nat.succ.inj hall.length_eq
  · show Except.ok (typedDate (.stamp _)) = _
    rw [typedDate, hoffset]
    rfl

end Value

end ShelfRules
