import ShelfRules.Proofs.CanonicalFilters

/-!
# Filters that are saved again

Loading and saving a filter loses what does not fit: operands that are no numbers, times of day,
nulls in lists, unknown joins. All that is lost is lost at once: the text that is written the first
time is written again from then on.

Results:
* `Value.typed?_withoutNulls`: what was read as numbers is read as itself, without its nulls.
* `Value.settles_of_typed?`, `Value.settles_asTuple`: the stored form of an operand is stored again.
* `Node.ofDocument_rules`: what holds of the rules that are read holds of the rules of a tree.
* `Group.saved_again`: the text of a loaded filter is the text of the filter that is read from it.
-/

namespace ShelfRules

/-! ## Leaving out nulls again -/

namespace Value

theorem isNull_withoutNulls (v : Value) : v.withoutNulls.isNull = v.isNull := by
  cases v <;> rfl

mutual
theorem withoutNulls_withoutNulls : ∀ v : Value, v.withoutNulls.withoutNulls = v.withoutNulls
  | .null | .bool _ | .int _ | .float _ | .text _ | .date _ | .stamp _ | .status _ => rfl
  | .list items | .tuple items => by
    rw [withoutNulls, withoutNulls, itemsWithoutNulls_itemsWithoutNulls items]
  | .object entries => by
    rw [withoutNulls, withoutNulls, entriesWithoutNulls_entriesWithoutNulls entries]
theorem itemsWithoutNulls_itemsWithoutNulls : ∀ items : List Value,
    itemsWithoutNulls (itemsWithoutNulls items) = itemsWithoutNulls items
  | [] => rfl
  | v :: rest => by
    have hv := withoutNulls_withoutNulls v
    have hrest := itemsWithoutNulls_itemsWithoutNulls rest
    rw [itemsWithoutNulls_cons]
    split
    · exact hrest
    · rename_i h
      rw [itemsWithoutNulls_cons, isNull_withoutNulls, if_neg h, hv, hrest]
theorem entriesWithoutNulls_entriesWithoutNulls : ∀ entries : List (String × Value),
    entriesWithoutNulls (entriesWithoutNulls entries) = entriesWithoutNulls entries
  | [] => rfl
  | (k, v) :: rest => by
    have hv := withoutNulls_withoutNulls v
    have hrest := entriesWithoutNulls_entriesWithoutNulls rest
    rw [entriesWithoutNulls_cons]
    split
    · exact hrest
    · rename_i h
      rw [entriesWithoutNulls_cons, isNull_withoutNulls, if_neg h, hv, hrest]
end

/-! ## Operands without timestamps -/

variable {type : Option FieldType} {v w : Value}

/-- A loaded value without timestamps is stored as it is. -/
theorem stored_of_no_stamp (h : v.isLoaded = true) (hs : v.holdsStamp = false) :
    v.stored type = v := by
  cases v with
  | stamp => cases hs
  | tuple | date | status => cases h
  | _ => rfl

/-- What is made of a double is read as what it is. -/
theorem typedAs?_ofDouble {type : FieldType} {integral : Bool} {d : Double}
    (hread : ∀ v, (∀ b, v ≠ .bool b) → typedItem? type v = v.number?.map (ofDouble integral)) :
    typedAs? type (ofDouble integral d) = .ok (ofDouble integral d) := by
  cases hnan : d.isNaN with
  | true =>
    rw [ofDouble, hnan, if_pos rfl]
    rfl
  | false =>
    have hfloat : ofDouble integral d = .float d →
        typedAs? type (ofDouble integral d) = .ok (ofDouble integral d) := fun h => by
      have hitem : typedAs? type (.float d) = .ok (ofDouble integral d) :=
        hread (.float d) (by simp)
      rw [h, hitem, h]
    cases hint : if integral then d.toInt? else none with
    | none =>
      refine hfloat ?_
      rw [ofDouble, hnan, if_neg Bool.false_ne_true]
      split
      · rw [if_pos ‹_›] at hint
        rw [hint]
        rfl
      · rfl
    | some n =>
      obtain ⟨rfl, hd⟩ : integral = true ∧ d.toInt? = some n := by
        cases integral with
        | false => cases hint
        | true => exact ⟨rfl, hint⟩
      obtain ⟨e, he, heInt⟩ := Double.ofInt?_of_toInt? hd
      have hitem : typedAs? type (.int n) = (number? (.int n)).map (ofDouble true) :=
        hread (.int n) (by simp)
      rw [ofDouble_of_toInt? hd, hitem, number?, he]
      exact congrArg Except.ok (ofDouble_of_toInt? heInt)

/-- A single value is read as null, as a moment or as what is made of a double. -/
theorem typedItem?_cases {type : FieldType} (h : typedItem? type v = .ok w) :
    w = .null ∨ (type = .date ∧ ∃ m, w = .moment m) ∨ ∃ integral d, w = ofDouble integral d ∧
      ∀ v, (∀ b, v ≠ .bool b) → typedItem? type v = v.number?.map (ofDouble integral) := by
  by_cases hnumeric : type.isNumeric = true
  · obtain ⟨integral, hread⟩ := typedItem?_numeric hnumeric
    by_cases hbool : ∃ b, v = .bool b
    · obtain ⟨b, rfl⟩ := hbool
      refine .inl ?_
      cases type with
      | date => cases hnumeric
      | _ => exact (Except.ok.inj h).symm
    · rw [hread v (fun b hv => hbool ⟨b, hv⟩)] at h
      obtain ⟨d, -, rfl⟩ := Json.except_map_eq_ok h
      exact .inr (.inr ⟨integral, d, rfl, hread⟩)
  · obtain rfl : type = .date := by
      cases type with
      | date => rfl
      | _ => exact absurd rfl hnumeric
    cases h
    cases v with
    | date d => exact .inr (.inl ⟨rfl, _, rfl⟩)
    | stamp t => cases ht : t.toUtc? <;> simp [typedDate, ht]
    | text s => cases hs : Moment.ofText? s <;> simp [typedDate, dateOfText, hs]
    | _ => exact .inl rfl

/-- A single value that was read and is no timestamp is read as what it is. -/
theorem typedAs?_typedItem? {type : FieldType} (h : typedItem? type v = .ok w)
    (hw : w.holdsStamp = false) : typedAs? type w = .ok w := by
  rcases typedItem?_cases h with rfl | ⟨-, m, rfl⟩ | ⟨integral, d, rfl, hread⟩
  · rfl
  · cases hw
  · exact typedAs?_ofDouble hread

/-- A single value that was read holds nothing. -/
theorem withoutNulls_typedItem? {type : FieldType} (h : typedItem? type v = .ok w) :
    w.withoutNulls = w := by
  rcases typedItem?_cases h with rfl | ⟨-, m, rfl⟩ | ⟨integral, d, rfl, -⟩
  · rfl
  · rfl
  · unfold ofDouble
    split
    · rfl
    · split
      · cases d.toInt? <;> rfl
      · rfl

mutual
/-- What was read by a type and holds no timestamp is read as what it is without its nulls. -/
theorem typedAs?_withoutNulls {type : FieldType} : ∀ {v w : Value}, typedAs? type v = .ok w →
    w.holdsStamp = false → typedAs? type w.withoutNulls = .ok w.withoutNulls
  | .null, _, h, _ => by cases h; rfl
  | .list items, _, h, hw | .tuple items, _, h, hw => by
    obtain ⟨ws, hws, rfl⟩ := Json.except_map_eq_ok h
    rw [withoutNulls, typedAs?, typedItems?_withoutNulls hws hw]
    rfl
  | .bool _, w, h, hw | .int _, w, h, hw | .float _, w, h, hw | .text _, w, h, hw
  | .object _, w, h, hw | .date _, w, h, hw | .stamp _, w, h, hw | .status _, w, h, hw => by
    rw [withoutNulls_typedItem? h]
    exact typedAs?_typedItem? h hw
theorem typedItems?_withoutNulls {type : FieldType} : ∀ {items ws : List Value},
    typedItems? type items = .ok ws → anyHoldsStamp ws = false →
      typedItems? type (itemsWithoutNulls ws) = .ok (itemsWithoutNulls ws)
  | [], _, h, _ => by cases h; rfl
  | v :: rest, ws, h, hw => by
    rw [typedItems?] at h
    obtain ⟨w, hv, h⟩ := except_bind_eq_ok h
    obtain ⟨ws', hrest, rfl⟩ := Json.except_map_eq_ok h
    rw [anyHoldsStamp, Bool.or_eq_false_iff] at hw
    have hws := typedItems?_withoutNulls hrest hw.2
    rw [itemsWithoutNulls_cons]
    split
    · exact hws
    · rw [typedItems?, typedAs?_withoutNulls hv hw.1, ok_bind, hws]
      rfl
end

/-- What was read and holds no timestamp is read as what it is without its nulls. -/
theorem typed?_withoutNulls (h : typed? type v = .ok w) (hw : w.holdsStamp = false) :
    typed? type w.withoutNulls = .ok w.withoutNulls := by
  cases type with
  | none => rfl
  | some type => exact typedAs?_withoutNulls h hw

/-! ## Operands that settle -/

/-- What is read from the stored form of the operand has the same stored form. -/
def Settles (type : Option FieldType) (v : Value) : Prop :=
  ∃ w, typed? type (v.stored type).withoutNulls = .ok w ∧
    (w.stored type).withoutNulls = (v.stored type).withoutNulls

/-- The value is a timestamp before the year 1000. -/
def isEarly : Value → Bool
  | .stamp t => t.wall.date.year < 1000
  | _ => false

/-- A loaded value that hides no timestamp is one, or holds none. -/
theorem stamp_or_no_stamp (h : v.isLoaded = true) (hs : v.hidesStamp = false) :
    (∃ t, v = .stamp t) ∨ v.holdsStamp = false := by
  cases v with
  | stamp t => exact .inl ⟨t, rfl⟩
  | tuple => cases h
  | _ => exact .inr hs

/-- A timestamp that was read from a document is a moment on a field of dates. -/
theorem eq_moment_of_typed? {t : Timestamp} (hv : v.isDocument = true)
    (h : typed? type v = .ok (.stamp t)) : type = some .date ∧ ∃ m, t = .naive m := by
  cases type with
  | none =>
    cases h
    cases hv
  | some type =>
    have hitem : typedItem? type v = .ok (.stamp t) →
        some type = some .date ∧ ∃ m, t = .naive m := by
      intro h
      rcases typedItem?_cases h with hnull | ⟨rfl, m, hm⟩ | ⟨integral, d, hd, -⟩
      · cases hnull
      · cases hm
        exact ⟨rfl, m, rfl⟩
      · unfold ofDouble at hd
        split at hd
        · cases hd
        · split at hd
          · cases hint : d.toInt? <;> rw [hint] at hd <;> cases hd
          · cases hd
    cases v with
    | null => cases h
    | list items | tuple items =>
      obtain ⟨ws, -, hws⟩ := Json.except_map_eq_ok h
      cases hws
    | _ => exact hitem h

/-- A bound of a range that was read from a document settles, unless it hides a timestamp or comes
before the year 1000. -/
theorem settles_of_typed? (hv : v.isDocument = true) (h : typed? type v = .ok w)
    (hhides : w.hidesStamp = false) (hearly : w.isEarly = false) : Settles type w := by
  have hloaded := typed?_isLoaded hv h
  rcases stamp_or_no_stamp hloaded hhides with ⟨t, rfl⟩ | hs
  · obtain ⟨rfl, m, rfl⟩ := eq_moment_of_typed? hv h
    have hyear : 1000 ≤ m.date.year := not_lt.1 (of_decide_eq_false hearly)
    have hstored : ∀ m : Moment, stored (some .date) (.stamp (.naive m)) =
        .text (String.ofList m.date.shortChars) := fun m => rfl
    refine ⟨.moment (.ofDate m.date), ?_, ?_⟩
    · rw [hstored]
      show Except.ok (dateOfText (.text (String.ofList m.date.shortChars))) = _
      rw [dateOfText, Moment.ofText?_shortChars hyear]
      rfl
    · rw [moment, hstored, hstored]
      rfl
  · have hwithout : w.withoutNulls.stored type = w.withoutNulls :=
      stored_of_no_stamp (withoutNulls_isLoaded hloaded) ((withoutNulls_holds w).1.trans hs)
    refine ⟨w.withoutNulls, ?_, ?_⟩
    · rw [stored_of_no_stamp hloaded hs, typed?_withoutNulls h hs]
    · rw [hwithout, stored_of_no_stamp hloaded hs, withoutNulls_withoutNulls]

/-- Operands that settle settle as the items of a list. -/
theorem settles_tuple {items : List Value} (h : ∀ v ∈ items, Settles type v) :
    ∃ ws, typed? type (.list (itemsWithoutNulls (storedItems type items))) = .ok (.list ws) ∧
      itemsWithoutNulls (storedItems type ws) = itemsWithoutNulls (storedItems type items) := by
  induction items with
  | nil => exact ⟨[], by cases type <;> rfl, rfl⟩
  | cons v rest ih =>
    obtain ⟨⟨w, hw, hstored⟩, hrest⟩ := List.forall_mem_cons.1 h
    obtain ⟨ws, hws, hstoreds⟩ := ih hrest
    rw [storedItems, itemsWithoutNulls_cons]
    split
    · exact ⟨ws, hws, hstoreds⟩
    · rename_i hnull
      have hnull' : (w.stored type).isNull = (v.stored type).isNull := by
        rw [← isNull_withoutNulls, hstored, isNull_withoutNulls]
      refine ⟨w :: ws, typed?_list_cons hw hws, ?_⟩
      rw [storedItems, itemsWithoutNulls_cons, hnull', if_neg hnull, hstored, hstoreds]

/-- The items of a list are read one by one. -/
theorem typed?_list_eq_ok {vs : List Value} (h : typed? type (.list vs) = .ok w) :
    ∃ ws, w = .list ws ∧ ∀ w ∈ ws, ∃ v ∈ vs, typed? type v = .ok w := by
  cases type with
  | none =>
    cases h
    exact ⟨vs, rfl, fun v hv => ⟨v, hv, rfl⟩⟩
  | some type =>
    obtain ⟨ws, hws, rfl⟩ := Json.except_map_eq_ok h
    refine ⟨ws, rfl, ?_⟩
    clear h
    induction vs generalizing ws with
    | nil =>
      cases hws
      exact nofun
    | cons v rest ih =>
      obtain ⟨w, hw, hws⟩ := except_bind_eq_ok hws
      obtain ⟨ws', hws', rfl⟩ := Json.except_map_eq_ok hws
      refine List.forall_mem_cons.2 ⟨⟨v, List.mem_cons_self, hw⟩, fun w hmem => ?_⟩
      obtain ⟨v, hv, hread⟩ := ih ws' hws' w hmem
      exact ⟨v, List.mem_cons_of_mem _ hv, hread⟩

/-- What is no list is read as no list. -/
theorem isSingle_of_typed? (hv : v.isSingle = true) (h : typed? type v = .ok w) :
    w.isSingle = true := by
  cases type with
  | none =>
    cases h
    exact hv
  | some type =>
    have hitem : typedItem? type v = .ok w → w.isSingle = true := by
      intro h
      rcases typedItem?_cases h with rfl | ⟨-, m, rfl⟩ | ⟨integral, d, rfl, -⟩
      · rfl
      · rfl
      · unfold ofDouble
        split
        · rfl
        · split
          · cases d.toInt? <;> rfl
          · rfl
    cases v with
    | null =>
      cases h
      rfl
    | list | tuple => cases hv
    | _ => exact hitem h

/-- An operand with the stored form of one that is no list is no list. -/
theorem asTuple_of_stored (hv : v.isLoaded = true) (hsingle : v.isSingle = true)
    (h : (w.stored type).withoutNulls = (v.stored type).withoutNulls) : w.asTuple = w := by
  cases w with
  | list items =>
    cases v with
    | stamp t =>
      obtain ⟨s, hs⟩ := storedDate_eq_text type t
      rw [stored, hs] at h
      cases h
    | list | tuple => cases hsingle
    | date | status => cases hv
    | _ => cases h
  | _ => rfl

/-- The value, or an item of the kept list that it is, is a timestamp before the year 1000. -/
def holdsEarly : Value → Bool
  | .tuple items => items.any isEarly
  | v => v.isEarly

theorem anyHidesStamp_eq_any (items : List Value) :
    anyHidesStamp items = items.any hidesStamp := by
  induction items with
  | nil => rfl
  | cons v rest ih => rw [anyHidesStamp, List.any_cons, ih]

/-- The value of a rule that was read from a document settles, unless it hides a timestamp or one of
its timestamps comes before the year 1000. -/
theorem settles_asTuple (hv : v.isDocument = true) (h : typed? type v = .ok w)
    (hhides : w.asTuple.hidesStamp = false) (hearly : w.asTuple.holdsEarly = false) :
    ∃ w', typed? type (w.asTuple.stored type).withoutNulls = .ok w' ∧
      (w'.asTuple.stored type).withoutNulls = (w.asTuple.stored type).withoutNulls := by
  have hloaded := typed?_isLoaded hv h
  by_cases hsingle : v.isSingle = true
  · have hw := isSingle_of_typed? hsingle h
    have hkept : w.asTuple = w ∧ (w.holdsEarly = false → w.isEarly = false) := by
      cases w with
      | list | tuple => cases hw
      | _ => exact ⟨rfl, id⟩
    rw [hkept.1] at hhides hearly ⊢
    obtain ⟨w', hw', hstored⟩ := settles_of_typed? hv h hhides (hkept.2 hearly)
    exact ⟨w', hw', (asTuple_of_stored hloaded hw hstored).symm ▸ hstored⟩
  · obtain ⟨vs, rfl⟩ : ∃ vs, v = .list vs := by
      cases v with
      | list vs => exact ⟨vs, rfl⟩
      | tuple => cases hv
      | _ => exact absurd rfl hsingle
    obtain ⟨ws, rfl, hitems⟩ := typed?_list_eq_ok h
    have hhides : ws.any hidesStamp = false := (anyHidesStamp_eq_any ws).symm.trans hhides
    have hsettles : ∀ w ∈ ws, Settles type w := fun w hw => by
      obtain ⟨v, hmem, hread⟩ := hitems w hw
      exact settles_of_typed? (isDocument_list.1 hv v hmem) hread
        (Bool.eq_false_iff.2 (List.any_eq_false.1 hhides w hw))
        (Bool.eq_false_iff.2 (List.any_eq_false.1 hearly w hw))
    obtain ⟨ws', hws', hstored⟩ := settles_tuple hsettles
    exact ⟨.list ws', hws', congrArg Value.list hstored⟩

/-- A loaded value without timestamps leaves a document. -/
theorem withoutNulls_isDocument (h : v.isLoaded = true) (hs : v.holdsStamp = false) :
    v.withoutNulls.isDocument = true := by
  rw [isDocument_eq, withoutNulls_isLoaded h, (withoutNulls_holds v).1, hs]
  rfl

/-- Which entries are left depends on what is left of their values. -/
theorem entriesWithoutNulls_congr {es fs : Entries}
    (h : List.Forall₂ (fun e f => e.1 = f.1 ∧ e.2.withoutNulls = f.2.withoutNulls) es fs) :
    entriesWithoutNulls es = entriesWithoutNulls fs := by
  induction h with
  | nil => rfl
  | @cons e f _ _ hef _ ih =>
    obtain ⟨k, v⟩ := e
    obtain ⟨k', v'⟩ := f
    obtain ⟨hk, hv⟩ := hef
    dsimp only at hk hv
    have hnull : v.isNull = v'.isNull := by
      rw [← isNull_withoutNulls, hv, isNull_withoutNulls]
    rw [entriesWithoutNulls_cons, entriesWithoutNulls_cons, hnull, hk, hv, ih]

end Value

/-! ## Rules -/

namespace Rule

/-- The values of the rule were read from documents by the type of its field. -/
structure IsRead (r : Rule) : Prop where
  value : ∃ v w : Value, v.isDocument = true ∧ v.typed? r.field.type = .ok w ∧ r.value = w.asTuple
  start : ∃ v : Value, v.isDocument = true ∧ v.typed? r.field.type = .ok r.start
  finish : ∃ v : Value, v.isDocument = true ∧ v.typed? r.field.type = .ok r.finish

/-- The rule holds a timestamp before the year 1000. -/
def isEarly (r : Rule) : Bool := r.value.holdsEarly || r.start.isEarly || r.finish.isEarly

variable {r : Rule}

/-- The rule of a document is read from documents. -/
theorem ofEntries?_isRead {entries : Entries} (he : (Value.object entries).isDocument = true)
    (h : ofEntries? entries = .ok r) : r.IsRead := by
  obtain ⟨-, -, ⟨_, hvalue, hv⟩, hstart, hfinish⟩ := ofEntries?_eq_ok h
  exact ⟨⟨_, _, Value.get_isDocument he _, hvalue, hv⟩, ⟨_, Value.get_isDocument he _, hstart⟩,
    ⟨_, Value.get_isDocument he _, hfinish⟩⟩

/-- What is read from the stored form of a rule that was read has the same stored form, unless the
rule hides a timestamp or holds one before the year 1000. -/
theorem settles (hr : r.IsRead) (hhides : r.hidesStamp = false) (hearly : r.isEarly = false) :
    ∃ r', ofEntries? r.storedEntries = .ok r' ∧ r'.storedEntries = r.storedEntries := by
  obtain ⟨⟨v, w, hv, hw, hvalue⟩, ⟨s, hs, hstart⟩, ⟨e, he, hfinish⟩⟩ := hr
  simp only [hidesStamp, isEarly, Bool.or_eq_false_iff] at hhides hearly
  obtain ⟨⟨hvh, hsh⟩, heh⟩ := hhides
  obtain ⟨⟨hve, hse⟩, hee⟩ := hearly
  rw [hvalue] at hvh hve
  obtain ⟨value, hvalue', hvs⟩ := Value.settles_asTuple hv hw hvh hve
  obtain ⟨start, hstart', hss⟩ := Value.settles_of_typed? hs hstart hsh hse
  obtain ⟨finish, hfinish', hfs⟩ := Value.settles_of_typed? he hfinish heh hee
  have hlong : ∀ {v w : Value}, v.isLoaded = true → v.holdsStamp = false →
      v.withoutNulls.typed? r.field.type = .ok w → w.holdsLongInteger = false := fun h hs hread =>
    Value.holdsLongInteger_of_isLoaded
      (Value.typed?_isLoaded (Value.withoutNulls_isDocument h hs) hread)
  obtain ⟨hvl, hvd⟩ := Value.stored_asTuple_isLoaded r.field.type (Value.typed?_isLoaded hv hw)
  obtain ⟨hsl, hsd⟩ := Value.stored_isLoaded r.field.type (Value.typed?_isLoaded hs hstart)
  obtain ⟨hfl, hfd⟩ := Value.stored_isLoaded r.field.type (Value.typed?_isLoaded he hfinish)
  obtain ⟨r', hr', hf', ho', hv', hs', he'⟩ :=
    ofEntries?_of_typed? (r := r) (hvalue ▸ hvalue') hstart' hfinish'
      ⟨hlong hvl (hvd.trans hvh) hvalue', hlong hsl (hsd.trans hsh) hstart',
        hlong hfl (hfd.trans heh) hfinish'⟩
  refine ⟨r', hr', Value.entriesWithoutNulls_congr ?_⟩
  rw [entries, entries, hf', ho', hv', hs', he', hvalue]
  exact .cons ⟨rfl, rfl⟩ (.cons ⟨rfl, rfl⟩ (.cons ⟨rfl, hvs⟩ (.cons ⟨rfl, hss⟩
    (.cons ⟨rfl, hfs⟩ .nil))))

end Rule

/-! ## Trees -/

namespace Node

mutual
/-- The names of the groups are texts. -/
def isNamed : Node → Bool
  | rule _ => true
  | group (.text _) _ children => areNamed children
  | group .. => false
/-- The names of the groups in the nodes are texts. -/
def areNamed : List Node → Bool
  | [] => true
  | node :: rest => node.isNamed && areNamed rest
end

theorem isNamed_group {name : Value} {join : Join} {children : List Node}
    (h : (group name join children).isNamed = true) :
    (∃ s, name = .text s) ∧ areNamed children = true := by
  cases name with
  | text s => exact ⟨⟨s, rfl⟩, h⟩
  | _ => cases h

mutual
/-- What holds of every rule that is read from a document holds of the rules of a tree that is. -/
theorem ofDocument_rules {P : Rule → Prop}
    (hP : ∀ entries r, (Value.object entries).isDocument = true →
      Rule.ofEntries? entries = .ok r → P r) : ∀ {v : Value} {node : Node}, v.isDocument = true →
    (ofDocument v).result = .ok node → ∀ r ∈ node.rules, P r
  | .object entries, node, hv, h => by
    rw [ofDocument] at h
    split at h
    · obtain ⟨children, hchildren, h⟩ := Report.bind_eq_ok h
      obtain ⟨g, hg, h⟩ := Report.bind_eq_ok h
      obtain ⟨join, hgroup⟩ := groupOf_eq entries children
      cases hgroup.symm.trans hg
      cases h
      exact childrenOf_rules hP (Value.isDocument_of_mem_entries hv) hchildren
    · obtain ⟨r, hr, h⟩ := Report.bind_eq_ok h
      cases h
      exact List.forall_mem_singleton.2 (hP _ _ hv hr)
  | .null, _, _, h | .bool _, _, _, h | .int _, _, _, h | .float _, _, _, h | .text _, _, _, h
  | .list _, _, _, h | .tuple _, _, _, h | .date _, _, _, h | .stamp _, _, _, h
  | .status _, _, _, h => nomatch h
theorem childrenOf_rules {P : Rule → Prop}
    (hP : ∀ entries r, (Value.object entries).isDocument = true →
      Rule.ofEntries? entries = .ok r → P r) :
      ∀ {entries : List (String × Value)} {children : List Node},
    (∀ e ∈ entries, e.2.isDocument = true) → (childrenOf entries).result = .ok children →
      ∀ r ∈ rulesOf children, P r
  | [], _, _, h => by cases h; exact List.forall_mem_nil P
  | (key, v) :: rest, children, he, h => by
    obtain ⟨hv, hrest⟩ := List.forall_mem_cons.1 he
    rw [childrenOf] at h
    split at h
    · exact ofList_rules hP hv h
    · exact childrenOf_rules hP hrest h
theorem ofList_rules {P : Rule → Prop}
    (hP : ∀ entries r, (Value.object entries).isDocument = true →
      Rule.ofEntries? entries = .ok r → P r) :
      ∀ {v : Value} {children : List Node}, v.isDocument = true →
    (ofList v).result = .ok children → ∀ r ∈ rulesOf children, P r
  | .list _, _, hv, h => ofItems_rules hP (Value.isDocument_list.1 hv) h
  | .null, _, _, h | .bool _, _, _, h | .int _, _, _, h | .float _, _, _, h | .text _, _, _, h
  | .object _, _, _, h | .tuple _, _, _, h | .date _, _, _, h | .stamp _, _, _, h
  | .status _, _, _, h => nomatch h
theorem ofItems_rules {P : Rule → Prop}
    (hP : ∀ entries r, (Value.object entries).isDocument = true →
      Rule.ofEntries? entries = .ok r → P r) : ∀ {items : List Value} {nodes : List Node},
    (∀ v ∈ items, v.isDocument = true) → (ofItems items).result = .ok nodes →
      ∀ r ∈ rulesOf nodes, P r
  | [], _, _, h => by cases h; exact List.forall_mem_nil P
  | v :: rest, nodes, hv, h => by
    obtain ⟨hv, hrest⟩ := List.forall_mem_cons.1 hv
    rw [ofItems] at h
    obtain ⟨node, hnode, h⟩ := Report.bind_eq_ok h
    obtain ⟨nodes', hnodes, h⟩ := Report.bind_eq_ok h
    cases h
    exact List.forall_mem_append.2 ⟨ofDocument_rules hP hv hnode, ofItems_rules hP hrest hnodes⟩
end

mutual
/-- A tree whose groups are named by texts and whose rules are read back with the stored forms that they
have is read back with the stored form that it has. -/
theorem Again.settles : ∀ {node node' : Node},
    Again (fun r r' => r'.storedEntries = r.storedEntries) node node' → node.isNamed = true →
      node'.document.withoutNulls = node.document.withoutNulls
  | rule _, _, h, _ => by
    cases h with
    | rule h => exact congrArg Value.object h
  | group name join children, _, h, hnamed => by
    obtain ⟨⟨s, rfl⟩, hchildren⟩ := isNamed_group hnamed
    cases h with
    | group h =>
      rw [nameAgain_text, document, document, Value.withoutNulls, Value.withoutNulls]
      simp only [Value.entriesWithoutNulls, Value.withoutNulls, AllAgain.settle h hchildren]
theorem AllAgain.settle : ∀ {nodes nodes' : List Node},
    AllAgain (fun r r' => r'.storedEntries = r.storedEntries) nodes nodes' →
      areNamed nodes = true →
      Value.itemsWithoutNulls (documents nodes') = Value.itemsWithoutNulls (documents nodes)
  | [], _, h, _ => by
    cases h
    rfl
  | node :: rest, _, h, hnamed => by
    obtain ⟨hnode, hrest⟩ := Bool.and_eq_true_iff.1 hnamed
    cases h with
    | cons h hs =>
      rw [itemsWithoutNulls_documents_cons, itemsWithoutNulls_documents_cons,
        Again.settles h hnode, AllAgain.settle hs hrest]
end

end Node

/-! ## Filters -/

namespace Group

/-- The rules of a filter that is read from a text are read from documents. -/
theorem ofText_rules {t : String} {g : Group} (h : (ofText t).result = .ok g) :
    ∀ r ∈ g.rules, r.IsRead := by
  unfold ofText at h
  split at h
  · rename_i v hv
    have hdocument := Json.parseWith_isDocument hv
    cases v with
    | object entries =>
      obtain ⟨children, hchildren, hg⟩ := Report.bind_eq_ok h
      obtain ⟨join, hgroup⟩ := Node.groupOf_eq entries children
      cases hgroup.symm.trans hg
      exact Node.childrenOf_rules (fun _ _ => Rule.ofEntries?_isRead)
        (Value.isDocument_of_mem_entries hdocument) hchildren
    | _ => cases h
  · cases h

/-- The text of a filter that was loaded is written again once it is loaded again: whatever the
first text held that does not fit, all that is lost of it is lost at once. The groups have to be
named by texts (what counts as no name is read as a blank one), and no rule may hold a timestamp
before the year 1000. -/
theorem saved_again {t u : String} {g : Group} (h : (ofText t).result = .ok g)
    (hu : g.text? = .ok u) (hnamed : g.toNode.isNamed = true)
    (hearly : ∀ r ∈ g.rules, r.isEarly = false) :
    ∃ g', (ofText u).result = .ok g' ∧ g'.text? = .ok u := by
  have hloaded := ofText_isLoaded h
  have hhides : ∀ r ∈ g.rules, r.hidesStamp = false := by
    rw [text?_of_isLoaded hloaded] at hu
    cases hany : g.rules.any Rule.hidesStamp with
    | true => simp [hany] at hu
    | false => simpa using hany
  obtain ⟨g', hg', hagain⟩ := again_of_rules fun r hr =>
    Rule.settles (ofText_rules h r hr) (hhides r hr) (hearly r hr)
  have hstored : g'.document = g.document := hagain.settles hnamed
  refine ⟨g', ?_, ?_⟩
  · rw [ofText_of_text? hloaded hu, hg']
    rfl
  · rw [text?, hstored]
    exact hu

/-- The text of a filter of which much does not fit: a join that is unknown, a day with a time, a
bound that is no day, and a null and a list among numbers. -/
def misfits : String :=
  "\x7b\"join\": \"xor\", \"rules\": [\x7b\"field\": \"publishedDate\", " ++
    "\"valueStart\": \"2020-05-01T10:30\", \"valueEnd\": \"soon\"\x7d, " ++
    "\x7b\"field\": \"pageCount\", \"value\": [1, null, []]\x7d]\x7d"

/-- The text that is written of the filter with misfits is written again. -/
theorem misfits_saved_again : ∃ g u, (ofText misfits).result = .ok g ∧ g.text? = .ok u ∧
    g.toNode.isNamed = true ∧ (∀ r ∈ g.rules, r.isEarly = false) ∧
    ∃ g', (ofText u).result = .ok g' ∧ g'.text? = .ok u := by
  have hmisfits : (match (ofText misfits).result with
    | .ok g => g.toNode.isNamed && g.rules.all fun r => !r.isEarly && !r.hidesStamp
    | .error _ => false) = true := by decide +kernel
  split at hmisfits
  · rename_i g hg
    rw [Bool.and_eq_true, List.all_eq_true] at hmisfits
    obtain ⟨hnamed, hrules⟩ := hmisfits
    simp only [Bool.and_eq_true, Bool.not_eq_true'] at hrules
    have hearly : ∀ r ∈ g.rules, r.isEarly = false := fun r hr => (hrules r hr).1
    have hhides : g.rules.any Rule.hidesStamp = false := by simpa using fun r hr => (hrules r hr).2
    have hu : g.text? = .ok (String.ofList (Json.compact g.document)) := by
      rw [text?_of_isLoaded (ofText_isLoaded hg), hhides, if_neg Bool.false_ne_true]
    exact ⟨g, _, hg, hu, hnamed, hearly, saved_again hg hu hnamed hearly⟩
  · cases hmisfits

end Group

end ShelfRules
