import ShelfRules.Proofs.ResavedFilters

/-!
# Leaving out nulls

A value is a list, an object or a scalar, and has contents: the items of a list in order, and the entries
of an object in order under their keys. Leaving out the nulls keeps all other contents in their places,
containers that become empty among them. The outline of a value tells all that is not null in it, with
the keys that lead there; it stays the same, and there is one value only without nulls and tuples that
has it. The nodes of a filter are never null, so each of them has its object in the stored form.

Results:
* `Value.induction_contents`: what follows for a value from its contents holds of all values.
* `Value.contents_withoutNulls`, `Value.outline_withoutNulls`: what is left of the contents and the outline.
* `Value.eq_of_outline_eq`: values without nulls and tuples are told apart by their outlines.
* `Value.withoutNulls_eq_untupled_iff`: when nothing is left out.
* `Node.objectsIn_document`: the objects of a stored tree are those of its nodes.
* `Group.nulls_left_out`: values and stored filters without their nulls.
-/

namespace ShelfRules

namespace Value

/-! ## Contents -/

/-- What a value is apart from its contents; a tuple is like a list. -/
inductive Frame where
  | list
  | object
  | scalar (v : Value)

/-- The frame of a value. -/
def frame : Value → Frame
  | .list _ | .tuple _ => .list
  | .object _ => .object
  | v => .scalar v

/-- What stands in a value: the items of a list, and the entries of an object under their keys. -/
def contents : Value → List (Option String × Value)
  | .list items | .tuple items => items.map (none, ·)
  | .object entries => entries.map fun e => (some e.1, e.2)
  | _ => []

/-- The value is a tuple. -/
def isTuple : Value → Bool
  | .tuple _ => true
  | _ => false

theorem sizeOf_contents {v : Value} {c : Option String × Value} (h : c ∈ v.contents) :
    sizeOf c.2 < sizeOf v := by
  cases v with
  | list items | tuple items =>
    obtain ⟨w, hw, rfl⟩ := List.mem_map.1 h
    have hsize := List.sizeOf_lt_of_mem hw
    simp only [list.sizeOf_spec, tuple.sizeOf_spec]
    omega
  | object entries =>
    obtain ⟨⟨k, w⟩, hw, rfl⟩ := List.mem_map.1 h
    have hsize := List.sizeOf_lt_of_mem hw
    simp only [object.sizeOf_spec, Prod.mk.sizeOf_spec] at hsize ⊢
    omega
  | _ => cases h

/-- What holds of a value when it holds of its contents holds of all values. -/
theorem induction_contents {P : Value → Prop} (h : ∀ v, (∀ c ∈ v.contents, P c.2) → P v)
    (v : Value) : P v :=
  h v fun c _ => induction_contents h c.2
termination_by sizeOf v
decreasing_by exact sizeOf_contents ‹_›

/-- A value is told by its frame and its contents when it is no tuple. -/
theorem ext_contents {v w : Value} (hv : v.isTuple = false) (hw : w.isTuple = false)
    (hframe : v.frame = w.frame) (hcontents : v.contents = w.contents) : v = w := by
  have hitem : Function.Injective fun v : Value => (none (α := String), v) :=
    fun _ _ h => (Prod.mk.inj h).2
  have hentry : Function.Injective fun e : String × Value => (some e.1, e.2) := fun _ _ h =>
    Prod.ext (Option.some.inj (Prod.mk.inj h).1) (Prod.mk.inj h).2
  cases v <;> cases w <;> simp_all [frame, contents, isTuple]
  · exact List.map_injective_iff.2 hitem hcontents
  · exact List.map_injective_iff.2 hentry hcontents

/-! ## Nulls and tuples in a value -/

mutual
/-- There is a null in the value, at any depth. -/
def holdsNull : Value → Bool
  | .null => true
  | .list items | .tuple items => anyHoldsNull items
  | .object entries => anyEntryHoldsNull entries
  | .bool _ | .int _ | .float _ | .text _ | .date _ | .stamp _ | .status _ => false
/-- There is a null in one of the items. -/
def anyHoldsNull : List Value → Bool
  | [] => false
  | v :: rest => v.holdsNull || anyHoldsNull rest
/-- There is a null under one of the keys. -/
def anyEntryHoldsNull : List (String × Value) → Bool
  | [] => false
  | (_, v) :: rest => v.holdsNull || anyEntryHoldsNull rest
end

mutual
/-- The value with a list in the place of each tuple, at any depth. -/
def untupled : Value → Value
  | .list items | .tuple items => .list (untupledItems items)
  | .object entries => .object (untupledEntries entries)
  | v => v
/-- The items with lists in the places of tuples. -/
def untupledItems : List Value → List Value
  | [] => []
  | v :: rest => v.untupled :: untupledItems rest
/-- The entries with lists in the places of tuples. -/
def untupledEntries : List (String × Value) → List (String × Value)
  | [] => []
  | (k, v) :: rest => (k, v.untupled) :: untupledEntries rest
end

variable {v w : Value}

/-- A null is the value itself, or stands in its contents. -/
theorem holdsNull_eq (v : Value) :
    v.holdsNull = (v.isNull || v.contents.any fun c => c.2.holdsNull) := by
  have hitems : ∀ items, anyHoldsNull items = items.any holdsNull := by
    intro items
    induction items with
    | nil => rfl
    | cons v rest ih => rw [anyHoldsNull, List.any_cons, ih]
  have hentries : ∀ entries, anyEntryHoldsNull entries = entries.any fun e => e.2.holdsNull := by
    intro entries
    induction entries with
    | nil => rfl
    | cons e rest ih => rw [anyEntryHoldsNull, List.any_cons, ih]
  cases v with
  | list items | tuple items =>
    rw [holdsNull, hitems, contents, List.any_map]
    rfl
  | object entries =>
    rw [holdsNull, hentries, contents, List.any_map]
    rfl
  | _ => rfl

theorem isNull_of_holdsNull (h : v.holdsNull = false) : v.isNull = false := by
  rw [holdsNull_eq, Bool.or_eq_false_iff] at h
  exact h.1

theorem contents_holdsNull (h : v.holdsNull = false) : ∀ c ∈ v.contents, c.2.holdsNull = false := by
  rw [holdsNull_eq, Bool.or_eq_false_iff, List.any_eq_false] at h
  intro c hc
  simpa using h.2 c hc

@[simp] theorem frame_untupled (v : Value) : v.untupled.frame = v.frame := by
  cases v <;> rfl

@[simp] theorem isTuple_untupled (v : Value) : v.untupled.isTuple = false := by
  cases v <;> rfl

theorem contents_untupled (v : Value) :
    v.untupled.contents = v.contents.map fun c => (c.1, c.2.untupled) := by
  have hitems : ∀ items, untupledItems items = items.map untupled := by
    intro items
    induction items with
    | nil => rfl
    | cons v rest ih => rw [untupledItems, List.map_cons, ih]
  have hentries : ∀ entries, untupledEntries entries = entries.map fun e => (e.1, e.2.untupled) := by
    intro entries
    induction entries with
    | nil => rfl
    | cons e rest ih => rw [untupledEntries, List.map_cons, ih]
  cases v with
  | list items | tuple items => simp [untupled, contents, hitems]
  | object entries => simp [untupled, contents, hentries]
  | _ => rfl

theorem isNull_untupled (v : Value) : v.untupled.isNull = v.isNull := by
  cases v <;> rfl

/-- Putting lists in the places of tuples makes no nulls and takes none away. -/
theorem holdsNull_untupled (v : Value) : v.untupled.holdsNull = v.holdsNull := by
  induction v using induction_contents with
  | h v ih =>
    rw [holdsNull_eq, holdsNull_eq v, isNull_untupled, contents_untupled, List.any_map]
    congr 1
    rw [Bool.eq_iff_iff, List.any_eq_true, List.any_eq_true]
    constructor
    · rintro ⟨c, hc, hnull⟩
      exact ⟨c, hc, by rw [← ih c hc]; exact hnull⟩
    · rintro ⟨c, hc, hnull⟩
      exact ⟨c, hc, by rw [← ih c hc] at hnull; exact hnull⟩

/-- The contents of a value without tuples are without tuples. -/
theorem contents_of_untupled (h : v.untupled = v) : ∀ c ∈ v.contents, c.2.untupled = c.2 := by
  have hcontents := contents_untupled v
  rw [h] at hcontents
  have hsame : (v.contents.map fun c => (c.1, c.2.untupled)) = v.contents.map fun c => c := by
    rw [← hcontents, List.map_id']
  intro c hc
  exact congrArg Prod.snd (List.map_inj_left.1 hsame c hc)

/-! ## Leaving out nulls -/

@[simp] theorem frame_withoutNulls (v : Value) : v.withoutNulls.frame = v.frame := by
  cases v <;> rfl

@[simp] theorem isTuple_withoutNulls (v : Value) : v.withoutNulls.isTuple = false := by
  cases v <;> rfl

/-- The contents that are not null are left, each without its nulls, in order and under their keys. -/
theorem contents_withoutNulls (v : Value) : v.withoutNulls.contents =
    (v.contents.filter fun c => !c.2.isNull).map fun c => (c.1, c.2.withoutNulls) := by
  have hitems : ∀ items, itemsWithoutNulls items =
      (items.filter fun v => !v.isNull).map withoutNulls := by
    intro items
    induction items with
    | nil => rfl
    | cons v rest ih =>
      rw [itemsWithoutNulls_cons, ih]
      cases h : v.isNull <;> simp [h]
  have hentries : ∀ entries, entriesWithoutNulls entries =
      (entries.filter fun e => !e.2.isNull).map fun e => (e.1, e.2.withoutNulls) := by
    intro entries
    induction entries with
    | nil => rfl
    | cons e rest ih =>
      obtain ⟨k, v⟩ := e
      rw [entriesWithoutNulls_cons, ih]
      cases h : v.isNull <;> simp [h]
  cases v with
  | list items | tuple items =>
    simp only [withoutNulls, contents, hitems, List.filter_map, List.map_map]
    rfl
  | object entries =>
    simp only [withoutNulls, contents, hentries, List.filter_map, List.map_map]
    rfl
  | _ => rfl

/-- A value that is not null holds none when its nulls are left out. -/
theorem holdsNull_withoutNulls (v : Value) : v.withoutNulls.holdsNull = v.isNull := by
  induction v using induction_contents with
  | h v ih =>
    rw [holdsNull_eq, isNull_withoutNulls, contents_withoutNulls]
    have hnone : ((v.contents.filter fun c => !c.2.isNull).map fun c =>
        (c.1, c.2.withoutNulls)).any (fun c => c.2.holdsNull) = false := by
      rw [List.any_eq_false]
      intro c hc
      obtain ⟨d, hd, rfl⟩ := List.mem_map.1 hc
      obtain ⟨hmem, hd⟩ := List.mem_filter.1 hd
      show ¬d.2.withoutNulls.holdsNull = true
      rw [ih d hmem]
      simpa using hd
    rw [hnone, Bool.or_false]

theorem holdsNull_withoutNulls_of_ne (h : v ≠ .null) : v.withoutNulls.holdsNull = false := by
  rw [holdsNull_withoutNulls]
  exact Bool.eq_false_iff.2 fun hnull => h (eq_null_of_isNull hnull)

/-- Of a value without nulls nothing is left out. -/
theorem withoutNulls_of_no_null (v : Value) (h : v.holdsNull = false) :
    v.withoutNulls = v.untupled := by
  induction v using induction_contents with
  | h v ih =>
    refine ext_contents (isTuple_withoutNulls v) (isTuple_untupled v) (by simp) ?_
    have hcontents := contents_holdsNull h
    have hall : (v.contents.filter fun c => !c.2.isNull) = v.contents := by
      rw [List.filter_eq_self]
      intro c hc
      rw [isNull_of_holdsNull (hcontents c hc)]
      rfl
    rw [contents_withoutNulls, contents_untupled, hall]
    apply List.map_congr_left
    intro c hc
    rw [ih c hc (hcontents c hc)]

/-- Nothing is left out of a value exactly when there is no null in it. -/
theorem withoutNulls_eq_untupled_iff (h : v ≠ .null) :
    v.withoutNulls = v.untupled ↔ v.holdsNull = false := by
  constructor
  · intro hsame
    rw [← holdsNull_untupled, ← hsame]
    exact holdsNull_withoutNulls_of_ne h
  · exact withoutNulls_of_no_null v

theorem untupled_withoutNulls (h : v ≠ .null) : v.withoutNulls.untupled = v.withoutNulls := by
  rw [← withoutNulls_of_no_null _ (holdsNull_withoutNulls_of_ne h), withoutNulls_withoutNulls]

/-! ## Outlines -/

/-- What stands in a value at some depth: the keys that lead there, none for the items of a list, and its
frame. -/
abbrev Mark := List (Option String) × Frame

/-- The mark one level deeper, behind a key. -/
def under (key : Option String) (m : Mark) : Mark := (key :: m.1, m.2)

mutual
/-- All that is not null in a value, from the outside to the inside and in order. -/
def outline : Value → List Mark
  | .null => []
  | .list items | .tuple items => ([], .list) :: itemsOutline items
  | .object entries => ([], .object) :: entriesOutline entries
  | v => [([], .scalar v)]
/-- All that is not null in the items of a list. -/
def itemsOutline : List Value → List Mark
  | [] => []
  | v :: rest => v.outline.map (under none) ++ itemsOutline rest
/-- All that is not null in the entries of an object. -/
def entriesOutline : List (String × Value) → List Mark
  | [] => []
  | (k, v) :: rest => v.outline.map (under (some k)) ++ entriesOutline rest
end

/-- All that is not null in contents. -/
def contentsOutline (contents : List (Option String × Value)) : List Mark :=
  contents.flatMap fun c => c.2.outline.map (under c.1)

theorem outline_eq (h : v.isNull = false) :
    v.outline = ([], v.frame) :: contentsOutline v.contents := by
  have hitems : ∀ items : List Value, itemsOutline items = contentsOutline (items.map (none, ·)) := by
    intro items
    induction items with
    | nil => rfl
    | cons v rest ih =>
      rw [itemsOutline, ih]
      rfl
  have hentries : ∀ entries : Entries,
      entriesOutline entries = contentsOutline (entries.map fun e => (some e.1, e.2)) := by
    intro entries
    induction entries with
    | nil => rfl
    | cons e rest ih =>
      rw [entriesOutline, ih]
      rfl
  cases v with
  | null => cases h
  | list items | tuple items =>
    rw [outline, hitems]
    rfl
  | object entries =>
    rw [outline, hentries]
    rfl
  | _ => rfl

/-- Contents that are null leave the outline as it is. -/
theorem contentsOutline_withoutNulls {cs : List (Option String × Value)}
    (h : ∀ c ∈ cs, c.2.withoutNulls.outline = c.2.outline) :
    contentsOutline ((cs.filter fun c => !c.2.isNull).map fun c => (c.1, c.2.withoutNulls)) =
      contentsOutline cs := by
  induction cs with
  | nil => rfl
  | cons c rest ih =>
    obtain ⟨hc, hrest⟩ := List.forall_mem_cons.1 h
    have hrest := ih hrest
    unfold contentsOutline at hrest ⊢
    cases hn : c.2.isNull with
    | true =>
      have hnone : c.2.outline = [] := by
        rw [eq_null_of_isNull hn]
        rfl
      simpa [hn, hnone] using hrest
    | false => simpa [hn, hc] using hrest

/-- Leaving out nulls keeps the outline. -/
theorem outline_withoutNulls (v : Value) : v.withoutNulls.outline = v.outline := by
  induction v using induction_contents with
  | h v ih =>
    cases hnull : v.isNull with
    | true =>
      rw [eq_null_of_isNull hnull]
      rfl
    | false =>
      have hnull' : v.withoutNulls.isNull = false := by rw [isNull_withoutNulls, hnull]
      rw [outline_eq hnull', outline_eq hnull, frame_withoutNulls, contents_withoutNulls,
        contentsOutline_withoutNulls ih]

/-! ## Outlines tell values apart -/

/-- The mark is below the contents of a value. -/
def Mark.isDeep (m : Mark) : Bool := 2 ≤ m.1.length

/-- Marks of one kind in front of marks that start with another kind are told apart. -/
theorem append_inj_of_head {α : Type} {p : α → Bool} {a b s t : List α} (ha : ∀ x ∈ a, p x = true)
    (hb : ∀ x ∈ b, p x = true) (hs : ∀ x ∈ s.head?, p x = false) (ht : ∀ x ∈ t.head?, p x = false)
    (h : a ++ s = b ++ t) : a = b ∧ s = t := by
  have htake : ∀ {a s : List α}, (∀ x ∈ a, p x = true) → (∀ x ∈ s.head?, p x = false) →
      (a ++ s).takeWhile p = a := by
    intro a s ha hs
    rw [List.takeWhile_append_of_pos ha]
    cases s with
    | nil => exact List.append_nil a
    | cons x s =>
      have hx : ¬p x = true := by simp [hs x rfl]
      rw [List.takeWhile_cons_of_neg hx, List.append_nil]
  have hsame : a = b := by rw [← htake ha hs, h, htake hb ht]
  subst hsame
  exact ⟨rfl, List.append_cancel_left h⟩

theorem under_injective (key : Option String) : Function.Injective (under key) := fun _ _ h =>
  Prod.ext (List.cons.inj (Prod.mk.inj h).1).2 (Prod.mk.inj h).2

/-- What contents are not null. -/
def NoNulls (cs : List (Option String × Value)) : Prop := ∀ c ∈ cs, c.2.isNull = false

variable {c d : Option String × Value} {cs ds : List (Option String × Value)}

/-- The outline of contents starts with the first of them, and deeper marks follow up to the next. -/
theorem contentsOutline_cons (h : c.2.isNull = false) (cs : List (Option String × Value)) :
    contentsOutline (c :: cs) = ([c.1], c.2.frame) ::
      ((contentsOutline c.2.contents).map (under c.1) ++ contentsOutline cs) := by
  rw [contentsOutline, List.flatMap_cons, outline_eq h]
  rfl

theorem isDeep_head_contentsOutline (h : NoNulls cs) :
    ∀ m ∈ (contentsOutline cs).head?, m.isDeep = false := by
  intro m hm
  cases cs with
  | nil => cases hm
  | cons c rest =>
    rw [contentsOutline_cons (h c List.mem_cons_self)] at hm
    cases hm
    rfl

theorem isDeep_contentsOutline (cs : List (Option String × Value)) (key : Option String) :
    ∀ m ∈ (contentsOutline cs).map (under key), m.isDeep = true := by
  intro m hm
  obtain ⟨n, hn, rfl⟩ := List.mem_map.1 hm
  obtain ⟨c, -, hc⟩ := List.mem_flatMap.1 hn
  obtain ⟨o, -, rfl⟩ := List.mem_map.1 hc
  simp [Mark.isDeep, under]

/-- The outline of contents tells the key and the outline of the first of them, and the outline of the
others. -/
theorem contentsOutline_cons_inj (hc : NoNulls (c :: cs)) (hd : NoNulls (d :: ds))
    (h : contentsOutline (c :: cs) = contentsOutline (d :: ds)) :
    c.1 = d.1 ∧ c.2.outline = d.2.outline ∧ contentsOutline cs = contentsOutline ds := by
  obtain ⟨hcnull, hcs⟩ := List.forall_mem_cons.1 hc
  obtain ⟨hdnull, hds⟩ := List.forall_mem_cons.1 hd
  rw [contentsOutline_cons hcnull, contentsOutline_cons hdnull] at h
  obtain ⟨hmark, htail⟩ := List.cons.inj h
  obtain ⟨hkey, hframe⟩ := Prod.mk.inj hmark
  have hkey : c.1 = d.1 := (List.cons.inj hkey).1
  obtain ⟨hinner, hrest⟩ := append_inj_of_head (isDeep_contentsOutline _ _)
    (isDeep_contentsOutline _ _) (isDeep_head_contentsOutline hcs) (isDeep_head_contentsOutline hds) htail
  rw [hkey] at hinner
  have hinner := List.map_injective_iff.2 (under_injective d.1) hinner
  refine ⟨hkey, ?_, hrest⟩
  rw [outline_eq hcnull, outline_eq hdnull, hframe, hinner]

/-- Contents are told apart by their outlines when each of them is. -/
theorem eq_of_contentsOutline_eq (hcs : NoNulls cs) (hds : NoNulls ds)
    (hinj : ∀ c ∈ cs, ∀ d ∈ ds, c.2.outline = d.2.outline → c.2 = d.2)
    (h : contentsOutline cs = contentsOutline ds) : cs = ds := by
  induction cs generalizing ds with
  | nil =>
    cases ds with
    | nil => rfl
    | cons d ds =>
      rw [contentsOutline_cons (hds d List.mem_cons_self)] at h
      cases h
  | cons c cs ih =>
    cases ds with
    | nil =>
      rw [contentsOutline_cons (hcs c List.mem_cons_self)] at h
      cases h
    | cons d ds =>
      obtain ⟨hkey, houtline, hrest⟩ := contentsOutline_cons_inj hcs hds h
      have hvalue := hinj c List.mem_cons_self d List.mem_cons_self houtline
      have hsame := ih (List.forall_mem_cons.1 hcs).2 (List.forall_mem_cons.1 hds).2
        (fun c hc d hd => hinj c (List.mem_cons_of_mem _ hc) d (List.mem_cons_of_mem _ hd)) hrest
      rw [hsame, Prod.ext hkey hvalue]

/-- Values without nulls and tuples are told apart by their outlines. -/
theorem eq_of_outline_eq (v : Value) {w : Value} (hv : v.holdsNull = false) (hw : w.holdsNull = false)
    (hvt : v.untupled = v) (hwt : w.untupled = w) (h : v.outline = w.outline) : v = w := by
  induction v using induction_contents generalizing w with
  | h v ih =>
    rw [outline_eq (isNull_of_holdsNull hv), outline_eq (isNull_of_holdsNull hw)] at h
    obtain ⟨hmark, hcontents⟩ := List.cons.inj h
    have htuple : v.isTuple = false ∧ w.isTuple = false := by
      rw [← hvt, ← hwt]
      exact ⟨isTuple_untupled v, isTuple_untupled w⟩
    have hcs := contents_holdsNull hv
    have hds := contents_holdsNull hw
    refine ext_contents htuple.1 htuple.2 (Prod.mk.inj hmark).2 ?_
    refine eq_of_contentsOutline_eq (fun c hc => isNull_of_holdsNull (hcs c hc))
      (fun d hd => isNull_of_holdsNull (hds d hd)) ?_ hcontents
    intro c hc d hd houtline
    exact ih c hc (hcs c hc) (hds d hd) (contents_of_untupled hvt c hc) (contents_of_untupled hwt d hd)
      houtline

end Value

/-! ## Objects of nodes -/

/-- The object of a node in a stored tree: a group has its join, and a rule its field and operator. -/
inductive NodeObject where
  | group (join : Value)
  | rule (field operator : Value)

namespace Node

/-- An object one level deeper. -/
def deeper (o : Nat × NodeObject) : Nat × NodeObject := (o.1 + 1, o.2)

mutual
/-- The objects of nodes in a document with their depths, a group in front of its children. -/
def objectsIn : Value → List (Nat × NodeObject)
  | .object entries =>
    if isGroup entries then
      (0, .group (Entries.get entries "join")) :: (childObjects entries).map deeper
    else [(0, .rule (Entries.get entries "field") (Entries.get entries "operator"))]
  | _ => []
/-- The objects of the children in the entries of a group. -/
def childObjects : List (String × Value) → List (Nat × NodeObject)
  | [] => []
  | (key, v) :: rest => if key = "rules" then listObjects v else childObjects rest
/-- The objects of the children in a list. -/
def listObjects : Value → List (Nat × NodeObject)
  | .list items => itemObjects items
  | _ => []
/-- The objects of nodes in documents. -/
def itemObjects : List Value → List (Nat × NodeObject)
  | [] => []
  | v :: rest => objectsIn v ++ itemObjects rest
end

mutual
/-- The objects that a tree should have, one for each node. -/
def objects : Node → List (Nat × NodeObject)
  | rule r => [(0, .rule (.text r.field.text) (.text r.operator.text))]
  | group _ join children => (0, .group (.text join.name)) :: (allObjects children).map deeper
/-- The objects that trees should have. -/
def allObjects : List Node → List (Nat × NodeObject)
  | [] => []
  | node :: rest => node.objects ++ allObjects rest
end

/-- The object of a rule keeps its field and its operator, whatever operands are left out. -/
theorem objectsIn_rule (r : Rule) : objectsIn (rule r).document.withoutNulls = (rule r).objects := by
  have hfield : r.storedEntries.get "field" = .text r.field.text := Rule.get_storedEntries "field"
  have hoperator : r.storedEntries.get "operator" = .text r.operator.text :=
    Rule.get_storedEntries "operator"
  rw [document, Rule.withoutNulls_document, objectsIn, Rule.isGroup_storedEntries,
    if_neg Bool.false_ne_true, hfield, hoperator]
  rfl

/-- The object of a group keeps its join and its children, whether or not the name is left out. -/
theorem objectsIn_group (name : Value) (join : Join) (children : List Node) :
    objectsIn (group name join children).document.withoutNulls =
      (0, .group (.text join.name)) ::
        (itemObjects (Value.itemsWithoutNulls (documents children))).map deeper := by
  rw [document, Value.withoutNulls, Value.entriesWithoutNulls_cons]
  split <;> rfl

mutual
/-- The stored form of a tree has the objects of its nodes. -/
theorem objectsIn_document : ∀ node : Node, objectsIn node.document.withoutNulls = node.objects
  | rule r => objectsIn_rule r
  | group name join children => by
    rw [objectsIn_group, itemObjects_documents children]
    rfl
theorem itemObjects_documents : ∀ nodes : List Node,
    itemObjects (Value.itemsWithoutNulls (documents nodes)) = allObjects nodes
  | [] => rfl
  | node :: rest => by
    rw [itemsWithoutNulls_documents_cons, itemObjects, objectsIn_document node,
      itemObjects_documents rest]
    rfl
end

end Node

/-! ## Values and filters without nulls -/

namespace Group

/-- A stored filter holds no null. -/
theorem document_holdsNull (g : Group) : g.document.holdsNull = false := by
  rw [document, Value.holdsNull_withoutNulls]
  rfl

/-- Leaving out the nulls of a value that is not null leaves out nothing else. The value without its nulls
holds no null; its contents are those that are not null, in order and under their keys, each without its
nulls; and it is the only value without nulls and tuples that has the outline of the first one. Leaving
out nulls again changes nothing, and the first time changes something, other than tuples that become
lists, exactly when there is a null. A stored filter has no null, and one object for each node of the tree,
in the order of the nodes and at their depths. -/
theorem nulls_left_out (v : Value) (h : v ≠ .null) (g : Group) :
    (v.withoutNulls.holdsNull = false ∧ v.withoutNulls.frame = v.frame ∧
      v.withoutNulls.contents =
        (v.contents.filter fun c => !c.2.isNull).map (fun c => (c.1, c.2.withoutNulls)) ∧
      (∀ w : Value, w.holdsNull = false → w.untupled = w →
        (w.outline = v.outline ↔ w = v.withoutNulls)) ∧
      v.withoutNulls.withoutNulls = v.withoutNulls ∧
      (v.withoutNulls = v.untupled ↔ v.holdsNull = false)) ∧
    g.document.holdsNull = false ∧ Node.objectsIn g.document = g.toNode.objects := by
  have hnone := Value.holdsNull_withoutNulls_of_ne h
  refine ⟨⟨hnone, v.frame_withoutNulls, v.contents_withoutNulls, ?_, v.withoutNulls_withoutNulls,
    Value.withoutNulls_eq_untupled_iff h⟩, g.document_holdsNull, Node.objectsIn_document g.toNode⟩
  intro w hw hwt
  constructor
  · intro houtline
    apply Value.eq_of_outline_eq w hw hnone hwt (Value.untupled_withoutNulls h)
    rw [houtline, Value.outline_withoutNulls]
  · intro hsame
    rw [hsame, Value.outline_withoutNulls]

/-- A list with nulls in lists, tuples and objects, some of which hold nothing else. -/
def nestedNulls : Value := .list [.null, .tuple [.int 1, .null, .list [.null]],
  .object [("a", .null), ("b", .object [("c", .null)])]]

/-- A rule with a null for the only item of its value. -/
def voidRule : Rule := ⟨.known .title, .known .equals, .tuple [.null], .null, .null,
  .scalar (.tuple [.null]) (.list []), rfl, rfl⟩

/-- A group without a name, with that rule and an empty group. -/
def bareGroup : Group := ⟨.null, .any, [.rule voidRule, .group (.text "") .all []]⟩

/-- The emptied containers of a nested list stay, and so do the nodes of a bare group. -/
theorem nestedNulls_left_out :
    nestedNulls.withoutNulls =
      .list [.list [.int 1, .list []], .object [("b", .object [])]] ∧
    nestedNulls.withoutNulls.holdsNull = false ∧ nestedNulls.withoutNulls ≠ nestedNulls.untupled ∧
    bareGroup.document.holdsNull = false ∧ Node.objectsIn bareGroup.document =
      [(0, .group (.text "or")), (1, .rule (.text "title") (.text "equals")),
        (1, .group (.text "and"))] := by
  obtain ⟨⟨hnone, -, -, -, -, hsame⟩, hdocument, hobjects⟩ :=
    nulls_left_out nestedNulls (nofun) bareGroup
  have hnull : nestedNulls.holdsNull = true := rfl
  have hchanged : nestedNulls.withoutNulls ≠ nestedNulls.untupled := by
    rw [ne_eq, hsame, hnull]
    exact Bool.noConfusion
  exact ⟨rfl, hnone, hchanged, hdocument, hobjects⟩

end Group

end ShelfRules
