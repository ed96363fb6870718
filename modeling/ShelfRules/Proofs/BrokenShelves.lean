import ShelfRules.Proofs.CountedShelves
import ShelfRules.Proofs.OrdinaryFilters
import Mathlib.Data.List.InsertIdx

/-!
# Broken shelves

A row whose filter is refused is read as a shelf without a filter, and disturbs no other row: wherever it
is put into a store, the shelves and counts under other numbers are what they were, and the list of
all shelves and that of all counts have one more item in its place. What ends a listing with a fault,
a number past the range of doubles, never stands in a refused filter.

Results:
* `mapM_insertIdx`: steps on a list with one more item.
* `Catalogue.countsAfter_of_nodup`: shelves with different names are counted one by one.
* `Shelf.not_filterOf_escapes`: a filter whose numbers are inside of the range of doubles can be read.
* `Catalogue.undecodable_apart`: a refused filter does not disturb the other shelves.
-/

namespace ShelfRules

/-! ## Steps on a list -/

section Steps

variable {α β ε : Type}

theorem Report.result_each (f : α → Report β) (as : List α) :
    (each f as).result = as.mapM fun a => (f a).result := by
  induction as with
  | nil => rfl
  | cons a rest ih =>
    rw [each, bind_result, List.mapM_cons, ← ih]
    cases (f a).result with
    | error e => rfl
    | ok b =>
      show ((each f rest).bind _).result = _
      rw [bind_result]
      cases (each f rest).result <;> rfl

/-- A step on a list with one more item, for which it gives a result, gives that result in the place of
the item, and fails when it fails on the list. -/
theorem mapM_insertIdx {f : α → Except ε β} {a : α} {b : β} (ha : f a = .ok b) {as : List α} {k : Nat}
    (hk : k ≤ as.length) :
    (as.insertIdx k a).mapM f = (as.mapM f).map fun bs => bs.insertIdx k b := by
  induction as generalizing k with
  | nil =>
    obtain rfl := Nat.le_zero.1 hk
    simp [ha]
    rfl
  | cons first rest ih =>
    cases k with
    | zero =>
      rw [List.insertIdx_zero, List.mapM_cons, ha]
      cases (first :: rest).mapM f <;> rfl
    | succ k =>
      rw [List.insertIdx_succ_cons, List.mapM_cons, ih (Nat.le_of_succ_le_succ hk), List.mapM_cons]
      cases f first with
      | error e => rfl
      | ok b' => cases rest.mapM f <;> rfl

theorem find?_insertIdx {p : α → Bool} {a : α} (ha : p a = false) (as : List α) (k : Nat) :
    (as.insertIdx k a).find? p = as.find? p := by
  induction as generalizing k with
  | nil => cases k <;> simp [ha]
  | cons first rest ih => cases k <;> simp [List.find?_cons, ha, ih]

end Steps

/-! ## Counts of shelves with different names -/

namespace Catalogue

variable {books : List Record} {counts : List (Value × Nat)} {shelves : List Shelf}

theorem tally_of_fresh {name : String} {n : Nat} (h : .text name ∉ counts.map Prod.fst) :
    tally (.text name) n counts = counts ++ [(.text name, n)] := by
  induction counts with
  | nil => rfl
  | cons entry rest ih =>
    obtain ⟨key, m⟩ := entry
    simp only [List.map_cons, List.mem_cons, not_or] at h
    rw [tally, if_neg fun hsame => h.1 (Value.same_text_iff.1 hsame).symm, ih h.2, List.cons_append]

/-- Shelves with different names are counted one by one. -/
theorem countsAfter_of_nodup (hnames : ∀ s ∈ shelves, ∃ name, s.name = .text name)
    (h : (counts.map Prod.fst ++ shelves.map Shelf.name).Nodup) :
    countsAfter books counts shelves =
      (shelves.mapM (countOn books)).map fun more => counts ++ more := by
  induction shelves generalizing counts with
  | nil => simp [countsAfter, Except.map, pure, Except.pure]
  | cons s rest ih =>
    obtain ⟨⟨name, hs⟩, hrest⟩ := List.forall_mem_cons.1 hnames
    rw [countsAfter_cons hs, List.mapM_cons, countOn_eq books hs]
    cases s.count books with
    | error f => rfl
    | ok n =>
      rw [List.map_cons, hs] at h
      have hfresh : .text name ∉ counts.map Prod.fst := fun hmem =>
        (List.nodup_append.1 h).2.2 _ hmem _ List.mem_cons_self rfl
      have hrest' : ((counts ++ [(Value.text name, n)]).map Prod.fst ++ rest.map Shelf.name).Nodup := by
        simpa using h
      show countsAfter books _ rest = _
      rw [tally_of_fresh hfresh, ih hrest hrest']
      show _ = Except.map _ ((rest.mapM (countOn books)).bind _)
      cases rest.mapM (countOn books) with
      | error f => rfl
      | ok more => simp [Except.map, Except.bind, pure, Except.pure]

end Catalogue

/-! ## Numbers inside of the range -/

/-- The numbers of a rule are read when they are inside of the range. -/
theorem Rule.not_oversized {entries : Entries} (h : (Value.object entries).isOrdinary = true)
    (hd : (Value.object entries).isDocument = true) : ¬Oversized entries := by
  have hlong : ∀ key, (entries.get key).holdsLongInteger = false := fun key =>
    Value.holdsLongInteger_of_isOrdinary (Value.get_isOrdinary h key)
  rintro (hfield | hoperator | ⟨field, operator, -, -, hoperands⟩)
  · exact Bool.eq_false_iff.1 (hlong _) hfield
  · exact Bool.eq_false_iff.1 (hlong _) hoperator
  · split at hoperands
    · obtain ⟨-, key, -, hkey⟩ := hoperands
      have hj := (Bool.and_eq_true_iff.1 (Value.get_isDocument hd key)).1
      rw [Value.defiesNumber_of_isOrdinary (Value.get_isOrdinary h key) hj] at hkey
      cases hkey
    · have hsize : Operand.isOversized operator _ _ _ = false :=
        Operand.isOversized_of_not_long (hlong "value") (hlong "valueStart") (hlong "valueEnd")
      rw [hsize] at hoperands
      cases hoperands

/-- The children of a stored group are ordinary documents when the group is. -/
theorem Value.child_isOrdinary {entries : Entries} {items : List Value}
    (h : (object entries).isOrdinary = true) (hd : (object entries).isDocument = true)
    (hrules : entries.get "rules" = .list items) :
    ∀ v ∈ items, v.isOrdinary = true ∧ v.isDocument = true := fun v hv =>
  ⟨isOrdinary_list.1 (hrules ▸ get_isOrdinary h "rules") v hv,
    isDocument_list.1 (hrules ▸ get_isDocument hd "rules") v hv⟩

/-- The numbers of a tree are read when they are inside of the range. -/
theorem Node.not_oversized {v : Value} (h : v.isOrdinary = true) (hd : v.isDocument = true) :
    ¬Oversized v := by
  intro hover
  induction hover with
  | rule _ hrule => exact Rule.not_oversized h hd hrule
  | @child _ _ _ child _ hrules _ _ ih =>
    obtain ⟨hchild, hchildd⟩ := Value.child_isOrdinary h hd hrules child (by simp)
    exact ih hchild hchildd

theorem Group.not_oversized {v : Value} (h : v.isOrdinary = true) (hd : v.isDocument = true) :
    ¬Oversized v := by
  rintro ⟨entries, _, rfl, hrules, before, w, after, rfl, -, hover⟩
  obtain ⟨hchild, hchildd⟩ := Value.child_isOrdinary h hd hrules w (by simp)
  exact Node.not_oversized hchild hchildd hover

namespace Shelf

/-- The integers in the text of a filter are inside of the range of doubles. -/
def TextInRange (s : String) : Prop :=
  match Json.parse s.toList with
  | .ok v => v.isOrdinary = true
  | .error (.integerTooLong _) => False
  | .error (.malformed ..) => True

/-- The integers in the filter of a row are inside of the range of doubles. -/
def RowInRange (row : Value) : Prop :=
  match row.get "filterJson" with
  | .text s => TextInRange s
  | .object entries => (Value.object entries).isOrdinary = true ∧ (Value.object entries).isDocument = true
  | _ => True

theorem not_textOversized {s : String} (h : TextInRange s) : ¬Group.TextOversized s := by
  unfold TextInRange at h
  rintro (⟨digits, -, hparse⟩ | ⟨v, hparse, hover⟩)
  · rw [hparse] at h
    exact h
  · rw [hparse] at h
    exact Group.not_oversized h (Json.parseWith_isDocument hparse) hover

/-- The filter of a row is read or refused when its integers are inside of the range. -/
theorem not_filterOf_escapes {row : Value} (h : RowInRange row) :
    ¬(filterOf (row.get "filterJson")).Escapes := by
  unfold RowInRange at h
  cases hkey : row.get "filterJson" with
  | text s =>
    rw [hkey] at h
    by_cases hblank : s = ""
    · subst hblank
      exact Report.not_escapes_ok _
    · rw [filterOf_text hblank, Group.ofText_escapes_iff]
      exact not_textOversized h
  | object entries =>
    rw [hkey] at h
    exact mt Group.ofDocument_escapes_iff.1 (Group.not_oversized h.1 h.2)
  | _ =>
    -- of another kind than a text or an object, a value that counts is refused
    show ¬(if _ then _ else _ : Report Group).Escapes
    split
    · exact Report.not_escapes_refused _
    · exact Report.not_escapes_ok _

theorem not_escapes_of_undecodable {row : Value} (h : RowUndecodable row) :
    ¬(filterOf (row.get "filterJson")).Escapes :=
  Report.not_escapes_iff.2 (.inr h)

/-- An object is read as a shelf when its filter is read or refused. -/
theorem ofPayload_of_not_escapes (icon : String) {entries : Entries}
    (h : ¬(filterOf (entries.get "filterJson")).Escapes) :
    ∃ s, (ofPayload icon (.object entries)).result = .ok s := by
  rcases withFilter_cases (outline icon entries) (filterOf (entries.get "filterJson")) with
    ⟨_, -, hs⟩ | ⟨_, -, hs⟩ | ⟨hr, -⟩
  · exact ⟨_, hs⟩
  · exact ⟨_, hs⟩
  · exact absurd hr h

end Shelf

/-! ## The catalogue -/

namespace Catalogue

variable {c : Catalogue} {icon : String} {row : Value} {rows : List Value} {k : Nat}

/-- The catalogue with one more row. -/
def withRow (c : Catalogue) (k : Nat) (row : Value) : Catalogue :=
  { c with rows := c.rows.insertIdx k row }

theorem IsStore.sublist {some : List Value} (h : IsStore rows) (hsome : some.Sublist rows) :
    IsStore some where
  objects row hrow := h.objects row (hsome.mem hrow)
  names row hrow := h.names row (hsome.mem hrow)
  numbers row hrow := h.numbers row (hsome.mem hrow)
  distinct := h.distinct.sublist hsome

theorem names_of_read {shelves : List Shelf} (hrows : IsStore rows)
    (hread : List.Forall₂ (fun row s => (Shelf.ofPayload icon row).result = .ok s) rows shelves) :
    shelves.map Shelf.name = rows.map (·.get "name") := by
  have hnames : List.Forall₂ (fun row s => s.name = row.get "name") rows shelves := by
    refine ((List.forall₂_and_left rows shelves).2 ⟨fun _ h => h, hread⟩).imp ?_
    intro row s ⟨hrow, hs⟩
    obtain ⟨name, hname, hrowName⟩ := hrows.name_of_read hrow hs
    rw [hname, hrowName]
  clear hread hrows
  induction hnames with
  | nil => rfl
  | cons h _ ih => rw [List.map_cons, List.map_cons, h, ih]

/-- Shelves with different names are counted one by one. -/
theorem counts_of_nodup (hrows : IsStore c.rows) (hnames : (c.rows.map (·.get "name")).Nodup) :
    (c.counts icon).2.result =
      (c.shelves icon).result.bind fun shelves => shelves.mapM (countOn c.books) := by
  rw [result_counts]
  cases hshelves : (c.shelves icon).result with
  | error f => rfl
  | ok shelves =>
    have hread := Report.each_eq_ok_iff.1 hshelves
    have htexts : ∀ s ∈ shelves, ∃ name, s.name = .text name := by
      intro s hs
      obtain ⟨row, hrow, hs⟩ := forall₂_mem_right hread hs
      obtain ⟨name, hname, -⟩ := hrows.name_of_read hrow hs
      exact ⟨name, hname⟩
    have hnodup : (([] : List (Value × Nat)).map Prod.fst ++ shelves.map Shelf.name).Nodup := by
      rw [names_of_read hrows hread]
      exact hnames
    rw [ok_bind, ok_bind, countsAfter_of_nodup htexts hnodup]
    cases shelves.mapM (countOn c.books) <;> rfl

/-- All shelves are listed when the filter of each row is read or refused. -/
theorem shelves_of_range (hrows : IsStore c.rows)
    (hrange : ∀ other ∈ c.rows, Shelf.RowUndecodable other ∨ Shelf.RowInRange other) :
    ∃ shelves, (c.shelves icon).result = .ok shelves ∧ shelves.length = c.rows.length := by
  have hread : ∀ row ∈ c.rows, ∃ s, (Shelf.ofPayload icon row).result = .ok s := by
    intro row hrow
    obtain ⟨entries, rfl⟩ := hrows.objects row hrow
    refine Shelf.ofPayload_of_not_escapes icon ?_
    rcases hrange _ hrow with h | h
    · exact Shelf.not_escapes_of_undecodable h
    · exact Shelf.not_filterOf_escapes h
  obtain ⟨shelves, hshelves⟩ := exists_forall₂_iff.2 hread
  exact ⟨shelves, Report.each_eq_ok_iff.2 hshelves, hshelves.length_eq.symm⟩

/-- The shelves and the counts under other numbers do not depend on a row. -/
theorem withRow_others {id : Value} (h : hasId id row = false) :
    (c.withRow k row).shelf? icon id = c.shelf? icon id ∧
      ((c.withRow k row).count icon id).2 = (c.count icon id).2 := by
  have hfind : (c.withRow k row).find? id = c.find? id := find?_insertIdx h c.rows k
  have hshelf : (c.withRow k row).shelf? icon id = c.shelf? icon id := by
    rw [shelf?, hfind, shelf?]
  refine ⟨hshelf, ?_⟩
  simp only [count, hshelf]
  split <;> rfl

/-- What is listed and counted with a row that is read as a shelf without a filter. -/
theorem withRow_listed {s : Shelf} (hk : k ≤ c.rows.length)
    (hread : (Shelf.ofPayload icon row).result = .ok s) (hfilter : s.filter = none)
    (hstore : IsStore (c.withRow k row).rows)
    (hnames : ((c.withRow k row).rows.map (·.get "name")).Nodup) :
    ((c.withRow k row).shelves icon).result =
        (c.shelves icon).result.map (fun shelves => shelves.insertIdx k s) ∧
      ((c.withRow k row).counts icon).2.result =
        (c.counts icon).2.result.map fun counts => counts.insertIdx k (s.name, 0) := by
  have hshelves : ((c.withRow k row).shelves icon).result =
      (c.shelves icon).result.map (fun shelves => shelves.insertIdx k s) := by
    rw [shelves, shelves, Report.result_each, Report.result_each]
    exact mapM_insertIdx (f := fun row => (Shelf.ofPayload icon row).result) hread hk
  refine ⟨hshelves, ?_⟩
  have hsublist : c.rows.Sublist (c.withRow k row).rows := List.sublist_insertIdx c.rows k row
  obtain ⟨name, hname, -⟩ := hstore.name_of_read ((List.mem_insertIdx hk).2 (.inl rfl)) hread
  have hcount : countOn c.books s = .ok (s.name, 0) := by
    rw [countOn_eq c.books hname, Shelf.count, hfilter, hname]
    rfl
  rw [counts_of_nodup hstore hnames, counts_of_nodup (hstore.sublist hsublist)
    (hnames.sublist (hsublist.map _)), hshelves]
  cases hlisted : (c.shelves icon).result with
  | error f => rfl
  | ok shelves =>
    have hlength := (Report.each_eq_ok_iff.1 hlisted).length_eq
    exact mapM_insertIdx hcount (hlength ▸ hk)

/-- A row whose filter is refused, put anywhere into a store with different numbers and names, leaves the
shelves and the counts under other numbers, and adds one item in its place to the list of all shelves
and to that of all counts: a shelf without a filter, on which there are no books. Both lists are there
when the integers in the filters of the other rows are inside of the range of doubles. -/
theorem undecodable_apart (icon : String) {c : Catalogue} {row : Value} {k : Nat}
    (hk : k ≤ c.rows.length) (hrow : Shelf.RowUndecodable row)
    (hstore : IsStore (c.withRow k row).rows)
    (hnames : ((c.withRow k row).rows.map (·.get "name")).Nodup) :
    (∀ id, hasId id row = false →
      (c.withRow k row).shelf? icon id = c.shelf? icon id ∧
      ((c.withRow k row).count icon id).2 = (c.count icon id).2) ∧
    (∃ s : Shelf, s.filter = none ∧ s.id = row.get "id" ∧ s.name = row.get "name" ∧
      ((c.withRow k row).shelves icon).result =
        (c.shelves icon).result.map (fun shelves => shelves.insertIdx k s) ∧
      ((c.withRow k row).counts icon).2.result =
        (c.counts icon).2.result.map (fun counts => counts.insertIdx k (s.name, 0)) ∧
      ((c.withRow k row).shelf? icon s.id).result = .ok (some s) ∧
      ((c.withRow k row).placesOn s).2.result = .ok [] ∧
      ((c.withRow k row).count icon s.id).2.result = .ok 0) ∧
    ((∀ other ∈ c.rows, Shelf.RowUndecodable other ∨ Shelf.RowInRange other) →
      ∃ shelves, (c.shelves icon).result = .ok shelves ∧ shelves.length = c.rows.length) := by
  have hmem : row ∈ (c.withRow k row).rows := (List.mem_insertIdx hk).2 (.inl rfl)
  have hsublist : c.rows.Sublist (c.withRow k row).rows := List.sublist_insertIdx c.rows k row
  refine ⟨fun id hid => withRow_others hid, ?_, shelves_of_range (hstore.sublist hsublist)⟩
  obtain ⟨entries, rfl⟩ := hstore.objects row hmem
  obtain ⟨cause, hcause⟩ := hrow
  have hread : (Shelf.ofPayload icon (.object entries)).result = .ok (Shelf.outline icon entries) :=
    Shelf.ofEntries_unreadable hcause
  obtain ⟨name, hname, hrowName⟩ := hstore.name_of_read hmem hread
  obtain ⟨hshelves, hcounts⟩ := withRow_listed hk hread rfl hstore hnames
  obtain ⟨hshelf, hcount⟩ := count_of_find? (hstore.find? hmem) (hstore.truthy hmem) hread
  exact ⟨_, rfl, rfl, hname.trans hrowName.symm, hshelves, hcounts, hshelf, rfl, hcount⟩

/-- Two rows with one book, which satisfies the filter of the first one. -/
def twoRows : Catalogue :=
  ⟨[emptyRow 1 "A" .all, emptyRow 2 "B" .any], firstId, [.loose (.object [])], 0⟩

/-- A row with the beginning of a list for its filter. -/
def brokenRow : Value := .object [("id", .int 3), ("name", .text "C"), ("filterJson", .text "[")]

theorem brokenRow_isStore : IsStore (twoRows.withRow 1 brokenRow).rows := by
  have hthree : ∀ {P : Value → Prop}, P (emptyRow 1 "A" .all) → P brokenRow →
      P (emptyRow 2 "B" .any) → ∀ row ∈ (twoRows.withRow 1 brokenRow).rows, P row :=
    fun hfirst hbroken hlast => by simp [withRow, twoRows, hfirst, hbroken, hlast]
  have hfirst : ∀ later ∈ [brokenRow, emptyRow 2 "B" .any],
      hasId (later.get "id") (emptyRow 1 "A" .all) = false := by
    intro later hlater
    rcases List.mem_pair.1 hlater with rfl | rfl <;> rfl
  exact {
    objects := hthree ⟨_, rfl⟩ ⟨_, rfl⟩ ⟨_, rfl⟩
    names := hthree ⟨_, rfl⟩ ⟨_, rfl⟩ ⟨_, rfl⟩
    numbers := hthree rfl rfl rfl
    distinct := List.pairwise_cons.2 ⟨hfirst, List.pairwise_pair.2 rfl⟩ }

/-- Between the two rows the broken one is counted with no book, and the others as before. -/
theorem brokenRow_apart : (1 ≤ twoRows.rows.length ∧ Shelf.RowUndecodable brokenRow ∧
      IsStore (twoRows.withRow 1 brokenRow).rows ∧
      ((twoRows.withRow 1 brokenRow).rows.map (·.get "name")).Nodup) ∧
    (twoRows.counts Shelf.defaultIcon).2.result = .ok [(.text "A", 1), (.text "B", 0)] ∧
    ((twoRows.withRow 1 brokenRow).counts Shelf.defaultIcon).2.result =
      .ok [(.text "A", 1), (.text "C", 0), (.text "B", 0)] ∧
    ∃ shelves, (twoRows.shelves Shelf.defaultIcon).result = .ok shelves ∧ shelves.length = 2 := by
  have hk : 1 ≤ twoRows.rows.length := by decide
  have hbroken : Shelf.RowUndecodable brokenRow := ⟨_, rfl⟩
  have hnames : ((twoRows.withRow 1 brokenRow).rows.map (·.get "name")).Nodup := by
    show [Value.text "A", .text "C", .text "B"].Nodup
    simp
  have hrange : ∀ other ∈ twoRows.rows, Shelf.RowUndecodable other ∨ Shelf.RowInRange other := by
    intro other hother
    rcases List.mem_pair.1 hother with rfl | rfl <;> exact .inr ⟨rfl, rfl⟩
  have hcounts : (twoRows.counts Shelf.defaultIcon).2.result =
      .ok [(.text "A", 1), (.text "B", 0)] := rfl
  obtain ⟨-, ⟨s, -, -, hname, -, hadded, -⟩, hlisted⟩ :=
    undecodable_apart Shelf.defaultIcon hk hbroken brokenRow_isStore hnames
  refine ⟨⟨hk, hbroken, brokenRow_isStore, hnames⟩, hcounts, ?_, hlisted hrange⟩
  rw [hadded, hcounts, hname]
  rfl

end Catalogue

end ShelfRules
