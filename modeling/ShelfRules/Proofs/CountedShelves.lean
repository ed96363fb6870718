import ShelfRules.Proofs.SavedShelves
import ShelfRules.Proofs.StoredShelves

/-!
# Counts by names and by numbers

The books on a stored shelf are counted under the number of its row, and for all shelves at once under
their names. Numbers differ, but names need not: of rows with one name the last one counts, so what is
told under the name of a row is its count only when the last row with the name has as many books.

Results:
* `Catalogue.counted_tally`: what stands under a name after one more count.
* `Catalogue.counted_of_last`: what stands under the name of the last shelf that has it.
* `Catalogue.IsStore.count_eq`: the count under the number of a row.
* `Catalogue.counts_of_isLastNamed`: the count under the name of a row.
-/

namespace ShelfRules

theorem Value.same_text_iff {v : Value} {s : String} : v.same (.text s) = true ↔ v = .text s := by
  cases v <;> simp [same]

namespace Catalogue

/-! ## Counts -/

/-- The number that stands under a name. -/
def counted (name : String) (counts : List (Value × Nat)) : Option Nat :=
  (counts.find? fun entry => entry.1.same (.text name)).map Prod.snd

/-- One more count stands under its name, and leaves the other names alone. -/
theorem counted_tally (name other : String) (n : Nat) (counts : List (Value × Nat)) :
    counted name (tally (.text other) n counts) =
      if other = name then some n else counted name counts := by
  induction counts with
  | nil => by_cases h : other = name <;> simp [tally, counted, Value.same, h]
  | cons entry rest ih =>
    obtain ⟨key, m⟩ := entry
    by_cases hkey : key.same (.text other) = true
    · obtain rfl := Value.same_text_iff.1 hkey
      by_cases h : other = name <;> simp [tally, counted, Value.same, h]
    · rw [tally, if_neg hkey]
      by_cases hname : key.same (.text name) = true
      · obtain rfl := Value.same_text_iff.1 hname
        have hne : other ≠ name := fun h => hkey (by simp [Value.same, h])
        simp [counted, Value.same, hne]
      · have hskip : ∀ counts, counted name ((key, m) :: counts) = counted name counts := fun _ => by
          simp [counted, hname]
        rw [hskip, hskip, ih]

theorem countOn_eq {s : Shelf} {name : String} (books : List Record) (h : s.name = .text name) :
    countOn books s = (s.count books).map fun n => (.text name, n) := by
  show (s.count books).bind _ = _
  rw [h]
  cases s.count books <;> rfl

/-- The counts of shelves, after those that are given. -/
def countsAfter (books : List Record) (counts : List (Value × Nat)) (shelves : List Shelf) :
    Except Fault (List (Value × Nat)) :=
  shelves.foldlM (fun counts s => (countOn books s).map fun (name, n) => tally name n counts) counts

variable {books : List Record} {counts counts' : List (Value × Nat)} {s : Shelf} {shelves : List Shelf}
  {name : String}

theorem countsAfter_append {before after : List Shelf} :
    countsAfter books counts (before ++ after) =
      (countsAfter books counts before).bind fun counts => countsAfter books counts after :=
  List.foldlM_append

theorem countsAfter_cons (hs : s.name = .text name) :
    countsAfter books counts (s :: shelves) = (s.count books).bind fun n =>
      countsAfter books (tally (.text name) n counts) shelves := by
  rw [countsAfter, List.foldlM_cons, countOn_eq books hs]
  cases s.count books <;> rfl

/-- Shelves with other names leave what stands under a name. -/
theorem counted_of_others (hnames : ∀ s ∈ shelves, ∃ other, s.name = .text other ∧ other ≠ name)
    (h : countsAfter books counts shelves = .ok counts') :
    counted name counts' = counted name counts := by
  induction shelves generalizing counts with
  | nil =>
    cases h
    rfl
  | cons s rest ih =>
    obtain ⟨⟨other, hs, hne⟩, hrest⟩ := List.forall_mem_cons.1 hnames
    rw [countsAfter_cons hs] at h
    obtain ⟨n, -, h⟩ := except_bind_eq_ok h
    rw [ih hrest h, counted_tally, if_neg hne]

/-- The count of a shelf stands under its name when the shelves behind it have other names. -/
theorem counted_of_last (hs : s.name = .text name)
    (hothers : ∀ s ∈ shelves, ∃ other, s.name = .text other ∧ other ≠ name)
    (h : countsAfter books counts (s :: shelves) = .ok counts') :
    ∃ n, s.count books = .ok n ∧ counted name counts' = some n := by
  rw [countsAfter_cons hs] at h
  obtain ⟨n, hn, h⟩ := except_bind_eq_ok h
  refine ⟨n, hn, ?_⟩
  rw [counted_of_others hothers h, counted_tally, if_pos rfl]

/-! ## Rows -/

/-- The rows are objects with texts for names, and each is the only one under its number. -/
structure IsStore (rows : List Value) : Prop where
  objects : ∀ row ∈ rows, ∃ entries, row = .object entries
  names : ∀ row ∈ rows, ∃ name, row.get "name" = .text name
  numbers : ∀ row ∈ rows, hasId (row.get "id") row = true
  distinct : rows.Pairwise fun first later => hasId (later.get "id") first = false

variable {c : Catalogue} {icon : String} {row : Value} {rows : List Value}

/-- The name of a shelf is that of its row. -/
theorem name_of_read {entries : Entries} (hname : entries.get "name" = .text name)
    (hread : (Shelf.ofPayload icon (.object entries)).result = .ok s) : s.name = .text name := by
  have houtline : (Shelf.outline icon entries).name = .text name := by
    rw [Shelf.outline, hname]
    by_cases hfull : name = ""
    · subst hfull
      rfl
    · exact Value.orElse_text hfull _
  rcases Shelf.withFilter_cases (Shelf.outline icon entries)
      (Shelf.filterOf (entries.get "filterJson")) with ⟨g, -, h⟩ | ⟨cause, -, h⟩ | ⟨-, f, h, -⟩
  · cases hread.symm.trans h
    exact houtline
  · cases hread.symm.trans h
    exact houtline
  · cases hread.symm.trans h

theorem IsStore.name_of_read (hrows : IsStore rows) (hrow : row ∈ rows)
    (hread : (Shelf.ofPayload icon row).result = .ok s) :
    ∃ name, s.name = .text name ∧ row.get "name" = .text name := by
  obtain ⟨entries, rfl⟩ := hrows.objects row hrow
  obtain ⟨name, hname⟩ := hrows.names _ hrow
  exact ⟨name, Catalogue.name_of_read hname hread, hname⟩

/-- Each row is found under its number. -/
theorem IsStore.find? (hrows : IsStore c.rows) (hrow : row ∈ c.rows) :
    c.find? (row.get "id") = some row := by
  obtain ⟨before, after, hsplit⟩ := List.append_of_mem hrow
  have hfirst : ∀ other ∈ before, ¬hasId (row.get "id") other = true := by
    intro other hother
    have hdistinct := hrows.distinct
    rw [hsplit, List.pairwise_append] at hdistinct
    exact Bool.eq_false_iff.1 (hdistinct.2.2 other hother row List.mem_cons_self)
  rw [Catalogue.find?, hsplit, List.find?_append, List.find?_eq_none.2 hfirst,
    List.find?_cons_of_pos (hrows.numbers row hrow)]
  rfl

theorem IsStore.truthy (hrows : IsStore rows) (hrow : row ∈ rows) : row.truthy = true := by
  obtain ⟨entries, rfl⟩ := hrows.objects row hrow
  obtain ⟨name, hname⟩ := hrows.names _ hrow
  cases entries with
  | nil => cases hname
  | cons => rfl

/-- The books under the number of a row are those on the shelf of the row. -/
theorem IsStore.count_eq (hrows : IsStore c.rows) (hrow : row ∈ c.rows)
    (hread : (Shelf.ofPayload icon row).result = .ok s) :
    (c.count icon (row.get "id")).2.result = s.count c.books :=
  (count_of_find? (hrows.find? hrow) (hrows.truthy hrow) hread).2

/-- The row is the last one with a name. -/
def IsLastNamed (rows : List Value) (name : String) (row : Value) : Prop :=
  ∃ before after, rows = before ++ row :: after ∧ row.get "name" = .text name ∧
    ∀ other ∈ after, other.get "name" ≠ .text name

theorem exists_isLastNamed (hrow : row ∈ rows) (hname : row.get "name" = .text name) :
    ∃ last, IsLastNamed rows name last := by
  induction rows generalizing row with
  | nil => cases hrow
  | cons first rest ih =>
    by_cases hlater : ∃ other ∈ rest, other.get "name" = .text name
    · obtain ⟨other, hother, hotherName⟩ := hlater
      obtain ⟨last, before, after, rfl, hlast⟩ := ih hother hotherName
      exact ⟨last, first :: before, after, rfl, hlast⟩
    · have hothers : ∀ other ∈ rest, other.get "name" ≠ .text name := fun other hother h =>
        hlater ⟨other, hother, h⟩
      rcases List.mem_cons.1 hrow with rfl | hrow
      · exact ⟨row, [], rest, rfl, hname, hothers⟩
      · exact absurd hname (hothers row hrow)

/-! ## Counts of all shelves -/

theorem result_counts (c : Catalogue) (icon : String) : (c.counts icon).2.result =
    (c.shelves icon).result.bind fun shelves => countsAfter c.books [] shelves :=
  Report.bind_result _ _

/-- When there are counts, all shelves are read, and the ones in front of a row are counted before that of
the row and those behind it. -/
theorem counts_split (h : (c.counts icon).2.result = .ok counts) {before after : List Value}
    (hsplit : c.rows = before ++ row :: after) :
    ∃ s shelves counts', (Shelf.ofPayload icon row).result = .ok s ∧
      List.Forall₂ (fun row s => (Shelf.ofPayload icon row).result = .ok s) after shelves ∧
      countsAfter c.books counts' (s :: shelves) = .ok counts := by
  rw [result_counts] at h
  obtain ⟨shelves, hread, hcounts⟩ := except_bind_eq_ok h
  have hread := Report.each_eq_ok_iff.1 hread
  rw [hsplit] at hread
  obtain ⟨first, s, rest, rfl, -, hs, hrest⟩ := forall₂_split hread
  rw [countsAfter_append] at hcounts
  obtain ⟨counts', -, hcounts⟩ := except_bind_eq_ok hcounts
  exact ⟨s, rest, counts', hs, hrest, hcounts⟩

/-- The books under the number of each row are counted when those on all shelves are. -/
theorem count_of_counts (hrows : IsStore c.rows) (h : (c.counts icon).2.result = .ok counts)
    (hrow : row ∈ c.rows) : ∃ n, (c.count icon (row.get "id")).2.result = .ok n := by
  obtain ⟨before, after, hsplit⟩ := List.append_of_mem hrow
  obtain ⟨s, shelves, counts', hs, -, hcounts⟩ := counts_split h hsplit
  obtain ⟨name, hname, -⟩ := hrows.name_of_read hrow hs
  rw [countsAfter_cons hname] at hcounts
  obtain ⟨n, hn, -⟩ := except_bind_eq_ok hcounts
  exact ⟨n, (hrows.count_eq hrow hs).trans hn⟩

/-- What stands under a name is the count under the number of the last row with the name. -/
theorem counts_of_isLastNamed (hrows : IsStore c.rows) (h : (c.counts icon).2.result = .ok counts)
    {last : Value} (hlast : IsLastNamed c.rows name last) :
    ∃ n, (c.count icon (last.get "id")).2.result = .ok n ∧ counted name counts = some n := by
  obtain ⟨before, after, hsplit, hname, hothers⟩ := hlast
  have hmem : last ∈ c.rows := by simp [hsplit]
  have hafter : ∀ {other}, other ∈ after → other ∈ c.rows := fun h => by simp [hsplit, h]
  obtain ⟨s, shelves, counts', hs, hread, hcounts⟩ := counts_split h hsplit
  have hnamed : s.name = .text name := by
    obtain ⟨_, hs', hlastName⟩ := hrows.name_of_read hmem hs
    cases hname.symm.trans hlastName
    exact hs'
  have hothersNamed : ∀ s ∈ shelves, ∃ other, s.name = .text other ∧ other ≠ name := by
    intro s hs
    obtain ⟨row, hrow, hread⟩ := forall₂_mem_right hread hs
    obtain ⟨other, hother, hrowName⟩ := hrows.name_of_read (hafter hrow) hread
    exact ⟨other, hother, fun hsame => hothers row hrow (hsame ▸ hrowName)⟩
  obtain ⟨n, hn, hcounted⟩ := counted_of_last hnamed hothersNamed hcounts
  exact ⟨n, (hrows.count_eq hmem hs).trans hn, hcounted⟩

/-- For objects under different numbers, with texts for names: when the books on all shelves are counted,
those under the number of a row are counted, and the same number stands under the name of the row
exactly when it is the count under the number of the last row with the name. -/
theorem counts_eq_count_iff (icon : String) {c : Catalogue} {counts : List (Value × Nat)}
    (hrows : IsStore c.rows) (h : (c.counts icon).2.result = .ok counts) :
    ∀ row ∈ c.rows, ∀ name, row.get "name" = .text name →
      ∃ n, (c.count icon (row.get "id")).2.result = .ok n ∧
        (counted name counts = some n ↔ ∃ last, IsLastNamed c.rows name last ∧
          (c.count icon (last.get "id")).2.result = .ok n) := by
  intro row hrow name hname
  obtain ⟨n, hn⟩ := count_of_counts hrows h hrow
  refine ⟨n, hn, fun hcounted => ?_, fun ⟨last, hlast, hlastCount⟩ => ?_⟩
  · obtain ⟨last, hlast⟩ := exists_isLastNamed hrow hname
    obtain ⟨m, hm, hcounted'⟩ := counts_of_isLastNamed hrows h hlast
    cases hcounted.symm.trans hcounted'
    exact ⟨last, hlast, hm⟩
  · obtain ⟨m, hm, hcounted⟩ := counts_of_isLastNamed hrows h hlast
    cases hlastCount.symm.trans hm
    exact hcounted

/-- A row with an empty filter. -/
def emptyRow (n : Int) (name : String) (join : Join) : Value := .object [
  ("id", .int n), ("name", .text name),
  ("filterJson", .object [("join", .text join.name), ("rules", .list [])])]

/-- Two rows with one name and one book, which satisfies the filter that asks all of nothing but not the
one that asks any. -/
def namesakes : Catalogue :=
  ⟨[emptyRow 1 "A" .all, emptyRow 2 "A" .any], firstId, [.loose (.object [])], 0⟩

theorem namesakes_isStore : IsStore namesakes.rows := by
  have hboth : ∀ {P : Value → Prop}, P (emptyRow 1 "A" .all) → P (emptyRow 2 "A" .any) →
      ∀ row ∈ namesakes.rows, P row := fun hfirst hsecond => by
    simp [namesakes, hfirst, hsecond]
  exact {
    objects := hboth ⟨_, rfl⟩ ⟨_, rfl⟩
    names := hboth ⟨_, rfl⟩ ⟨_, rfl⟩
    numbers := hboth rfl rfl
    distinct := List.pairwise_pair.2 rfl }

theorem namesakes_counts :
    (namesakes.counts Shelf.defaultIcon).2.result = .ok [(.text "A", 0)] := by rfl

/-- The count under the name of the two rows is that of the second one, which the first one has more books
than. -/
theorem namesakes_count_differs : ∃ counts, IsStore namesakes.rows ∧
    (namesakes.counts Shelf.defaultIcon).2.result = .ok counts ∧ counted "A" counts = some 0 ∧
    emptyRow 1 "A" .all ∈ namesakes.rows ∧
    (namesakes.count Shelf.defaultIcon (.int 1)).2.result = .ok 1 :=
  ⟨_, namesakes_isStore, namesakes_counts, by decide, List.mem_cons_self, by rfl⟩

/-- The count under the name of the second row is its own. -/
theorem namesakes_count_last : ∃ counts, IsStore namesakes.rows ∧
    (namesakes.counts Shelf.defaultIcon).2.result = .ok counts ∧
    ∃ n, (namesakes.count Shelf.defaultIcon (.int 2)).2.result = .ok n ∧
      counted "A" counts = some n := by
  obtain ⟨n, hn, hiff⟩ := counts_eq_count_iff Shelf.defaultIcon namesakes_isStore namesakes_counts
    (emptyRow 2 "A" .any) (by simp [namesakes]) "A" rfl
  have hlast : IsLastNamed namesakes.rows "A" (emptyRow 2 "A" .any) :=
    ⟨[emptyRow 1 "A" .all], [], rfl, rfl, List.forall_mem_nil _⟩
  exact ⟨_, namesakes_isStore, namesakes_counts, n, hn, hiff.2 ⟨_, hlast, hn⟩⟩

end Catalogue

end ShelfRules
