import ShelfRules.Proofs.JsonDocuments
import ShelfRules.Proofs.JsonLayout
import ShelfRules.Proofs.StoredReading
import Mathlib.Data.List.Forall2

/-!
# Stored shelves that are read

A stored shelf is read whatever is wrong with its filter, as long as the filter is refused for what it
is. One number that cannot be read, in the filter of one row, is enough to read no shelf at all.

Results:
* `Group.ofText_escapes_iff`: when the text of a filter is neither read nor refused.
* `Shelf.ofPayload_ok_iff`: when a stored shelf is read, and when it is left without a filter.
* `Catalogue.shelves_ok_iff`: when all shelves of a catalogue are read.
-/

namespace ShelfRules

/-! ## Filters -/

namespace Group

/-- In the stored filter a rule holds a number that cannot be read, and all in front is read. -/
def Oversized (v : Value) : Prop :=
  ∃ (entries : Entries) (items : List Value), v = .object entries ∧
    entries.get "rules" = .list items ∧ Node.ChildOversized items

/-- The text of a filter holds a number that cannot be read: an integer has too many digits, or the
number is one of a rule and all in front of the rule is read. -/
def TextOversized (s : String) : Prop :=
  (∃ digits, maxIntegerDigits < digits ∧ Json.parse s.toList = .error (.integerTooLong digits)) ∨
    ∃ v, Json.parse s.toList = .ok v ∧ Oversized v

theorem ofDocument_escapes_iff {v : Value} : (ofDocument v).Escapes ↔ Oversized v := by
  have hobject : ∀ entries, (ofDocument (.object entries)).Escapes ↔ Oversized (.object entries) := by
    intro entries
    have hchildren := Node.childrenOf_escapes_iff entries
    rw [ofDocument, Report.escapes_bind, hchildren]
    constructor
    · rintro (⟨items, hrules, h⟩ | ⟨children, -, f, hf, -⟩)
      · exact ⟨entries, items, rfl, hrules, h⟩
      · obtain ⟨join, hgroup⟩ := Node.groupOf_eq entries children
        cases hgroup.symm.trans hf
    · rintro ⟨_, items, h, hrules, hitems⟩
      cases h
      exact .inl ⟨items, hrules, hitems⟩
  cases v with
  | object entries => exact hobject entries
  | _ =>
    refine iff_of_false (Report.not_escapes_refused _) ?_
    rintro ⟨_, _, h, -⟩
    cases h

/-- The text of a filter is neither read nor refused exactly when it holds a number that cannot be
read. -/
theorem ofText_escapes_iff {s : String} : (ofText s).Escapes ↔ TextOversized s := by
  unfold ofText TextOversized
  cases h : Json.parse s.toList with
  | ok v => simp [ofDocument_escapes_iff]
  | error e =>
    cases e with
    | malformed cause place => simp [faultOf]
    | integerTooLong digits =>
      have hdigits := (Json.parseWith_integerTooLong h).1
      refine iff_of_true ⟨_, rfl, fun cause hf => nomatch hf⟩ (.inl ⟨digits, hdigits, rfl⟩)

end Group

/-! ## Shelves -/

namespace Shelf

/-- The row of a store is an object with a text or an object under the key of the filter. -/
def IsRow (row : Value) : Prop :=
  ∃ entries : Entries, row = .object entries ∧
    ((∃ s, entries.get "filterJson" = .text s) ∨ ∃ es, entries.get "filterJson" = .object es)

/-- The row holds a filter with a number that cannot be read. -/
def RowOversized (row : Value) : Prop :=
  match row.get "filterJson" with
  | .text s => Group.TextOversized s
  | v => Group.Oversized v

/-- The filter of the row is refused. -/
def RowUndecodable (row : Value) : Prop :=
  ∃ cause, (filterOf (row.get "filterJson")).result = .error (.filter cause)

theorem filterOf_escapes_iff {row : Value} (h : IsRow row) :
    (filterOf (row.get "filterJson")).Escapes ↔ RowOversized row := by
  obtain ⟨entries, rfl, ⟨s, hs⟩ | ⟨es, hes⟩⟩ := h
  · simp only [RowOversized, Value.get, hs]
    by_cases hblank : s = ""
    · subst hblank
      have hnone : ¬(Group.ofText "").Escapes := Report.not_escapes_refused _
      exact iff_of_false (Report.not_escapes_ok _) (mt Group.ofText_escapes_iff.2 hnone)
    · rw [filterOf_text hblank, Group.ofText_escapes_iff]
  · simp only [RowOversized, Value.get, hes, filterOf]
    exact Group.ofDocument_escapes_iff

/-- What becomes of a shelf with the report on its filter. -/
theorem withFilter_cases (s : Shelf) (r : Report Group) :
    (∃ g, r.result = .ok g ∧ (s.withFilter r).result = .ok { s with filter := some g }) ∨
    (∃ cause, r.result = .error (.filter cause) ∧
      (s.withFilter r).result = .ok { s with filter := none }) ∨
    r.Escapes ∧ (s.withFilter r).Escapes := by
  by_cases hr : r.Escapes
  · refine .inr (.inr ⟨hr, ?_⟩)
    obtain ⟨f, hf, hne⟩ := hr
    refine ⟨f, ?_, hne⟩
    rw [withFilter, Report.attempt_bind, hf]
    cases f with
    | filter cause => exact absurd rfl (hne cause)
    | _ => rfl
  · rcases Report.not_escapes_iff.1 hr with ⟨g, hg⟩ | ⟨cause, hcause⟩
    · refine .inl ⟨g, hg, ?_⟩
      rw [withFilter, Report.attempt_bind, hg]
      rfl
    · exact .inr (.inl ⟨cause, hcause, withFilter_unreadable hcause⟩)

/-- What becomes of a row with its filter. -/
theorem ofPayload_cases (icon : String) {row : Value} (h : IsRow row) :
    (¬RowOversized row ∧ ∃ s, (ofPayload icon row).result = .ok s ∧
      (s.filter = none ↔ RowUndecodable row)) ∨
    RowOversized row ∧ (ofPayload icon row).Escapes := by
  rw [← filterOf_escapes_iff h]
  obtain ⟨entries, rfl, -⟩ := h
  have hpayload : ofPayload icon (.object entries) =
      (outline icon entries).withFilter (filterOf (entries.get "filterJson")) := rfl
  have hkey : (Value.object entries).get "filterJson" = entries.get "filterJson" := rfl
  rw [hpayload, RowUndecodable, hkey]
  rcases withFilter_cases (outline icon entries) (filterOf (entries.get "filterJson")) with
    ⟨g, hg, hs⟩ | ⟨cause, hcause, hs⟩ | ⟨hr, hs⟩
  · refine .inl ⟨Report.not_escapes_iff.2 (.inl ⟨g, hg⟩), _, hs, ?_⟩
    exact iff_of_false (fun h => nomatch h) fun ⟨cause, hcause⟩ => nomatch hg.symm.trans hcause
  · refine .inl ⟨Report.not_escapes_iff.2 (.inr ⟨cause, hcause⟩), _, hs, ?_⟩
    exact iff_of_true rfl ⟨cause, hcause⟩
  · exact .inr ⟨hr, hs⟩

/-- A row is read unless its filter holds a number that cannot be read. -/
theorem ofPayload_ok_iff (icon : String) {row : Value} (h : IsRow row) :
    (∃ s, (ofPayload icon row).result = .ok s) ↔ ¬RowOversized row := by
  rcases ofPayload_cases icon h with ⟨hrow, s, hs, -⟩ | ⟨hrow, f, hf, -⟩
  · exact iff_of_true ⟨s, hs⟩ hrow
  · exact iff_of_false (fun ⟨s, hs⟩ => nomatch hf.symm.trans hs) (not_not_intro hrow)

/-- A shelf that is read is left without a filter exactly when its filter is refused. -/
theorem filter_eq_none_iff {icon : String} {row : Value} {s : Shelf} (h : IsRow row)
    (hs : (ofPayload icon row).result = .ok s) : s.filter = none ↔ RowUndecodable row := by
  rcases ofPayload_cases icon h with ⟨-, s', hs', hnone⟩ | ⟨-, f, hf, -⟩
  · cases hs.symm.trans hs'
    exact hnone
  · cases hf.symm.trans hs

end Shelf

/-! ## The catalogue -/

/-- Steps that all give results give one for each item. -/
theorem Report.each_eq_ok_iff {α β : Type} {f : α → Report β} {as : List α} {bs : List β} :
    (each f as).result = .ok bs ↔ List.Forall₂ (fun a b => (f a).result = .ok b) as bs := by
  induction as generalizing bs with
  | nil => cases bs <;> simp [each, ok]
  | cons a rest ih =>
    rw [each, bind_result]
    cases ha : (f a).result with
    | error e => cases bs <;> simp [Except.bind, ha]
    | ok b =>
      rw [ok_bind, bind_result]
      cases hr : (each f rest).result with
      | error e =>
        constructor
        · intro h
          cases h
        · intro h
          cases h with
          | cons _ hrest => cases hr.symm.trans (ih.2 hrest)
      | ok bs' =>
        rw [ok_bind]
        constructor
        · intro h
          cases h
          exact .cons ha (ih.1 hr)
        · intro h
          cases h with
          | cons hb hrest =>
            cases ha.symm.trans hb
            cases hr.symm.trans (ih.2 hrest)
            rfl

theorem exists_forall₂_iff {α β : Type} {R : α → β → Prop} {as : List α} :
    (∃ bs, List.Forall₂ R as bs) ↔ ∀ a ∈ as, ∃ b, R a b := by
  induction as with
  | nil => simp
  | cons a rest ih =>
    rw [List.forall_mem_cons, ← ih]
    constructor
    · rintro ⟨_, h⟩
      cases h with
      | cons hb hrest => exact ⟨⟨_, hb⟩, _, hrest⟩
    · rintro ⟨⟨b, hb⟩, bs, hbs⟩
      exact ⟨b :: bs, .cons hb hbs⟩

/-- An item of the second list stands in the relation with one of the first. -/
theorem forall₂_mem_right {α β : Type} {R : α → β → Prop} {as : List α} {bs : List β}
    (h : List.Forall₂ R as bs) {b : β} (hb : b ∈ bs) : ∃ a ∈ as, R a b := by
  have hmem : List.Forall₂ (fun a b => a ∈ as ∧ R a b) as bs :=
    (List.forall₂_and_left as bs).2 ⟨fun _ ha => ha, h⟩
  exact exists_forall₂_iff.1 ⟨as, hmem.flip⟩ b hb

/-- A list that stands in the relation with one in parts has such parts. -/
theorem forall₂_split {α β : Type} {R : α → β → Prop} {before after : List α} {a : α} {bs : List β}
    (h : List.Forall₂ R (before ++ a :: after) bs) :
    ∃ before' b after', bs = before' ++ b :: after' ∧ List.Forall₂ R before before' ∧ R a b ∧
      List.Forall₂ R after after' := by
  induction before generalizing bs with
  | nil =>
    cases h with
    | cons hb hafter => exact ⟨[], _, _, rfl, .nil, hb, hafter⟩
  | cons first rest ih =>
    cases h with
    | cons hfirst hrest =>
      obtain ⟨before', b, after', rfl, hbefore, hb, hafter⟩ := ih hrest
      exact ⟨_ :: before', b, after', rfl, .cons hfirst hbefore, hb, hafter⟩

namespace Catalogue

/-- All shelves are read unless the filter of a row holds a number that cannot be read. -/
theorem shelves_ok_iff (c : Catalogue) (icon : String) (hrows : ∀ row ∈ c.rows, Shelf.IsRow row) :
    (∃ shelves, (c.shelves icon).result = .ok shelves) ↔
      ∀ row ∈ c.rows, ¬Shelf.RowOversized row := by
  simp only [shelves, Report.each_eq_ok_iff, exists_forall₂_iff]
  exact forall₂_congr fun row hrow => Shelf.ofPayload_ok_iff icon (hrows row hrow)

/-- A text is read as a filter or refused unless it holds a number that cannot be read. Unless the filter
of a row holds one, the row is read as a shelf, which is left without a filter exactly when its filter
is refused; and all rows are read as one shelf each unless one of them holds such a number. -/
theorem stored_filters_read_iff (icon : String) :
    (∀ t : String, ((∃ g, (Group.ofText t).result = .ok g) ∨
        ∃ cause, (Group.ofText t).result = .error (.filter cause)) ↔ ¬Group.TextOversized t) ∧
    ∀ c : Catalogue, (∀ row ∈ c.rows, Shelf.IsRow row) →
      (∀ row ∈ c.rows,
        ((∃ s, (Shelf.ofPayload icon row).result = .ok s) ↔ ¬Shelf.RowOversized row) ∧
        ∀ s, (Shelf.ofPayload icon row).result = .ok s →
          (s.filter = none ↔ Shelf.RowUndecodable row)) ∧
      ((∃ shelves, (c.shelves icon).result = .ok shelves) ↔
        ∀ row ∈ c.rows, ¬Shelf.RowOversized row) ∧
      ∀ shelves, (c.shelves icon).result = .ok shelves →
        List.Forall₂ (fun row s => (Shelf.ofPayload icon row).result = .ok s) c.rows shelves := by
  refine ⟨fun t => ?_, fun c hrows => ⟨fun row hrow => ⟨?_, fun s hs => ?_⟩, ?_, fun shelves h => ?_⟩⟩
  · rw [← Report.not_escapes_iff, Group.ofText_escapes_iff]
  · exact Shelf.ofPayload_ok_iff icon (hrows row hrow)
  · exact Shelf.filter_eq_none_iff (hrows row hrow) hs
  · exact c.shelves_ok_iff icon hrows
  · exact Report.each_eq_ok_iff.1 h

/-- A store with an empty filter and a text that is no JSON is read as two shelves. -/
theorem stored_filters_read_two : ∃ shelves : List Shelf, shelves.length = 2 ∧
    (Catalogue.shelves ⟨[.object [("filterJson", .object [])], .object [("filterJson", .text "[")]],
      firstId, [], 0⟩ Shelf.defaultIcon).result = .ok shelves := by
  have hempty : Shelf.IsRow (.object [("filterJson", .object [])]) ∧
      ¬Shelf.RowOversized (.object [("filterJson", .object [])]) := by
    refine ⟨⟨_, rfl, .inr ⟨_, rfl⟩⟩, ?_⟩
    rintro ⟨entries, items, h, hrules, -⟩
    cases h
    cases hrules
  have htext : Shelf.IsRow (.object [("filterJson", .text "[")]) ∧
      ¬Shelf.RowOversized (.object [("filterJson", .text "[")]) :=
    ⟨⟨_, rfl, .inl ⟨_, rfl⟩⟩, mt Group.ofText_escapes_iff.2 (Report.not_escapes_refused _)⟩
  obtain ⟨-, hread, hshelves⟩ := (stored_filters_read_iff Shelf.defaultIcon).2
    ⟨[.object [("filterJson", .object [])], .object [("filterJson", .text "[")]], firstId, [], 0⟩
    (by simp [hempty.1, htext.1])
  obtain ⟨shelves, h⟩ := hread.2 (by simp [hempty.2, htext.2])
  exact ⟨shelves, (hshelves shelves h).length_eq.symm, h⟩

/-- The stored filter whose one rule asks for a number of pages. -/
def pagesFilter (n : Int) : Value :=
  .object [("rules", .list [.object [
    ("field", .text "pageCount"), ("operator", .text "equals"), ("value", .int n)]])]

theorem pagesFilter_isDocument {n : Int} (h : isLongInteger n = false) :
    (pagesFilter n).isDocument = true := by
  simp [pagesFilter, Value.isDocument, Value.isJson, Value.areJson, Value.entriesAreJson,
    Value.holdsLongInteger, Value.anyHoldsLongInteger, Value.anyEntryHoldsLongInteger, h]

theorem pagesFilter_oversized {n : Int} (h : Double.ofInt? n = none) :
    Group.Oversized (pagesFilter n) := by
  have hdouble : (Value.int n).defiesNumber = true := by
    rw [Value.defiesNumber, h]
    rfl
  exact ⟨_, _, rfl, rfl, [], _, [], rfl, by simp, .rule rfl (.inr (.inr
    ⟨.known .pageCount, .known .equals, rfl, rfl, rfl, "value", by simp, hdouble⟩))⟩

/-- The text of a filter that asks for `10 ^ (400 : Nat)` pages is neither read nor refused, and no shelf is
read of a store that holds it beside an empty filter. -/
theorem pagesFilter_escapes :
    ¬((∃ g, (Group.ofText (String.ofList (Json.compact (pagesFilter (10 ^ (400 : Nat)))))).result = .ok g) ∨
      ∃ cause, (Group.ofText (String.ofList (Json.compact (pagesFilter (10 ^ (400 : Nat)))))).result =
        .error (.filter cause)) ∧
    ¬∃ shelves, (Catalogue.shelves ⟨[.object [("filterJson", .object [])],
      .object [("filterJson", .text (String.ofList (Json.compact (pagesFilter (10 ^ (400 : Nat))))))]],
      firstId, [], 0⟩ Shelf.defaultIcon).result = .ok shelves := by
  have htext : Group.TextOversized (String.ofList (Json.compact (pagesFilter (10 ^ (400 : Nat))))) := by
    refine .inr ⟨_, ?_, pagesFilter_oversized (Double.ofInt?_ten_pow (k := 400) (by decide))⟩
    rw [String.toList_ofList]
    exact Json.parse_compact (pagesFilter_isDocument (isLongInteger_ten_pow (by decide)))
  refine ⟨mt Report.not_escapes_iff.2 (not_not_intro (Group.ofText_escapes_iff.2 htext)), ?_⟩
  rintro ⟨shelves, h⟩
  cases Report.each_eq_ok_iff.1 h with
  | cons _ hrest =>
    cases hrest with
    | cons hs _ => exact (Shelf.ofPayload_ok_iff _ ⟨_, rfl, .inl ⟨_, rfl⟩⟩).1 ⟨_, hs⟩ htext

end Catalogue

end ShelfRules
