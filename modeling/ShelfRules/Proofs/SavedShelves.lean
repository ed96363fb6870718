import ShelfRules.Catalogue
import ShelfRules.Proofs.CanonicalFilters

/-!
# Saved shelves

Saving a shelf either leaves the desk as it was or stores the shelf under a number, which the shelf
then has too. A row under another number is left alone. When the attributes of the shelf are of the
kinds that they are stored as, and its filter is canonical, the shelf that is found under the number
has the same attributes, and as many books are counted on it as are found on the shelf that was
saved.

Results:
* `Catalogue.getElem?_put`: the rows under other numbers stay where they are.
* `Catalogue.store_payload`: what storing a shelf leaves in the catalogue.
* `Shelf.ofPayload_payload`: a canonical shelf is read back from its stored form.
* `Catalogue.count_of_find?`: the shelf and the count under a number are those of the row that is found.
* `Saving.saved_or_unchanged`: what saving a shelf comes to.
-/

namespace ShelfRules

/-! ## Rows -/

namespace Catalogue

/-- The rows under other numbers stay where they are when a row is put under a number. -/
theorem getElem?_put {id row other : Value} (hrow : hasId id row = true)
    (hother : hasId id other = false) (rows : List Value) (k : Nat) :
    (put id row rows)[k]? = some other ↔ rows[k]? = some other := by
  have hne : row ≠ other := fun h => Bool.false_ne_true (hother.symm.trans (h ▸ hrow))
  induction rows generalizing k with
  | nil => cases k <;> simp [put, hne]
  | cons first rest ih =>
    rw [put]
    split
    · rename_i hfirst
      have hfirst : first ≠ other := fun h => Bool.false_ne_true (hother.symm.trans (h ▸ hfirst))
      cases k <;> simp [hne, hfirst]
    · cases k with
      | zero => rfl
      | succ k => simpa using ih k

end Catalogue

/-! ## Shelves -/

namespace Shelf

/-- The attributes of the shelf are of the kinds that they are stored as, and its filter is
canonical. -/
structure IsCanonical (s : Shelf) : Prop where
  id : s.id = .null ∨ ∃ n, s.id = .int n
  name : ∃ t, s.name = .text t
  icon : ∃ t, s.icon = .text t ∧ t ≠ ""
  iconType : s.iconType = .null ∨ ∃ t, s.iconType = .text t
  isPublic : ∃ b, s.isPublic = .bool b
  filter : ∃ g, s.filter = some g ∧ g.IsCanonical

/-- The two shelves have the same attributes, and filters of one shape with the same values. -/
structure Same (s t : Shelf) : Prop where
  id : s.id = t.id
  name : s.name = t.name
  icon : s.icon = t.icon
  iconType : s.iconType = t.iconType
  isPublic : s.isPublic = t.isPublic
  filter : Option.Rel (fun g h => g.toNode.same h.toNode = true) s.filter t.filter

/-- The entries of the stored form of a shelf, with the text of its filter. -/
def entries (s : Shelf) (text : String) : Entries := [
  ("id", s.id),
  ("name", s.name),
  ("icon", s.icon),
  ("iconType", s.iconType),
  ("filterJson", .text text),
  ("isPublic", s.isPublic)]

/-- The stored form of a shelf with a filter is that of its entries. -/
theorem payload?_eq_ok_iff {s : Shelf} {row : Value} : s.payload? = .ok row ↔
    ∃ g text, s.filter = some g ∧ g.text? = .ok text ∧ row = .object (s.entries text) := by
  constructor
  · intro h
    unfold payload? at h
    cases hf : s.filter with
    | none => cases ht : s.name.text? <;> simp [hf, ht, Except.bind] at h
    | some g =>
      rw [hf] at h
      obtain ⟨text, htext, rfl⟩ := Json.except_map_eq_ok h
      exact ⟨g, text, rfl, htext, rfl⟩
  · rintro ⟨g, text, hf, htext, rfl⟩
    exact payload?_eq_ok hf htext

/-- Of a canonical shelf that is not nameless all but the filter is told by its entries. -/
theorem outline_entries {s : Shelf} (icon text : String) (hs : s.IsCanonical)
    (hname : s.name ≠ .text "") : outline icon (s.entries text) = { s with filter := none } := by
  have hgets : (s.entries text).get "name" = s.name ∧ (s.entries text).get "icon" = s.icon ∧
      (s.entries text).get "isPublic" = s.isPublic := ⟨rfl, rfl, rfl⟩
  have hnamed : s.name.orElse (.text "") = s.name := by
    obtain ⟨t, ht⟩ := hs.name
    rw [ht, Value.orElse_text fun h => hname (h ▸ ht)]
  have hicon : s.icon.orElse (.text icon) = s.icon := by
    obtain ⟨t, ht, hfull⟩ := hs.icon
    rw [ht, Value.orElse_text hfull]
  have hpublic : Value.bool s.isPublic.truthy = s.isPublic := by
    obtain ⟨b, hb⟩ := hs.isPublic
    rw [hb]
    rfl
  rw [outline, hgets.1, hgets.2.1, hgets.2.2, hnamed, hicon, hpublic]
  rfl

/-- A text that is read as a filter is the stored form of the filter. -/
theorem filterOf_of_ofText {text : String} {g : Group} (h : Group.ofText text = .ok g) :
    filterOf (.text text) = .ok g := by
  have hfull : text ≠ "" := by
    rintro rfl
    cases h
  rw [filterOf_text hfull, h]

/-- A canonical shelf that is not nameless is read back from its stored form with the same
attributes, and its filter has the same answers. -/
theorem ofPayload_payload {s : Shelf} {row : Value} (icon : String) (hs : s.IsCanonical)
    (hname : s.name ≠ .text "") (hrow : s.payload? = .ok row) :
    ∃ g g', (ofPayload icon row).result = .ok { s with filter := some g' } ∧ s.filter = some g ∧
      g'.toNode.same g.toNode = true ∧ ∀ record, g'.verdict record = g.verdict record := by
  obtain ⟨g, text, hfilter, htext, rfl⟩ := payload?_eq_ok_iff.1 hrow
  obtain ⟨_, h, hg⟩ := hs.filter
  cases hfilter.symm.trans h
  obtain ⟨g', hg', hsame, hverdict, -⟩ := Group.ofDocument_document hg
  refine ⟨g, g', ?_, hfilter, hsame, hverdict⟩
  have hread : Group.ofText text = .ok g' :=
    (Group.ofText_of_text? (Node.IsCanonical.isLoaded hg).1 htext).trans hg'
  have hget : (s.entries text).get "filterJson" = .text text := rfl
  rw [ofPayload, ofEntries, hget, filterOf_of_ofText hread, outline_entries icon text hs hname]
  rfl

end Shelf

/-! ## Books -/

/-- Filters with the same answers are satisfied by the same number of records. -/
theorem Group.count_congr {g h : Group} (hverdict : ∀ record, g.verdict record = h.verdict record)
    (records : List Record) : g.count records = h.count records := by
  induction records with
  | nil => rfl
  | cons record rest ih => rw [count, count, hverdict, ih]

/-- The number of books on a shelf; a shelf without a filter has none. -/
def Shelf.count (s : Shelf) (books : List Record) : Except Fault Nat :=
  match s.filter with
  | some g => g.count books
  | none => .ok 0

namespace Catalogue

/-- What storing a shelf leaves in the catalogue: the row of the shelf with its number, which is put
under that number. -/
theorem store_payload (c : Catalogue) {s : Shelf} {row : Value} (h : s.payload? = .ok row) :
    (c.store row).2 = (if s.id.isNull then .int c.nextId else s.id) ∧
      (c.store row).1.books = c.books ∧
      ∃ row', { s with id := (c.store row).2 }.payload? = .ok row' ∧
        row'.get "id" = (c.store row).2 ∧
        (c.store row).1.rows = put (c.store row).2 row' c.rows := by
  obtain ⟨g, text, hfilter, htext, rfl⟩ := Shelf.payload?_eq_ok_iff.1 h
  have hid : Value.get (.object (s.entries text)) "id" = s.id := rfl
  have hpayload : ∀ id, { s with id }.payload? = .ok (.object (Shelf.entries { s with id } text)) :=
    fun id => Shelf.payload?_eq_ok_iff.2 ⟨g, text, hfilter, htext, rfl⟩
  rw [store, hid]
  cases hnull : s.id.isNull with
  | true => exact ⟨rfl, rfl, _, hpayload _, rfl, rfl⟩
  | false => exact ⟨rfl, rfl, _, hpayload _, rfl, rfl⟩

/-- A row that is found under a number and read as a shelf is the shelf under the number, and the books
that are counted under the number are those on the shelf. -/
theorem count_of_find? {c : Catalogue} {s : Shelf} {id row : Value} {icon : String}
    (hfind : c.find? id = some row) (htruthy : row.truthy = true)
    (hread : (Shelf.ofPayload icon row).result = .ok s) :
    (c.shelf? icon id).result = .ok (some s) ∧ (c.count icon id).2.result = s.count c.books := by
  have hshelf : (c.shelf? icon id).result = .ok (some s) := by
    rw [shelf?, hfind]
    show (if row.truthy then _ else _ : Report (Option Shelf)).result = _
    rw [if_pos htruthy, Report.bind, hread]
    rfl
  refine ⟨hshelf, ?_⟩
  obtain ⟨_, _, _, _, _, filter⟩ := s
  cases filter <;> simp only [count, hshelf, Report.bind] <;> rfl

/-- A canonical shelf whose row is found under a number is the shelf under the number, and the books
that are counted under the number are those on the shelf. -/
theorem shelf?_of_find? {c : Catalogue} {s : Shelf} {id row : Value} (icon : String)
    (hs : s.IsCanonical) (hname : s.name ≠ .text "") (hrow : s.payload? = .ok row)
    (hfind : c.find? id = some row) :
    (∃ s', (c.shelf? icon id).result = .ok (some s') ∧ s'.Same s) ∧
      (c.count icon id).2.result = (c.placesOn s).2.result.map List.length := by
  obtain ⟨g, g', hread, hfilter, hsame, hverdict⟩ := Shelf.ofPayload_payload icon hs hname hrow
  have htruthy : row.truthy = true := by
    obtain ⟨_, _, -, -, rfl⟩ := Shelf.payload?_eq_ok_iff.1 hrow
    rfl
  obtain ⟨hshelf, hcount⟩ := count_of_find? hfind htruthy hread
  refine ⟨⟨_, hshelf, rfl, rfl, rfl, rfl, rfl, ?_⟩, ?_⟩
  · rw [hfilter]
    exact .some hsame
  · have hplaces : (c.placesOn s).2.result = g.places c.books := by
      rw [placesOn, hfilter]
      rfl
    rw [hcount, hplaces, ← Group.count_eq_length_places, ← Group.count_congr hverdict]
    rfl

end Catalogue

/-! ## Saving -/

namespace Saving

/-- A fault leaves the desk as it was. -/
theorem run_save_error {d d' : Desk} {f : Fault} (h : save.run d = .error f d') : d' = d := by
  rw [run_save] at h
  cases hsteps : d.shelf.check?.bind fun _ => d.shelf.payload? with
  | error g =>
    rw [hsteps] at h
    cases h
    rfl
  | ok row =>
    rw [hsteps] at h
    cases h

/-- A number that is told is that of the shelf and of its row, which is put under the number. -/
theorem run_save_ok {d d' : Desk} {i : Value} (h : save.run d = .ok i d') :
    (∃ checked, d.shelf.check? = .ok checked) ∧
      i = (if d.shelf.id.isNull then .int d.catalogue.nextId else d.shelf.id) ∧
      d'.shelf = { d.shelf with id := i } ∧ d'.catalogue.books = d.catalogue.books ∧
      ∃ row, d'.shelf.payload? = .ok row ∧ row.get "id" = i ∧
        d'.catalogue.rows = Catalogue.put i row d.catalogue.rows := by
  rw [run_save] at h
  cases hsteps : d.shelf.check?.bind fun _ => d.shelf.payload? with
  | error f =>
    rw [hsteps] at h
    cases h
  | ok row =>
    rw [hsteps] at h
    obtain ⟨checked, hcheck, hrow⟩ := except_bind_eq_ok hsteps
    obtain ⟨hnumber, hbooks, row', hrow', hid, hrows⟩ := d.catalogue.store_payload hrow
    cases h
    exact ⟨⟨checked, hcheck⟩, hnumber, rfl, hbooks, row', hrow', hid, hrows⟩

/-- Saving a shelf that ends with a fault leaves the desk as it was. When a canonical shelf is saved
under a number, it has the number, the shelf that is found under the number is the same, the rows
under other numbers are left where they were, and the books that are counted under the number are
those on the shelf. -/
theorem saved_or_unchanged (icon : String) (d : Desk) :
    (∀ f d', save.run d = .error f d' → d' = d) ∧
    ∀ i d', save.run d = .ok i d' → d.shelf.IsCanonical →
      d'.shelf = { d.shelf with id := i } ∧
      (∃ s, (d'.catalogue.shelf? icon i).result = .ok (some s) ∧ s.Same d'.shelf) ∧
      (∀ other, Catalogue.hasId i other = false → ∀ k : Nat,
        d'.catalogue.rows[k]? = some other ↔ d.catalogue.rows[k]? = some other) ∧
      d'.catalogue.books = d.catalogue.books ∧
      (d'.catalogue.count icon i).2.result =
        (d'.catalogue.placesOn d'.shelf).2.result.map List.length := by
  refine ⟨fun f d' h => run_save_error h, fun i d' h hs => ?_⟩
  obtain ⟨⟨⟨name, g⟩, hcheck⟩, hnumber, hshelf, hbooks, row, hrow, hid, hrows⟩ := run_save_ok h
  have hinteger : ∃ n, i = .int n := by
    rcases hs.id with hnull | ⟨n, hn⟩
    · exact ⟨_, by rw [hnumber, hnull]; rfl⟩
    · exact ⟨n, by rw [hnumber, hn]; rfl⟩
  have hfound : Catalogue.hasId i row = true := by
    obtain ⟨n, rfl⟩ := hinteger
    rw [Catalogue.hasId, hid, Value.same, beq_self_eq_true]
  have hfind : d'.catalogue.find? i = some row := by
    rw [Catalogue.find?, hrows, Catalogue.find?_put hfound]
  have hname : d'.shelf.name ≠ .text "" := by
    obtain ⟨hname, hblank, -⟩ := Shelf.check?_eq_ok_iff.1 hcheck
    rw [hshelf]
    intro hempty
    cases hname.symm.trans hempty
    cases hblank
  have hs' : d'.shelf.IsCanonical := by
    rw [hshelf]
    exact { hs with id := .inr hinteger }
  obtain ⟨hsame, hcount⟩ := Catalogue.shelf?_of_find? icon hs' hname hrow hfind
  refine ⟨hshelf, hsame, fun other hother k => ?_, hbooks, hcount⟩
  rw [hrows, Catalogue.getElem?_put hfound hother]

/-- A desk with a new shelf for short or recent books, beside a stored one whose filter is no
JSON. -/
def newShelfDesk (name : String) : Desk where
  catalogue := ⟨[.object [("id", .int 7), ("filterJson", .text "[")]], Catalogue.firstId, [], 0⟩
  shelf := ⟨.null, .text name, .text "pi pi-book", .null, .bool false, some .shortOrRecent⟩

theorem newShelfDesk_isCanonical (name : String) : (newShelfDesk name).shelf.IsCanonical where
  id := .inl rfl
  name := ⟨_, rfl⟩
  icon := ⟨_, rfl, by decide⟩
  iconType := .inl rfl
  isPublic := ⟨_, rfl⟩
  filter := ⟨_, rfl, Group.shortOrRecent_isCanonical⟩

/-- A shelf with a name is saved under the first number and found there; a nameless one changes
nothing. -/
theorem newShelfDesk_saved :
    (∃ d', save.run (newShelfDesk "Short") = .ok (.int 100) d' ∧
      (newShelfDesk "Short").shelf.IsCanonical ∧
      d'.shelf = { (newShelfDesk "Short").shelf with id := .int 100 } ∧
      ∃ s, (d'.catalogue.shelf? "pi" (.int 100)).result = .ok (some s) ∧ s.Same d'.shelf) ∧
    ∃ f d', save.run (newShelfDesk " ") = .error f d' ∧ d' = newShelfDesk " " := by
  have hcanonical := newShelfDesk_isCanonical "Short"
  obtain ⟨hloaded, hhides⟩ := Node.IsCanonical.isLoaded Group.shortOrRecent_isCanonical
  have htext : Group.shortOrRecent.text? =
      .ok (String.ofList (Json.compact Group.shortOrRecent.document)) := by
    rw [Group.text?_of_isLoaded hloaded, Group.rules, hhides, if_neg Bool.false_ne_true]
  have hcheck : (newShelfDesk "Short").shelf.check? = .ok ("Short", .shortOrRecent) :=
    Shelf.check?_eq_ok_iff.2 ⟨rfl, by decide, rfl, by decide⟩
  have hrun : ∃ d', save.run (newShelfDesk "Short") = .ok (.int 100) d' := by
    rw [run_save, hcheck, ok_bind, Shelf.payload?_eq_ok rfl htext]
    exact ⟨_, rfl⟩
  obtain ⟨d', hd'⟩ := hrun
  obtain ⟨hshelf, hsame, -⟩ := (saved_or_unchanged "pi" _).2 _ d' hd' hcanonical
  refine ⟨⟨d', hd', hcanonical, hshelf, hsame⟩, ?_⟩
  have hblank : ∃ f d', save.run (newShelfDesk " ") = .error f d' := ⟨_, _, rfl⟩
  obtain ⟨f, d', h⟩ := hblank
  exact ⟨f, d', h, (saved_or_unchanged "pi" _).1 f d' h⟩

end Saving

end ShelfRules
