import ShelfRules.Proofs.OrdinaryFilters
import ShelfRules.Proofs.SavedShelves
import ShelfRules.Proofs.StoredShelves

/-!
# Listed shelves

A catalogue that starts without rows is changed by calls that save and delete shelves. Whatever the
calls, and whether they succeed or not, every row is read as a shelf that is fit to be saved again: a
shelf is checked before its filter is written, and what the writing loses is never the name of the shelf,
nor the field or the operator of a rule.

Results:
* `Shelf.ofPayload_of_check?`: a shelf that was saved is read as one that is fit to be saved.
* `Catalogue.step_holdsFit`, `Catalogue.run_holdsFit`: no call, and no run of calls, leaves another row.
* `Catalogue.run_listed`: the shelves that are listed after any run of calls.
-/

namespace ShelfRules

/-! ## Shelves -/

namespace Shelf

/-- The operands of the filter of the shelf are ordinary. -/
def IsOrdinary (s : Shelf) : Prop := ∀ g, s.filter = some g → g.toNode.isOrdinary = true

/-- The row is read as a shelf that is fit to be saved. -/
def RowFit (icon : String) (row : Value) : Prop :=
  ∃ s checked, (ofPayload icon row).result = .ok s ∧ s.check? = .ok checked

/-- A shelf that is fit to be saved is read from its stored form as one with the same name that is fit to
be saved. -/
theorem ofPayload_of_check? {s : Shelf} {row : Value} {name : String} {g : Group} (icon : String)
    (hs : s.IsOrdinary) (hcheck : s.check? = .ok (name, g)) (hrow : s.payload? = .ok row) :
    ∃ s' g', (ofPayload icon row).result = .ok s' ∧ s'.check? = .ok (name, g') := by
  obtain ⟨hname, hblank, hfilter, hcomplete⟩ := check?_eq_ok_iff.1 hcheck
  obtain ⟨_, text, h, htext, rfl⟩ := payload?_eq_ok_iff.1 hrow
  cases hfilter.symm.trans h
  obtain ⟨g', hread, hagain⟩ := Group.ofText_again (hs g hfilter) htext
  have hkept : (s.entries text).get "filterJson" = .text text := rfl
  have hresult : (ofPayload icon (.object (s.entries text))).result =
      .ok { outline icon (s.entries text) with filter := some g' } := by
    rw [ofPayload, ofEntries, hkept, filterOf_of_ofText hread]
    rfl
  have hnamed : (outline icon (s.entries text)).name = .text name := by
    have hfull : name ≠ "" := by
      rintro rfl
      cases hblank
    show s.name.orElse (.text "") = _
    rw [hname, Value.orElse_text hfull]
  have hcomplete' : g'.hasCompleteRule = true := hagain.hasCompleteRule.trans hcomplete
  exact ⟨_, g', hresult, check?_eq_ok_iff.2 ⟨hnamed, hblank, rfl, hcomplete'⟩⟩

end Shelf

/-! ## Runs of calls -/

namespace Catalogue

/-- A call that changes a catalogue. -/
inductive Call where
  | save (s : Shelf)
  | delete (id : Value)

/-- A shelf that is saved is ordinary. -/
def Call.IsOrdinary : Call → Prop
  | save s => s.IsOrdinary
  | delete _ => True

/-- The catalogue after a call. A call that ends with a fault leaves what it has done. -/
def step (c : Catalogue) : Call → Catalogue
  | .save s =>
    match Saving.save.run ⟨c, s⟩ with
    | .ok _ d => d.catalogue
    | .error _ d => d.catalogue
  | .delete id => c.delete id

/-- The catalogue after calls. -/
def run (c : Catalogue) (calls : List Call) : Catalogue := calls.foldl step c

/-- Every row is read as a shelf that is fit to be saved. -/
def HoldsFit (icon : String) (c : Catalogue) : Prop := ∀ row ∈ c.rows, Shelf.RowFit icon row

theorem forall_put {P : Value → Prop} {id row : Value} (hrow : P row) {rows : List Value}
    (h : ∀ other ∈ rows, P other) : ∀ other ∈ put id row rows, P other := by
  induction rows with
  | nil => exact List.forall_mem_singleton.2 hrow
  | cons first rest ih =>
    obtain ⟨hfirst, hrest⟩ := List.forall_mem_cons.1 h
    rw [put]
    split
    · exact List.forall_mem_cons.2 ⟨hrow, hrest⟩
    · exact List.forall_mem_cons.2 ⟨hfirst, ih hrest⟩

/-- A call that ends with a fault leaves the rows; one that saves a shelf puts the row of a shelf that was
checked among them. -/
theorem step_holdsFit {icon : String} {c : Catalogue} {call : Call} (hcall : call.IsOrdinary)
    (h : c.HoldsFit icon) : (c.step call).HoldsFit icon := by
  cases call with
  | delete id => exact fun row hrow => h row (List.mem_of_mem_filter hrow)
  | save s =>
    cases hrun : Saving.save.run ⟨c, s⟩ with
    | error f d =>
      obtain rfl := Saving.run_save_error hrun
      simpa only [step, hrun] using h
    | ok id d =>
      obtain ⟨⟨⟨name, g⟩, hcheck⟩, -, hshelf, -, row, hrow, -, hrows⟩ := Saving.run_save_ok hrun
      have hcheck' : d.shelf.check? = .ok (name, g) := by
        rw [hshelf]
        exact hcheck
      have hordinary : d.shelf.IsOrdinary := by
        rw [hshelf]
        exact hcall
      obtain ⟨s', g', hread, hfit⟩ := Shelf.ofPayload_of_check? icon hordinary hcheck' hrow
      have hput : d.catalogue.HoldsFit icon := by
        rw [HoldsFit, hrows]
        exact forall_put ⟨s', _, hread, hfit⟩ h
      simpa only [step, hrun] using hput

theorem run_holdsFit {icon : String} {calls : List Call} (hcalls : ∀ call ∈ calls, call.IsOrdinary)
    {c : Catalogue} (h : c.HoldsFit icon) : (c.run calls).HoldsFit icon := by
  induction calls generalizing c with
  | nil => exact h
  | cons call rest ih =>
    obtain ⟨hcall, hrest⟩ := List.forall_mem_cons.1 hcalls
    exact ih hrest (step_holdsFit hcall h)

/-- What is listed of a row that is read as a shelf fit to be saved. -/
theorem listed_of_rowFit {icon : String} {row : Value} (h : Shelf.RowFit icon row) :
    ∃ s, (Shelf.ofPayload icon row).result = .ok s ∧
      ∃ name g, s.name = .text name ∧ Shelf.isBlankName name = false ∧ s.filter = some g ∧
        (∃ r ∈ g.rules, r.field.isBlank = false ∧ r.operator.isBlank = false) ∧
        s.check? = .ok (name, g) := by
  obtain ⟨s, ⟨name, g⟩, hs, hcheck⟩ := h
  obtain ⟨hname, hblank, hfilter, hcomplete⟩ := Shelf.check?_eq_ok_iff.1 hcheck
  obtain ⟨r, hr, hrule⟩ := Group.hasCompleteRule_iff.1 hcomplete
  have hparts : r.field.isBlank = false ∧ r.operator.isBlank = false := by
    simpa [Rule.isComplete] using hrule
  exact ⟨s, hs, name, g, hname, hblank, hfilter, ⟨r, hr, hparts⟩, hcheck⟩

/-- After any run of calls, from a catalogue without rows, that save shelves with ordinary operands and
delete shelves, one shelf is listed for each row. It has a name that is not blank and a filter in which
some rule has a field and an operator, so it is fit to be saved again. -/
theorem run_listed (icon : String) {c : Catalogue} {calls : List Call} (hrows : c.rows = [])
    (hcalls : ∀ call ∈ calls, call.IsOrdinary) :
    ∃ shelves, ((c.run calls).shelves icon).result = .ok shelves ∧
      List.Forall₂ (fun row s => (Shelf.ofPayload icon row).result = .ok s ∧
        ∃ name g, s.name = .text name ∧ Shelf.isBlankName name = false ∧ s.filter = some g ∧
          (∃ r ∈ g.rules, r.field.isBlank = false ∧ r.operator.isBlank = false) ∧
          s.check? = .ok (name, g)) (c.run calls).rows shelves := by
  have hfit : (c.run calls).HoldsFit icon := run_holdsFit hcalls (by simp [HoldsFit, hrows])
  obtain ⟨shelves, hlisted⟩ := exists_forall₂_iff.2 fun row hrow => listed_of_rowFit (hfit row hrow)
  exact ⟨shelves, Report.each_eq_ok_iff.2 (hlisted.imp fun _ _ h => h.1), hlisted⟩

/-- A shelf of a filter whose rules do not fit: a boolean stands for a number of pages, and the rule in
the group without a name has no operator. -/
def oddShelf (name : String) (start : Value) : Shelf where
  id := .null
  name := .text name
  icon := .null
  iconType := .null
  isPublic := .null
  filter := some ⟨.text "Odd", .any, [
    .rule ⟨.known .pageCount, .known .equals, .bool true, start, .null,
      .scalar (.bool true) (.bool true), rfl, rfl⟩,
    .group .null .all [
      .rule ⟨.known .tags, .unknown "" rfl, .int 1, .null, .null,
        .scalar (.int 1) (.int 1), rfl, rfl⟩]]⟩

/-- Calls that save a shelf, fail to save one without a name and one with a state in a list, and delete a
shelf. -/
def oddCalls : List Call := [
  .save (oddShelf "Odd" (.text "late")),
  .save (oddShelf " " .null),
  .save (oddShelf "Hidden" (.list [.status .read])),
  .delete (.int 7)]

/-- After these calls one shelf is listed, the one that was saved. -/
theorem run_listed_odd : (∀ call ∈ oddCalls, call.IsOrdinary) ∧
    ∃ shelves, ((run ⟨[], firstId, [], 0⟩ oddCalls).shelves Shelf.defaultIcon).result = .ok shelves ∧
      shelves.length = 1 := by
  have hshelf : ∀ name start, start.isOrdinary = true → (oddShelf name start).IsOrdinary := by
    rintro name start hstart _ ⟨⟩
    have hone : (Double.ofInt? 1).isSome = true := by decide +kernel
    simp [Group.toNode, Node.isOrdinary, Node.areOrdinary, Rule.isOrdinary, Value.isOrdinary, hstart,
      hone]
  have hordinary : ∀ call ∈ oddCalls, call.IsOrdinary := by
    simp only [oddCalls, List.forall_mem_cons]
    exact ⟨hshelf _ _ rfl, hshelf _ _ rfl, hshelf _ _ rfl, trivial, List.forall_mem_nil _⟩
  obtain ⟨shelves, hread, hlisted⟩ :=
    run_listed Shelf.defaultIcon (c := ⟨[], firstId, [], 0⟩) rfl hordinary
  have hrows : (run ⟨[], firstId, [], 0⟩ oddCalls).rows.length = 1 := by decide +kernel
  exact ⟨hordinary, shelves, hread, hlisted.length_eq.symm.trans hrows⟩

end Catalogue

end ShelfRules
