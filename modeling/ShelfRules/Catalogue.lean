import ShelfRules.Filter.Evaluation
import ShelfRules.Shelf.Stored

/-!
# The catalogue

The stored shelves, and the library whose books they are tried on. The shelves are rows in their
stored form, found by their numbers; a shelf without a number gets the next one when it is saved. The
catalogue counts how often the books of the library are asked for. That shelves were saved, deleted or
counted is not told.

Results:
* `Catalogue.find?_put`: a row that is put under a number is found there.
* `Saving.run_save`: what saving a shelf leaves on the desk, whether it succeeds or not.
* `Catalogue.save?_eq`: a shelf that is fit to be saved is stored in its stored form.
-/

namespace ShelfRules

/-- Stored shelves and the books they are tried on. -/
structure Catalogue where
  rows : List Value
  /-- The number that the next new shelf gets. -/
  nextId : Int
  books : List Record
  /-- How often the books were asked for. -/
  calls : Nat

namespace Catalogue

/-! ## Rows -/

/-- The number that the first new shelf gets. -/
def firstId : Int := 100

/-- The row is stored under a number. -/
def hasId (id row : Value) : Bool := (row.get "id").same id

/-- The rows with one put in the place of the first one under its number, or at the end. -/
def put (id row : Value) : List Value → List Value
  | [] => [row]
  | other :: rest => if hasId id other then row :: rest else other :: put id row rest

/-- The catalogue with a row stored, and its number: the one that it has, or the next one, which is
    then put into the row. -/
def store (c : Catalogue) (row : Value) : Catalogue × Value :=
  if (row.get "id").isNull then
    let id := .int c.nextId
    ({ c with rows := put id (row.set "id" id) c.rows, nextId := c.nextId + 1 }, id)
  else ({ c with rows := put (row.get "id") row c.rows }, row.get "id")

/-- The first row under a number. -/
def find? (c : Catalogue) (id : Value) : Option Value := c.rows.find? (hasId id)

theorem find?_put {id row : Value} (h : hasId id row = true) (rows : List Value) :
    (put id row rows).find? (hasId id) = some row := by
  induction rows with
  | nil => simp [put, h]
  | cons other rest ih =>
    cases ho : hasId id other with
    | true => simp [put, ho, h]
    | false => simp [put, ho, ih]

/-! ## Shelves -/

/-- All shelves, in the order of their rows. -/
def shelves (c : Catalogue) (icon : String) : Report (List Shelf) :=
  Report.each (Shelf.ofPayload icon) c.rows

/-- The shelf under a number. A row that counts as nothing is none. -/
def shelf? (c : Catalogue) (icon : String) (id : Value) : Report (Option Shelf) :=
  match c.find? id with
  | none => .ok none
  | some row =>
    if row.truthy then (Shelf.ofPayload icon row).bind fun s => .ok (some s) else .ok none

/-- The catalogue without the rows under a number. -/
def delete (c : Catalogue) (id : Value) : Catalogue :=
  { c with rows := c.rows.filter fun row => !hasId id row }

/-! ## Books -/

/-- The catalogue after the books are asked for. -/
def asked (c : Catalogue) : Catalogue := { c with calls := c.calls + 1 }

/-- The places of the books that satisfy a filter. -/
def placesOf (c : Catalogue) (g : Group) : Catalogue × Except Fault (List Nat) :=
  (c.asked, g.places c.books)

/-- The places of the books on a shelf; a shelf without a filter has none, which is told. -/
def placesOn (c : Catalogue) (s : Shelf) : Catalogue × Report (List Nat) :=
  match s.filter with
  | some g => (c.asked, .ofExcept (g.places c.books))
  | none =>
    let message := s!"Magic shelf '{s.name.plain}' has no usable filter"
    (c, (Report.note .warning .catalogue message).bind fun _ => .ok [])

/-- The number of books on the shelf under a number; none when there is no shelf or no filter. -/
def count (c : Catalogue) (icon : String) (id : Value) : Catalogue × Report Nat :=
  let shelf := c.shelf? icon id
  match shelf.result with
  | .ok (some ⟨_, _, _, _, _, some g⟩) =>
    (c.asked, shelf.bind fun _ => .ofExcept (g.count c.books))
  | _ => (c, shelf.bind fun _ => .ok 0)

/-- Counts with one more: in the place of the one of the same name, or at the end. -/
def tally (name : Value) (n : Nat) : List (Value × Nat) → List (Value × Nat)
  | [] => [(name, n)]
  | (other, m) :: rest =>
    if other.same name then (other, n) :: rest else (other, m) :: tally name n rest

/-- The number of books on a shelf, by its name. -/
def countOn (books : List Record) (s : Shelf) : Except Fault (Value × Nat) :=
  (match s.filter with
    | some g => g.count books
    | none => .ok 0).bind fun n =>
    if s.name.isFixed then .ok (s.name, n) else .error (.notKey s.name.kind)

/-- The counts of shelves by their names, the last of shelves with one name counting. -/
def countsOn (books : List Record) (shelves : List Shelf) : Except Fault (List (Value × Nat)) :=
  shelves.foldlM (fun counts s => (countOn books s).map fun (name, n) => tally name n counts) []

/-- The number of books on every shelf, by the names of the shelves. -/
def counts (c : Catalogue) (icon : String) : Catalogue × Report (List (Value × Nat)) :=
  (c.asked, (c.shelves icon).bind fun shelves => .ofExcept (countsOn c.books shelves))

end Catalogue

/-! ## Saving -/

/-- A catalogue, and the shelf that is being saved in it. -/
structure Saving.Desk where
  catalogue : Catalogue
  shelf : Shelf

/-- Steps on a desk. What is done before a fault stays done. -/
abbrev Saving := EStateM Fault Saving.Desk

namespace Saving

/-- A step that leaves the desk as it is. -/
def ofExcept {α : Type} : Except Fault α → Saving α
  | .ok a => pure a
  | .error f => throw f

/-- Stores a row, and tells its number. -/
def store (row : Value) : Saving Value := do
  let d ← get
  let (catalogue, id) := d.catalogue.store row
  set { d with catalogue }
  return id

/-- Checks the shelf, stores it, and gives it the number that it is stored under. -/
def save : Saving Value := do
  let s := (← get).shelf
  let _ ← ofExcept s.check?
  let row ← ofExcept s.payload?
  let id ← store row
  modify fun d => { d with shelf := { d.shelf with id } }
  return id

/-- Saving stops at the first fault with the desk as it was; else the row is stored and the shelf has its
    number. -/
theorem run_save (d : Desk) : save.run d =
    match d.shelf.check?.bind fun _ => d.shelf.payload? with
    | .error f => .error f d
    | .ok row =>
      let (catalogue, id) := d.catalogue.store row
      .ok id ⟨catalogue, { d.shelf with id }⟩ := by
  simp only [save, store, EStateM.run_bind, EStateM.run_get]
  cases d.shelf.check? with
  | error f => rfl
  | ok checked => cases d.shelf.payload? <;> rfl

end Saving

namespace Catalogue

/-- The catalogue with a shelf saved, and the number of the shelf. -/
def save? (c : Catalogue) (s : Shelf) : Except Fault (Catalogue × Value) :=
  match Saving.save.run ⟨c, s⟩ with
  | .ok id d => .ok (d.catalogue, id)
  | .error f _ => .error f

theorem save?_eq (c : Catalogue) (s : Shelf) :
    c.save? s = (s.check?.bind fun _ => s.payload?).map c.store := by
  rw [save?, Saving.run_save]
  cases s.check?.bind fun _ => s.payload? <;> rfl

end Catalogue

end ShelfRules
