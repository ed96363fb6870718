import ShelfRules.Filter.Tree

/-!
# Shelves

A shelf is a filter with a name and an icon. Its filter is missing when the stored one could not be
read. A shelf is fit to be saved when it has a name and a rule with field and operator.

Results:
* `Shelf.check?_eq_ok_iff`: when a shelf is fit to be saved.
-/

namespace ShelfRules

/-- A named filter. -/
structure Shelf where
  /-- The number under which the shelf is stored, null while it is not. -/
  id : Value
  name : Value
  icon : Value
  iconType : Value
  /-- Other people see the shelf. -/
  isPublic : Value
  filter : Option Group

namespace Shelf

/-- The icon of a shelf that chooses none, unless the settings say otherwise. -/
def defaultIcon : String := "pi pi-book"

/-- The shelf that nothing is known about. -/
def blank (icon : String) : Shelf where
  id := .null
  name := .text ""
  icon := .text icon
  iconType := .null
  isPublic := .bool false
  filter := some .empty

/-- The text is blank. -/
def isBlankName (s : String) : Bool := Text.strip s.toList == []

/-- The shelf is fit to be saved: its name is a text that is not blank, and its filter has a rule
    with field and operator. The text is the name, the group the filter. -/
def check? (s : Shelf) : Except Fault (String × Group) :=
  match s.name with
  | .text name =>
    if isBlankName name then .error (.shelf .nameRequired)
    else
      match s.filter with
      | some g => if g.hasCompleteRule then .ok (name, g) else .error (.shelf (.noCompleteRule name))
      | none => .error (.shelf (.noCompleteRule name))
  | v => .error (.notText v.kind)

theorem check?_eq_ok_iff {s : Shelf} {name : String} {g : Group} :
    s.check? = .ok (name, g) ↔
      s.name = .text name ∧ isBlankName name = false ∧ s.filter = some g ∧
        g.hasCompleteRule = true := by
  unfold check?
  cases s.name with
  | text other => cases s.filter <;> grind
  | _ => simp

end Shelf

end ShelfRules
