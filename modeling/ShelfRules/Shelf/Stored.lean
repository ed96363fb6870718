import ShelfRules.Filter.Stored
import ShelfRules.Shelf

/-!
# Stored shelves

A shelf is stored as an object with the keys `id`, `name`, `icon`, `iconType`, `filterJson` and
`isPublic`; the filter is the text of its document. A filter that cannot be read is told, and leaves
a shelf without one.

Results:
* `Shelf.ofEntries_unreadable`: a filter that is no tree never refuses a shelf.
* `Shelf.payload?_eq_ok`: what is stored of a shelf.
-/

namespace ShelfRules

namespace Shelf

/-- The stored form of a shelf. -/
def payload? (s : Shelf) : Except Fault Value :=
  match s.filter with
  | none => s.name.text?.bind fun name => .error (.noFilter name)
  | some g => g.text?.map fun text => .object [
      ("id", s.id),
      ("name", s.name),
      ("icon", s.icon),
      ("iconType", s.iconType),
      ("filterJson", .text text),
      ("isPublic", s.isPublic)]

/-- The filter under the key of a stored shelf: an object is a document, anything else that counts
    is a text, and what counts as nothing is the filter that asks nothing. -/
def filterOf : Value → Report Group
  | .object entries => Group.ofDocument (.object entries)
  | v => if v.truthy then Group.ofTextValue v else .ok .empty

/-- The shelf with the filter of a report, or without one when it could not be read, which is told. -/
def withFilter (s : Shelf) (r : Report Group) : Report Shelf :=
  r.attempt.bind fun
    | .ok g => .ok { s with filter := some g }
    | .error (.filter cause) =>
      let message := s!"Invalid filter on shelf '{s.name.plain}' (id={s.id.plain}): {cause.message}"
      (Report.note .warning .storage message).bind fun _ => .ok { s with filter := none }
    | .error f => .fail f

/-- What the entries of an object tell of a shelf beside its filter. -/
def outline (icon : String) (entries : Entries) : Shelf where
  id := entries.get "id"
  name := (entries.get "name").orElse (.text "")
  icon := (entries.get "icon").orElse (.text icon)
  iconType := entries.get "iconType"
  isPublic := .bool (entries.get "isPublic").truthy
  filter := none

/-- The shelf in the entries of an object. -/
def ofEntries (icon : String) (entries : Entries) : Report Shelf :=
  (outline icon entries).withFilter (filterOf (entries.get "filterJson"))

/-- The shelf of a stored form; a shelf that chooses no icon gets the given one. -/
def ofPayload (icon : String) : Value → Report Shelf
  | .object entries => ofEntries icon entries
  | v => .fail (.notObject v.kind)

theorem filterOf_text {s : String} (h : s ≠ "") : filterOf (.text s) = Group.ofText s := by
  simp [filterOf, Value.truthy, h, Group.ofTextValue]

theorem withFilter_unreadable {s : Shelf} {r : Report Group} {cause : FilterError}
    (h : r.result = .error (.filter cause)) :
    (s.withFilter r).result = .ok { s with filter := none } := by
  rw [withFilter, Report.attempt_bind, h]
  rfl

theorem ofEntries_unreadable {icon : String} {entries : Entries} {cause : FilterError}
    (h : (filterOf (entries.get "filterJson")).result = .error (.filter cause)) :
    (ofEntries icon entries).result = .ok (outline icon entries) :=
  withFilter_unreadable h

theorem payload?_eq_ok {s : Shelf} {g : Group} {text : String} (hf : s.filter = some g)
    (ht : g.text? = .ok text) :
    s.payload? = .ok (.object [
      ("id", s.id), ("name", s.name), ("icon", s.icon), ("iconType", s.iconType),
      ("filterJson", .text text), ("isPublic", s.isPublic)]) := by
  unfold payload?
  rw [hf]
  simp [ht, Except.map]

end Shelf

end ShelfRules
