import ShelfRules.Disk.Document
import ShelfRules.Filter.Stored
import ShelfRules.Shelf

/-!
# Portable shelves

Shelves are carried from one server to another in a document: an object with the version of the
format, the number of shelves and the list of them. A portable shelf has no number, and its filter
is the document itself. Shelves without a filter are left out on the way out; entries that are no
shelves are left out on the way in, and told. A shelf with half of a surrogate pair in one of its texts
cannot be written to a file.

Results:
* `Shelf.portableOf_length`: as many shelves are carried as have a filter.
* `Shelf.result_entryKept_ok`, `Shelf.result_entryKept_refusal`: an entry is kept or left out.
-/

namespace ShelfRules

namespace Shelf

/-! ## Carrying out -/

/-- The version of the format. -/
def portableVersion : String := "1.0"

/-- The portable form of a shelf with a filter. -/
def portable (s : Shelf) (g : Group) : Value := .object [
  ("name", s.name),
  ("icon", s.icon),
  ("icon_type", s.iconType),
  ("is_public", s.isPublic),
  ("filter", g.document)]

/-- The portable forms of the shelves that have a filter. -/
def portableOf (shelves : List Shelf) : List Value :=
  shelves.filterMap fun s => s.filter.map s.portable

/-- The document that carries shelves. -/
def portableDocument (shelves : List Shelf) : Value :=
  let carried := portableOf shelves
  .object [
    ("version", .text portableVersion),
    ("count", .int carried.length),
    ("magic_shelves", .list carried)]

/-- The warning that some of the shelves have no filter. -/
def leftOut (shelves : List Shelf) : List Notice :=
  let skipped := shelves.countP (·.filter.isNone)
  if skipped = 0 then []
  else [⟨.warning, .exporting, s!"Skipping {skipped} magic shelves without a usable filter"⟩]

/-- The notice that shelves are exported to the file at a path. -/
def exportedNotice (count : Nat) (p : Path) : Notice :=
  ⟨.info, .exporting, s!"Exported {count} magic shelves to {p.text}"⟩

/-- The disk after shelves are carried out to the file at a path, whose folder is made when it is
    missing. What stands before the first thing that cannot be written is in the file by then. -/
def exportFile (code : Text.HalfCode) (d : Disk) (p : Path) (shelves : List Shelf) : Disk × Report Unit :=
  match d.ensureFolders? p.parent with
  | .error e => (d, ⟨leftOut shelves, .error (.disk e)⟩)
  | .ok d =>
    let (text, obstacle) := Json.written code (Json.pieces 0 (portableDocument shelves))
    match d.write? p (Text.Utf8.encode (String.ofList text)), obstacle with
    | .error e, _ => (d, ⟨leftOut shelves, .error (.disk e)⟩)
    | .ok d, some f => (d, ⟨leftOut shelves, .error f⟩)
    | .ok d, none =>
      (d, ⟨leftOut shelves ++ [exportedNotice (portableOf shelves).length p], .ok ()⟩)

theorem portableOf_length (shelves : List Shelf) :
    (portableOf shelves).length = shelves.countP (·.filter.isSome) := by
  induction shelves with
  | nil => rfl
  | cons s rest ih =>
    unfold portableOf at ih ⊢
    cases h : s.filter with
    | none => simpa [h, List.countP_cons] using ih
    | some g => simpa [h, List.countP_cons] using ih

/-! ## Carrying in -/

/-- The filter under the key of a portable shelf; none under it stands for the one that asks
    nothing. -/
def portableFilter (entries : Entries) : Report Group :=
  Group.ofDocument ((entries.lookup "filter").getD (.object []))

/-- The shelf of a portable form; a shelf that chooses no icon gets the given one. -/
def ofPortable (icon : String) : Value → Report Shelf
  | .object entries =>
    match Entries.get entries "name" with
    | .text name =>
      if isBlankName name then .fail (.importing .entryNameless)
      else (portableFilter entries).bind fun g => .ok {
        id := .null
        name := .text (Text.stripped name)
        icon := (Entries.get entries "icon").orElse (.text icon)
        iconType := Entries.get entries "icon_type"
        isPublic := .bool (Entries.get entries "is_public").truthy
        filter := some g }
    | _ => .fail (.importing .entryNameless)
  | v => .fail (.importing (.entryNotObject v.kind))

/-- The shelf of an entry, or a warning and none when the entry is refused. -/
def entryKept (r : Report Shelf) : Report (Option Shelf) :=
  r.attempt.bind fun
    | .ok s => .ok (some s)
    | .error f =>
      if f.isRefusal then
        (Report.note .warning .importing s!"Skipping invalid shelf entry: {f.message}").bind
          fun _ => .ok none
      else .fail f

/-- The shelves of the entries that are shelves, in order. -/
def ofPortableEntries (icon : String) : List Value → Report (List Shelf)
  | [] => .ok []
  | v :: rest =>
    (entryKept (ofPortable icon v)).bind fun found =>
      (ofPortableEntries icon rest).bind fun shelves => .ok (found.toList ++ shelves)

/-- The shelves that a document carries. -/
def ofPortableDocument (icon : String) : Value → Report (List Shelf)
  | .object entries =>
    match entries.lookup "magic_shelves" with
    | some (.list items) => ofPortableEntries icon items
    | some _ => .fail (.importing .shelvesNotList)
    | none => .fail (.importing .noShelves)
  | _ => .fail (.importing .noShelves)

/-- The shelves that the bytes of a file carry. -/
def importBytes (code : Text.HalfCode) (icon : String) (bytes : List UInt8) : Report (List Shelf) :=
  match documentOf code bytes with
  | .ok v => ofPortableDocument icon v
  | .error (.encoding e) => .fail (.encoding e)
  | .error (.json (.malformed cause place)) => .fail (.importing (.malformed cause place))
  | .error (.json (.integerTooLong digits)) => .fail (.integerTooLong (some digits))

/-- The notice that shelves are imported from the file at a path. -/
def importedNotice (count : Nat) (p : Path) : Notice :=
  ⟨.info, .importing, s!"Imported {count} magic shelves from {p.text}"⟩

/-- The shelves that the file at a path carries; how many they are is told. -/
def importFile (code : Text.HalfCode) (icon : String) (d : Disk) (p : Path) : Report (List Shelf) :=
  match d.has? p with
  | .error e => .fail (.disk e)
  | .ok false => .fail (.fileMissing p.text)
  | .ok true =>
    match d.read? p with
    | .ok bytes => (importBytes code icon bytes).bind fun shelves =>
        ⟨[importedNotice shelves.length p], .ok shelves⟩
    | .error e => .fail (.disk e)

theorem result_entryKept_ok {r : Report Shelf} {s : Shelf} (h : r.result = .ok s) :
    (entryKept r).result = .ok (some s) := by
  rw [entryKept, Report.attempt_bind, h]
  rfl

theorem result_entryKept_refusal {r : Report Shelf} {f : Fault} (h : r.result = .error f)
    (hf : f.isRefusal = true) : (entryKept r).result = .ok none := by
  rw [entryKept, Report.attempt_bind, h]
  simp only [hf, if_true]
  rfl

end Shelf

end ShelfRules
