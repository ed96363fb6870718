import ShelfRules.Calendar.Pattern
import ShelfRules.Text.Lowercase
import ShelfRules.Value.Written

/-!
# Dates among values, and normal values

Dates, timestamps and texts that are dates have a moment in UTC, and a day a short text. Before two values are compared each is brought to one of a few shapes: null, a moment in UTC, a
number, a text in lower case, or a list of such texts. A text that is a date is a moment.

Results:
* `lowerItems?_cons_null`: a null in a list is dropped.
-/

namespace ShelfRules

/-! ## Dates -/

namespace Value

/-- The moment in UTC of a date or a timestamp. -/
def utc? : Value → Except Fault Moment
  | .date d => .ok (.ofDate d)
  | .stamp t => Fault.dateOutOfRange.ifNone t.toUtc?
  | v => .error (.notDate v.kind)

/-- The moment in UTC that a text reads as; null for a text that is no date and for any other
    value. -/
def dateOfText : Value → Value
  | .text s => ((Moment.ofText? s).map moment).getD .null
  | _ => .null

/-- The day in UTC of a date or a timestamp, in short. -/
def shortDate? (v : Value) : Except Fault String :=
  v.utc?.map fun m => String.ofList m.date.shortChars

end Value

/-! ## Normal values -/

/-- The web texts of the items of a list in lower case, without the nulls. -/
def lowerItems? : List Value → Except Fault (List String)
  | [] => .ok []
  | .null :: rest => lowerItems? rest
  | v :: rest =>
    match v.webText? with
    | .error f => .error f
    | .ok s => (lowerItems? rest).map (Text.lowered s :: ·)

theorem lowerItems?_cons_null (rest : List Value) :
    lowerItems? (.null :: rest) = lowerItems? rest := rfl

namespace Value

/-- A list of texts. -/
def texts (ss : List String) : Value := .list (ss.map .text)

/-- The shape in which a value is compared. -/
def normalize? : Value → Except Fault Value
  | .date d => .ok (.moment (.ofDate d))
  | .stamp t =>
    match t.toUtc? with
    | some m => .ok (.moment m)
    | none => .ok .null
  | .text s =>
    match Moment.ofText? s with
    | some m => .ok (.moment m)
    | none => .ok (.text (Text.lowered s))
  | .list items => (lowerItems? items).map texts
  | .tuple items => (lowerItems? items).map texts
  | v => .ok v

/-- The texts in lower case that a value stands for when it is taken as a set: its items, or the
    value itself, or none when it counts as nothing. -/
def lowerList? : Value → Except Fault (List String)
  | .list items => lowerItems? items
  | .tuple items => lowerItems? items
  | v => if v.truthy then v.webText?.map fun s => [Text.lowered s] else .ok []

end Value

end ShelfRules
