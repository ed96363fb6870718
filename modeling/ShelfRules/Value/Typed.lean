import ShelfRules.Field
import ShelfRules.Value.Normal
import ShelfRules.Value.Number

/-!
# Typed operands

The stored operands of a rule are read by the type of its field: for numbers a number, for dates a
moment, and null for what is neither. Integers stand for the integral numbers of a field of
integers; a list is read item by item. The nulls of a stored document are left out.

Results:
* `Value.typed?_null`: null stays null.
-/

namespace ShelfRules

namespace Value

/-- The moment in UTC that a stored date stands for; null for any other value and outside of the
    years 1 to 9999. -/
def typedDate : Value → Value
  | .date d => .moment (.ofDate d)
  | .stamp t => (t.toUtc?.map moment).getD .null
  | v => v.dateOfText

/-- The number that a value stands for, and null for a NaN. With `integral` a number that is an
    integer becomes one. -/
def ofDouble (integral : Bool) (d : Double) : Value :=
  if d.isNaN then .null
  else if integral then (d.toInt?.map int).getD (.float d)
  else .float d

/-- The number that a stored number stands for; null for any other value. -/
def typedNumber? (integral : Bool) : Value → Except Fault Value
  | .bool _ => .ok .null
  | v => v.number?.map (ofDouble integral)

/-- A single value, read by a type. -/
def typedItem? : FieldType → Value → Except Fault Value
  | .number, v => v.typedNumber? true
  | .decimal, v => v.typedNumber? false
  | .date, v => .ok v.typedDate

mutual
/-- A stored value, read by a type. -/
def typedAs? (type : FieldType) : Value → Except Fault Value
  | .null => .ok .null
  | .list items => (typedItems? type items).map .list
  | .tuple items => (typedItems? type items).map .list
  | .bool b => typedItem? type (.bool b)
  | .int n => typedItem? type (.int n)
  | .float d => typedItem? type (.float d)
  | .text s => typedItem? type (.text s)
  | .object entries => typedItem? type (.object entries)
  | .date d => typedItem? type (.date d)
  | .stamp t => typedItem? type (.stamp t)
  | .status s => typedItem? type (.status s)
/-- The items of a list, read by a type. -/
def typedItems? (type : FieldType) : List Value → Except Fault (List Value)
  | [] => .ok []
  | v :: rest =>
    (typedAs? type v).bind fun w => (typedItems? type rest).map (w :: ·)
end

/-- A stored value, read by the type of a field; a field without one keeps it. -/
def typed? : Option FieldType → Value → Except Fault Value
  | none, v => .ok v
  | some type, v => v.typedAs? type

mutual
/-- The value without the nulls in its lists and objects, at any depth; a tuple becomes a list. -/
def withoutNulls : Value → Value
  | .list items => .list (itemsWithoutNulls items)
  | .tuple items => .list (itemsWithoutNulls items)
  | .object entries => .object (entriesWithoutNulls entries)
  | v => v
/-- The items that are not null, without the nulls in them. -/
def itemsWithoutNulls : List Value → List Value
  | [] => []
  | .null :: rest => itemsWithoutNulls rest
  | v :: rest => withoutNulls v :: itemsWithoutNulls rest
/-- The entries that are not null, without the nulls in them. -/
def entriesWithoutNulls : List (String × Value) → List (String × Value)
  | [] => []
  | (_, .null) :: rest => entriesWithoutNulls rest
  | (k, v) :: rest => (k, withoutNulls v) :: entriesWithoutNulls rest
end

theorem typed?_null (type : Option FieldType) : typed? type .null = .ok .null := by
  cases type <;> rfl

end Value

end ShelfRules
