import ShelfRules.Calendar.Moment
import ShelfRules.ReadStatus

/-!
# Values

Book attributes, rule operands and stored documents are loosely typed: each is a value. The values
of a JSON document are those built from null, booleans, numbers, text, lists and objects; a value in
memory can also be a tuple, a date, a timestamp or a reading state.

Results:
* `Entries.get_set`, `Entries.get_set_of_ne`: a key that is set is found, and the others are left alone.
-/

namespace ShelfRules

/-- A loosely typed value. The entries of an object keep their order. -/
inductive Value where
  | null
  | bool (b : Bool)
  | int (n : Int)
  | float (d : Double)
  | text (s : String)
  | list (items : List Value)
  | tuple (items : List Value)
  | object (entries : List (String × Value))
  | date (d : Date)
  | stamp (t : Timestamp)
  | status (s : ReadStatus)
deriving Repr, Inhabited

/-- The most digits that an integer is read or written with. -/
def maxIntegerDigits : Nat := 4300

/-- The entries of an object, in order. -/
abbrev Entries := List (String × Value)

namespace Entries

/-- Puts a value under a key: in place when the key is there, at the end otherwise. -/
def set (key : String) (v : Value) : Entries → Entries
  | [] => [(key, v)]
  | (k, w) :: rest => if k = key then (key, v) :: rest else (k, w) :: set key v rest

/-- The value under a key, null when there is none. -/
def get (entries : Entries) (key : String) : Value := (entries.lookup key).getD .null

/-- The key is there. -/
def has (entries : Entries) (key : String) : Bool := (entries.lookup key).isSome

theorem lookup_set (key : String) (v : Value) (entries : Entries) :
    (set key v entries).lookup key = some v := by
  induction entries with
  | nil => simp [set]
  | cons entry rest ih =>
    obtain ⟨k, w⟩ := entry
    by_cases h : k = key
    · simp [set, h]
    · have : (key == k) = false := by simpa using fun e => h e.symm
      simp [set, h, List.lookup_cons, this, ih]

theorem lookup_set_of_ne {key name : String} (h : name ≠ key) (v : Value) (entries : Entries) :
    (set key v entries).lookup name = entries.lookup name := by
  have hkey : (name == key) = false := beq_false_of_ne h
  induction entries with
  | nil => simp [set, List.lookup_cons, hkey]
  | cons entry rest ih =>
    obtain ⟨k, w⟩ := entry
    by_cases hk : k = key
    · subst hk
      simp [set, List.lookup_cons, hkey]
    · simp [set, hk, List.lookup_cons, ih]

theorem get_set (key : String) (v : Value) (entries : Entries) : (set key v entries).get key = v := by
  rw [get, lookup_set]
  rfl

theorem get_set_of_ne {key name : String} (h : name ≠ key) (v : Value) (entries : Entries) :
    (set key v entries).get name = entries.get name := by
  rw [get, lookup_set_of_ne h, get]

end Entries

namespace Value

/-- A timestamp on a clock that does not tell its offset. -/
def moment (m : Moment) : Value := .stamp (.naive m)

/-- The value under a key; null when the value is no object or has no such key. -/
def get (v : Value) (key : String) : Value :=
  match v with
  | .object entries => Entries.get entries key
  | _ => .null

/-- The value with another one under a key; a value that is no object is kept. -/
def set (v : Value) (key : String) (w : Value) : Value :=
  match v with
  | .object entries => .object (Entries.set key w entries)
  | v => v

/-- The value is null. -/
def isNull : Value → Bool
  | .null => true
  | _ => false

/-- The value counts as something: neither null, false, a zero, nor empty. -/
def truthy : Value → Bool
  | .null => false
  | .bool b => b
  | .int n => n != 0
  | .float d => !d.isZero
  | .text s => s != ""
  | .list items => !items.isEmpty
  | .tuple items => !items.isEmpty
  | .object entries => !entries.isEmpty
  | .date _ => true
  | .stamp _ => true
  | .status _ => true

/-- This value if it counts as something, and another one otherwise. -/
def orElse (v other : Value) : Value := if v.truthy then v else other

theorem orElse_text {s : String} (h : s ≠ "") (other : Value) :
    (text s).orElse other = text s := by
  simp [orElse, truthy, h]

/-- The word for the kind of a value in messages. -/
def kind : Value → String
  | .null => "NoneType"
  | .bool _ => "bool"
  | .int _ => "int"
  | .float _ => "float"
  | .text _ => "str"
  | .list _ => "list"
  | .tuple _ => "tuple"
  | .object _ => "dict"
  | .date _ => "date"
  | .stamp _ => "datetime"
  | .status _ => "ReadStatus"

end Value

end ShelfRules
