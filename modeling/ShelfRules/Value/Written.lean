import ShelfRules.Calendar.Written
import ShelfRules.Double.Text
import ShelfRules.Fault
import ShelfRules.Text.Quoted
import ShelfRules.Value

/-!
# The text of a value

A value has two texts. In plain text a text stands for itself; inside a list, a tuple or an object it
stands between quotes, and a date, a timestamp or a state shows what it is made from. The web form
differs from the plain one in booleans, in doubles that are integers, and in timestamps.

Integers of more than 4300 digits are not written; a value that holds one has no text.

Results:
* `Value.text?_text`, `Value.webText?_text`: a text is its own text.
* `Value.webText?_eq_error`: only an integer that is too long stands in the way.
-/

namespace ShelfRules

/-- The digits of an integer, with a sign when it is negative. -/
def integerChars (n : Int) : List Char :=
  (if n < 0 then ['-'] else []) ++ Nat.toDigits 10 n.natAbs

/-- The integer has more digits than are written. -/
@[irreducible] def isLongInteger (n : Int) : Bool := 10 ^ maxIntegerDigits ≤ n.natAbs

/-- Texts with a comma and a space between them. -/
def commaSeparated : List (List Char) → List Char
  | [] => []
  | [s] => s
  | s :: rest => s ++ ',' :: ' ' :: commaSeparated rest

namespace Date

/-- A date as it stands inside a list. -/
def literalChars (d : Date) : List Char :=
  "datetime.date(".toList ++
    commaSeparated ([d.year, d.month, d.day].map (Nat.toDigits 10)) ++ [')']

end Date

namespace Offset

/-- An offset as it stands inside a list: whole days are taken out, so that seconds and microseconds
    are not negative. -/
def literalChars (o : Offset) : List Char :=
  if o.micros = 0 then "datetime.timezone.utc".toList
  else
    let days := Int.fdiv o.micros 86400000000
    let rest := (Int.fmod o.micros 86400000000).toNat
    let part (name : String) (n : Int) : List (List Char) :=
      if n = 0 then [] else [name.toList ++ '=' :: integerChars n]
    "datetime.timezone(datetime.timedelta(".toList ++
      commaSeparated (part "days" days ++ part "seconds" (rest / 1000000 : Nat) ++
        part "microseconds" (rest % 1000000 : Nat)) ++ [')', ')']

end Offset

namespace Timestamp

/-- A timestamp as it stands inside a list: seconds and microseconds are left out from the end while
    they are zero. -/
def literalChars (t : Timestamp) : List Char :=
  let d := t.wall.date
  let c := t.wall.time
  let small := if c.micro ≠ 0 then [c.second, c.micro] else if c.second ≠ 0 then [c.second] else []
  let zone := match t.offset with
    | none => []
    | some o => ["tzinfo=".toList ++ o.literalChars]
  "datetime.datetime(".toList ++
    commaSeparated (([d.year, d.month, d.day, c.hour, c.minute] ++ small).map (Nat.toDigits 10) ++
      zone) ++ [')']

/-- A timestamp in plain text, with a space between date and time. -/
def plainChars (t : Timestamp) : List Char :=
  t.wall.date.isoChars ++ ' ' :: t.wall.time.isoChars ++ (t.offset.map Offset.isoChars).getD []

end Timestamp

namespace Value

mutual
/-- The value as it stands inside a list. -/
def literal : Value → List Char
  | .null => "None".toList
  | .bool b => (if b then "True" else "False").toList
  | .int n => integerChars n
  | .float d => d.chars Double.plainWords
  | .text s => Text.quoted s.toList
  | .list items => '[' :: literalItems items ++ [']']
  | .tuple [v] => '(' :: literal v ++ [',', ')']
  | .tuple items => '(' :: literalItems items ++ [')']
  | .object entries => '\x7b' :: literalEntries entries ++ ['\x7d']
  | .date d => d.literalChars
  | .stamp t => t.literalChars
  | .status s => "<ReadStatus.".toList ++ s.name.toList ++ ": '".toList ++ s.name.toList ++ "'>".toList
/-- The items of a list, separated by commas. -/
def literalItems : List Value → List Char
  | [] => []
  | [v] => literal v
  | v :: rest => literal v ++ ',' :: ' ' :: literalItems rest
/-- The entries of an object, separated by commas. -/
def literalEntries : List (String × Value) → List Char
  | [] => []
  | [(k, v)] => Text.quoted k.toList ++ ':' :: ' ' :: literal v
  | (k, v) :: rest =>
    Text.quoted k.toList ++ ':' :: ' ' :: literal v ++ ',' :: ' ' :: literalEntries rest
end

mutual
/-- The value is or holds an integer with more digits than are written. -/
def holdsLongInteger : Value → Bool
  | .int n => isLongInteger n
  | .list items => anyHoldsLongInteger items
  | .tuple items => anyHoldsLongInteger items
  | .object entries => anyEntryHoldsLongInteger entries
  | _ => false
/-- One of the items holds such an integer. -/
def anyHoldsLongInteger : List Value → Bool
  | [] => false
  | v :: rest => v.holdsLongInteger || anyHoldsLongInteger rest
/-- One of the entries holds such an integer. -/
def anyEntryHoldsLongInteger : List (String × Value) → Bool
  | [] => false
  | (_, v) :: rest => v.holdsLongInteger || anyEntryHoldsLongInteger rest
end

/-- The value in plain text. -/
def plainChars : Value → List Char
  | .text s => s.toList
  | .date d => d.isoChars
  | .stamp t => t.plainChars
  | .status s => "ReadStatus.".toList ++ s.name.toList
  | v => v.literal

/-- The value in plain text, whatever integers it holds. -/
def plain (v : Value) : String := String.ofList v.plainChars

/-- The value in plain text. -/
def text? (v : Value) : Except Fault String :=
  if v.holdsLongInteger then .error (.integerTooLong none) else .ok v.plain

/-- The value in the form of the web. -/
def webChars : Value → List Char
  | .bool b => (if b then "true" else "false").toList
  | .float d =>
    match d.toInt? with
    | some n => integerChars n
    | none => d.chars Double.plainWords
  | .stamp t => t.isoChars
  | v => v.plainChars

/-- The value in the form of the web. -/
def webText? (v : Value) : Except Fault String :=
  if v.holdsLongInteger then .error (.integerTooLong none) else .ok (String.ofList v.webChars)

@[simp] theorem holdsLongInteger_text (s : String) : holdsLongInteger (.text s) = false := rfl

@[simp] theorem plainChars_text (s : String) : plainChars (.text s) = s.toList := rfl

@[simp] theorem webChars_text (s : String) : webChars (.text s) = s.toList := rfl

theorem text?_text (s : String) : text? (.text s) = .ok s := by
  rw [text?, holdsLongInteger_text, plain, plainChars_text]; simp

theorem webText?_text (s : String) : webText? (.text s) = .ok s := by
  rw [webText?, holdsLongInteger_text, webChars_text]; simp

theorem webText?_eq_error {v : Value} {f : Fault} (h : v.webText? = .error f) :
    f = .integerTooLong none ∧ v.holdsLongInteger = true := by
  unfold webText? at h
  split at h
  · exact ⟨(Except.error.inj h).symm, by assumption⟩
  · cases h

end Value

end ShelfRules
