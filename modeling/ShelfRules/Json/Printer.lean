import ShelfRules.Json.Parser
import ShelfRules.Value.Written

/-!
# Writing JSON

A value is written on one line, with a space behind each comma and colon, or over several lines with
two spaces for each level. Only what has to be escaped is: quotes, backslashes and the control
characters below the space. Doubles without digits are written as the words the reader knows.

Dates, timestamps and states have no form in JSON.

Results:
* `encode?_eq_ok`: what is written is the compact form.
-/

namespace ShelfRules.Json

/-- The words for the doubles that have no digits. -/
def words : DoubleWords := ⟨"NaN", "Infinity"⟩

/-- A character as it stands between quotes. -/
def escapeChar (c : Char) : List Char :=
  if c = '"' then ['\\', '"']
  else if c = '\\' then ['\\', '\\']
  else if c = '\n' then ['\\', 'n']
  else if c = '\r' then ['\\', 'r']
  else if c = '\t' then ['\\', 't']
  else if c = '\x08' then ['\\', 'b']
  else if c = '\x0c' then ['\\', 'f']
  else if c < ' ' then '\\' :: 'u' :: Text.hexDigits 4 c.toNat
  else [c]

/-- A text between quotes. -/
def textChars (s : String) : List Char :=
  '"' :: (s.toList.flatMap escapeChar ++ ['"'])

/-! ## On one line -/

mutual
/-- A value on one line. -/
def compact : Value → List Char
  | .null => "null".toList
  | .bool b => (if b then "true" else "false").toList
  | .int n => integerChars n
  | .float d => d.chars words
  | .text s => textChars s
  | .list items => '[' :: compactItems items ++ [']']
  | .tuple items => '[' :: compactItems items ++ [']']
  | .object entries => '\x7b' :: compactEntries entries ++ ['\x7d']
  | v => v.plainChars
/-- The items of a list. -/
def compactItems : List Value → List Char
  | [] => []
  | [v] => compact v
  | v :: rest => compact v ++ ',' :: ' ' :: compactItems rest
/-- The entries of an object. -/
def compactEntries : List (String × Value) → List Char
  | [] => []
  | [(k, v)] => textChars k ++ ':' :: ' ' :: compact v
  | (k, v) :: rest => textChars k ++ ':' :: ' ' :: compact v ++ ',' :: ' ' :: compactEntries rest
end

/-! ## Over several lines -/

/-- A line break and the spaces of a level. -/
def newline (level : Nat) : List Char := '\n' :: List.replicate (2 * level) ' '

mutual
/-- A value over several lines, starting on a level. -/
def indented (level : Nat) : Value → List Char
  | .list [] => ['[', ']']
  | .tuple [] => ['[', ']']
  | .object [] => ['\x7b', '\x7d']
  | .list items => '[' :: indentedItems (level + 1) items ++ newline level ++ [']']
  | .tuple items => '[' :: indentedItems (level + 1) items ++ newline level ++ [']']
  | .object entries => '\x7b' :: indentedEntries (level + 1) entries ++ newline level ++ ['\x7d']
  | v => compact v
/-- The items of a list, each on a line of its own. -/
def indentedItems (level : Nat) : List Value → List Char
  | [] => []
  | [v] => newline level ++ indented level v
  | v :: rest => newline level ++ indented level v ++ ',' :: indentedItems level rest
/-- The entries of an object, each on a line of its own. -/
def indentedEntries (level : Nat) : List (String × Value) → List Char
  | [] => []
  | [(k, v)] => newline level ++ textChars k ++ ':' :: ' ' :: indented level v
  | (k, v) :: rest =>
    newline level ++ textChars k ++ ':' :: ' ' :: indented level v ++
      ',' :: indentedEntries level rest
end

/-! ## What cannot be written -/

mutual
/-- The first thing in a value that cannot be written. -/
def obstacle? : Value → Option Fault
  | .int n => if isLongInteger n then some (.integerTooLong none) else none
  | .list items => itemObstacle? items
  | .tuple items => itemObstacle? items
  | .object entries => entryObstacle? entries
  | .date d => some (.notEncodable (Value.date d).kind)
  | .stamp t => some (.notEncodable (Value.stamp t).kind)
  | .status s => some (.notEncodable (Value.status s).kind)
  | _ => none
/-- The first such thing among the items of a list. -/
def itemObstacle? : List Value → Option Fault
  | [] => none
  | v :: rest => (obstacle? v).or (itemObstacle? rest)
/-- The first such thing among the entries of an object. -/
def entryObstacle? : List (String × Value) → Option Fault
  | [] => none
  | (_, v) :: rest => (obstacle? v).or (entryObstacle? rest)
end

/-- The text of a value on one line. -/
def encode? (v : Value) : Except Fault String :=
  match obstacle? v with
  | some f => .error f
  | none => .ok (String.ofList (compact v))

theorem encode?_eq_ok {v : Value} {s : String} :
    encode? v = .ok s ↔ obstacle? v = none ∧ s = String.ofList (compact v) := by
  unfold encode?
  cases obstacle? v <;> simp [eq_comm]

end ShelfRules.Json
