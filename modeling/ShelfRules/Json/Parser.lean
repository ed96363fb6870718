import ShelfRules.Double.Decimal
import ShelfRules.Json.Error
import ShelfRules.Text.Half
import ShelfRules.Value

/-!
# Reading JSON

A reader works on the characters in front of it and returns those behind what it has read. A problem
is placed by the number of characters that are left, so that no reader counts positions. Beside the
grammar of JSON the words `NaN`, `Infinity` and `-Infinity` are numbers. Integers are exact, numbers
with a fraction or an exponent are doubles, and of several entries with one key the last one counts.
A reader is told which character stands for half of a surrogate pair that has no other half.
-/

namespace ShelfRules.Json

/-- A problem, placed by the number of characters that are left. -/
inductive Problem where
  | at (cause : Cause) (left : Nat)
  | integerTooLong (digits : Nat)
deriving DecidableEq, Repr

/-- What a reader returns: a result and the text behind it. -/
abbrev Reading (α : Type) := Except Problem (α × List Char)

/-! ## Blanks -/

/-- The four characters that may stand between the tokens of JSON. -/
def isSpace (c : Char) : Bool := c == ' ' || c == '\t' || c == '\n' || c == '\r'

/-- The text behind the blanks in front. -/
def skipSpace (s : List Char) : List Char := s.dropWhile isSpace

/-! ## Texts -/

/-- The character behind a backslash stands for this one. -/
def unescape? : Char → Option Char
  | '"' => some '"'
  | '\\' => some '\\'
  | '/' => some '/'
  | 'b' => some '\x08'
  | 'f' => some '\x0c'
  | 'n' => some '\n'
  | 'r' => some '\r'
  | 't' => some '\t'
  | _ => none

/-- The number written by four hexadecimal digits. -/
def hex4? (a b c d : Char) : Option Nat := do
  let a ← Text.hexValue? a
  let b ← Text.hexValue? b
  let c ← Text.hexValue? c
  let d ← Text.hexValue? d
  some (((a * 16 + b) * 16 + c) * 16 + d)

/-- The number is the first half of a pair that stands for one character. -/
def isHighSurrogate (n : Nat) : Bool := 0xD800 ≤ n && n < 0xDC00

/-- The number is the second half of a pair. -/
def isLowSurrogate (n : Nat) : Bool := 0xDC00 ≤ n && n < 0xE000

/-- The character of a code unit, which may be half of a pair. -/
def ofUnit (stands : Text.Half → Char) (n : Nat) : Char :=
  if h : Text.IsHalf n then stands ⟨n, h⟩ else Char.ofNat n

/-- The character of a pair of code units. -/
def ofPair (high low : Nat) : Char :=
  Char.ofNat (0x10000 + (high - 0xD800) * 0x400 + (low - 0xDC00))

/-- The characters of code points and halves of pairs; two halves in a row stand for one
    character. -/
def joinUnits (stands : Text.Half → Char) : List Nat → List Char
  | [] => []
  | [n] => [ofUnit stands n]
  | m :: n :: rest =>
    if isHighSurrogate m && isLowSurrogate n then ofPair m n :: joinUnits stands rest
    else ofUnit stands m :: joinUnits stands (n :: rest)

/-- The code points of a text up to its closing quote; `opening` counts the characters from its
    opening quote on. A unicode escape needs a character behind its digits. -/
def readUnits (opening : Nat) : List Char → Reading (List Nat)
  | [] => .error (.at .unterminatedText opening)
  | '"' :: s => .ok ([], s)
  | ['\\'] => .error (.at .unterminatedText opening)
  | '\\' :: 'u' :: a :: b :: c :: d :: s =>
    match hex4? a b c d, s with
    | some n, _ :: _ => (readUnits opening s).map fun (ns, rest) => (n :: ns, rest)
    | _, _ => .error (.at .invalidUnicodeEscape (s.length + 5))
  | '\\' :: 'u' :: s => .error (.at .invalidUnicodeEscape (s.length + 1))
  | '\\' :: c :: s =>
    match unescape? c with
    | none => .error (.at .invalidEscape (s.length + 2))
    | some d => (readUnits opening s).map fun (ns, rest) => (d.toNat :: ns, rest)
  | c :: s =>
    if c < ' ' then .error (.at .controlCharacter (s.length + 1))
    else (readUnits opening s).map fun (ns, rest) => (c.toNat :: ns, rest)

/-- The rest of a text up to its closing quote. -/
def readText (stands : Text.Half → Char) (opening : Nat) (s : List Char) : Reading String :=
  (readUnits opening s).map fun (ns, rest) => (String.ofList (joinUnits stands ns), rest)

/-! ## Numbers -/

/-- The digits of an integer without sign: a zero alone, or digits that start with none. -/
def readIntegerDigits : List Char → Option (List Char × List Char)
  | '0' :: s => some (['0'], s)
  | c :: s =>
    if c.isDigit then some (c :: s.takeWhile Char.isDigit, s.dropWhile Char.isDigit) else none
  | [] => none

/-- The digits of a fraction, none when no digit follows a point. -/
def readFractionDigits : List Char → List Char × List Char
  | '.' :: c :: s =>
    if c.isDigit then (c :: s.takeWhile Char.isDigit, s.dropWhile Char.isDigit)
    else ([], '.' :: c :: s)
  | s => ([], s)

/-- The exponent of a number, if there is one: a letter, a sign or none, and a digit or more. -/
def readExponent (s : List Char) : Option Int × List Char :=
  match s with
  | c :: t =>
    if c == 'e' || c == 'E' then
      let (negative, t) := match t with
        | '-' :: t => (true, t)
        | '+' :: t => (false, t)
        | t => (false, t)
      let digits := t.takeWhile Char.isDigit
      if digits = [] then (none, s)
      else
        let size : Int := Nat.ofDigitChars 10 digits 0
        (some (if negative then -size else size), t.dropWhile Char.isDigit)
    else (none, s)
  | [] => (none, s)

/-- The number of a sign and digits: an integer when there is neither fraction nor exponent. -/
def numberOf (negative : Bool) (whole fraction : List Char) (exponent : Option Int) :
    Except Problem Value :=
  if fraction = [] ∧ exponent = none then
    if maxIntegerDigits < whole.length then .error (.integerTooLong whole.length)
    else
      let size : Int := Nat.ofDigitChars 10 whole 0
      .ok (.int (if negative then -size else size))
  else
    .ok (.float (Decimal.toDouble negative
      ⟨Nat.ofDigitChars 10 (whole ++ fraction) 0, exponent.getD 0 - fraction.length⟩))

/-- A number, if one starts there. -/
def readNumber (s : List Char) : Option (Reading Value) :=
  let (negative, unsigned) := match s with
    | '-' :: t => (true, t)
    | t => (false, t)
  (readIntegerDigits unsigned).map fun (whole, t) =>
    let (fraction, t) := readFractionDigits t
    let (exponent, t) := readExponent t
    (numberOf negative whole fraction exponent).map (·, t)

/-! ## Values -/

/-- The words that stand for a value. -/
def literals : List (List Char × Value) := [
  ("null".toList, .null),
  ("true".toList, .bool true),
  ("false".toList, .bool false),
  ("NaN".toList, .float .nan),
  ("Infinity".toList, .float (.infinite false)),
  ("-Infinity".toList, .float (.infinite true))]

/-- The text behind a word in front. -/
def afterWord? (word s : List Char) : Option (List Char) :=
  if word.isPrefixOf s then some (s.drop word.length) else none

/-- The value of a word in front. -/
def readLiteral (s : List Char) : Option (Value × List Char) :=
  literals.findSome? fun (word, v) => (afterWord? word s).map (v, ·)

/-- A word or a number. -/
def readScalar (s : List Char) : Reading Value :=
  match readLiteral s with
  | some r => .ok r
  | none => (readNumber s).getD (.error (.at .missingValue s.length))

mutual
/-- A value. -/
def readValue (stands : Text.Half → Char) : Nat → List Char → Reading Value
  | 0, s => .error (.at .missingValue s.length)
  | fuel + 1, s =>
    match s with
    | '"' :: t => (readText stands s.length t).map fun (text, rest) => (.text text, rest)
    | '[' :: t =>
      match skipSpace t with
      | ']' :: rest => .ok (.list [], rest)
      | t => (readItems stands fuel t).map fun (items, rest) => (.list items, rest)
    | '\x7b' :: t =>
      match skipSpace t with
      | '\x7d' :: rest => .ok (.object [], rest)
      | t => (readEntries stands fuel t).map fun (entries, rest) =>
          (.object (entries.foldl (fun es (k, v) => Entries.set k v es) []), rest)
    | _ => readScalar s
/-- The items of a list that has one, up to its closing bracket. -/
def readItems (stands : Text.Half → Char) : Nat → List Char → Reading (List Value)
  | 0, s => .error (.at .missingValue s.length)
  | fuel + 1, s =>
    match readValue stands fuel s with
    | .error p => .error p
    | .ok (v, rest) =>
      match skipSpace rest with
      | ']' :: rest => .ok ([v], rest)
      | ',' :: rest => (readItems stands fuel (skipSpace rest)).map fun (vs, rest) => (v :: vs, rest)
      | rest => .error (.at .missingComma rest.length)
/-- The entries of an object that has one, up to its closing brace. -/
def readEntries (stands : Text.Half → Char) : Nat → List Char → Reading (List (String × Value))
  | 0, s => .error (.at .missingKey s.length)
  | fuel + 1, s =>
    match s with
    | '"' :: t =>
      match readText stands s.length t with
      | .error p => .error p
      | .ok (key, rest) =>
        match skipSpace rest with
        | ':' :: rest =>
          match readValue stands fuel (skipSpace rest) with
          | .error p => .error p
          | .ok (v, rest) =>
            match skipSpace rest with
            | '\x7d' :: rest => .ok ([(key, v)], rest)
            | ',' :: rest =>
              (readEntries stands fuel (skipSpace rest)).map fun (es, rest) =>
                ((key, v) :: es, rest)
            | rest => .error (.at .missingComma rest.length)
        | rest => .error (.at .missingColon rest.length)
    | _ => .error (.at .missingKey s.length)
end

/-- The value of a whole text. Reading an item takes at most two steps for each of its characters,
    so the steps allowed are never used up. -/
def readDocument (stands : Text.Half → Char) (s : List Char) : Except Problem Value :=
  match s with
  | '\uFEFF' :: _ => .error (.at .byteOrderMark s.length)
  | _ =>
    let t := skipSpace s
    match readValue stands (2 * t.length + 2) t with
    | .error p => .error p
    | .ok (v, rest) =>
      match skipSpace rest with
      | [] => .ok v
      | rest => .error (.at .extraData rest.length)

/-- The value that a text stands for, with a character for each half of a pair that stands alone. -/
def parseWith (stands : Text.Half → Char) (s : List Char) : Except Error Value :=
  match readDocument stands s with
  | .ok v => .ok v
  | .error (.at cause left) => .error (.malformed cause (.of s (s.length - left)))
  | .error (.integerTooLong digits) => .error (.integerTooLong digits)

/-- The value that a text stands for. Where nothing depends on halves of pairs, the replacement character
    stands for each. -/
def parse (s : List Char) : Except Error Value := parseWith (fun _ => '\uFFFD') s

end ShelfRules.Json
