import ShelfRules.Calendar.Iso
import ShelfRules.Text.Character

/-!
# Date patterns

A pattern is a sequence of pieces. A piece reads the text in front of it in several ways, tried in
order, so that a pattern backtracks; the first way through all pieces counts, and has to consume the
whole text.

A text is a date when it is an ISO text whose instant lies in the years 1 to 9999, or when one of the
known patterns reads it. A text of digits alone is a date only as a year of four digits.

Results:
* `Moment.ofText?_of_blank`: a blank text is no date.
-/

namespace ShelfRules

/-- A piece of a date pattern. -/
inductive Piece where
  /-- Four decimal digits. -/
  | year
  /-- A month from 1 to 12, with or without a zero in front. -/
  | month
  /-- A day from 1 to 31, with or without a zero or a space in front. -/
  | day
  /-- The English name of a month in any case. -/
  | monthName
  /-- The first three letters of that name. -/
  | monthAbbreviation
  /-- One blank or more. -/
  | blanks
  /-- A character that has to stand there. -/
  | sign (c : Char)
deriving DecidableEq, Repr

/-- What has been read of a date. What is not read stays at the first day of the year. -/
structure DateParts where
  year : Nat := 1
  month : Nat := 1
  day : Nat := 1
deriving DecidableEq, Repr

namespace Piece

/-- The English names of the months. -/
def monthNames : List (List Char) :=
  ["january", "february", "march", "april", "may", "june", "july", "august", "september",
    "october", "november", "december"].map String.toList

/-- The value of a character among the digits `low` to `high`. -/
def digitIn? (low high : Nat) (c : Char) : Option Nat :=
  if c.isDigit && low ≤ c.toNat - 48 && c.toNat - 48 ≤ high then some (c.toNat - 48) else none

/-- Four decimal digits of any script. -/
def readYear : List Char → List (Nat × List Char)
  | a :: b :: c :: d :: s =>
    if [a, b, c, d].all Text.isDecimal then [(Text.digitsValue [a, b, c, d], s)] else []
  | _ => []

/-- One digit of a class, counted from `base`. -/
def readUnit (base : Nat) (digit? : Char → Option Nat) : List Char → List (Nat × List Char)
  | c :: s => ((digit? c).map (base + ·, s)).toList
  | [] => []

/-- What is read behind a character that has to stand there. -/
def readPast (lead : Char) (read : List Char → List (Nat × List Char)) :
    List Char → List (Nat × List Char)
  | c :: s => if c = lead then read s else []
  | [] => []

/-- One of the digits 1 to 9. -/
def readNonzero : List Char → List (Nat × List Char) := readUnit 0 (digitIn? 1 9)

/-- The ways to read a month: 10 to 12, one with a zero in front, or one digit. -/
def readMonth (s : List Char) : List (Nat × List Char) :=
  readPast '1' (readUnit 10 (digitIn? 0 2)) s ++ readPast '0' readNonzero s ++ readNonzero s

/-- The ways to read a day: 30 and 31, 10 to 29, one with a zero in front, one digit, or one with a
    space in front. -/
def readDay (s : List Char) : List (Nat × List Char) :=
  readPast '3' (readUnit 30 (digitIn? 0 1)) s ++ readPast '1' (readUnit 10 Text.digitValue?) s ++
    readPast '2' (readUnit 20 Text.digitValue?) s ++ readPast '0' readNonzero s ++ readNonzero s ++
    readPast ' ' readNonzero s

/-- The names among a list that stand in front, in any case, with their numbers from 1. -/
def readName (names : List (List Char)) (s : List Char) : List (Nat × List Char) :=
  names.zipIdx.filterMap fun (name, i) =>
    if (s.take name.length).map Char.toLower = name then some (i + 1, s.drop name.length) else none

/-- The ways to pass over blanks, the longest first. -/
def passBlanks (s : List Char) : List (List Char) :=
  let count := (s.takeWhile Text.isBlank).length
  (List.range count).map fun i => s.drop (count - i)

/-- The ways in which a piece reads a text. -/
def reads (piece : Piece) (parts : DateParts) (s : List Char) : List (DateParts × List Char) :=
  match piece with
  | .year => (readYear s).map fun (n, s) => ({ parts with year := n }, s)
  | .month => (readMonth s).map fun (n, s) => ({ parts with month := n }, s)
  | .day => (readDay s).map fun (n, s) => ({ parts with day := n }, s)
  | .monthName => (readName monthNames s).map fun (n, s) => ({ parts with month := n }, s)
  | .monthAbbreviation =>
    (readName (monthNames.map (·.take 3)) s).map fun (n, s) => ({ parts with month := n }, s)
  | .blanks => (passBlanks s).map fun s => (parts, s)
  | .sign c =>
    match s with
    | d :: s => if d = c then [(parts, s)] else []
    | [] => []

end Piece

/-- A sequence of pieces. -/
abbrev Pattern := List Piece

namespace Pattern

/-- The first way through all pieces, and the text behind it. -/
def readFrom : Pattern → DateParts → List Char → Option (DateParts × List Char)
  | [], parts, s => some (parts, s)
  | piece :: pattern, parts, s =>
    (piece.reads parts s).findSome? fun (parts, s) => readFrom pattern parts s

/-- The date that a text stands for under a pattern. -/
def read? (pattern : Pattern) (s : List Char) : Option Date :=
  match pattern.readFrom {} s with
  | some (parts, []) => Date.of? parts.year parts.month parts.day
  | _ => none

/-- The patterns of dates that are no ISO texts, in the order in which they are tried. -/
def known : List Pattern := [
  [.year],
  [.year, .sign '-', .month],
  [.year, .sign '/', .month, .sign '/', .day],
  [.month, .sign '/', .day, .sign '/', .year],
  [.day, .sign '.', .month, .sign '.', .year],
  [.monthName, .blanks, .day, .sign ',', .blanks, .year],
  [.monthAbbreviation, .blanks, .day, .sign ',', .blanks, .year],
  [.monthName, .blanks, .day, .blanks, .year],
  [.monthAbbreviation, .blanks, .day, .blanks, .year],
  [.day, .blanks, .monthName, .blanks, .year],
  [.day, .blanks, .monthAbbreviation, .blanks, .year],
  [.monthName, .blanks, .year],
  [.monthAbbreviation, .blanks, .year]]

end Pattern

/-! ## Dates in free text -/

/-- The text is of digits alone, and not four of them. -/
def isBareNumber (s : List Char) : Bool :=
  s.all Text.isDigitLike && s.length != 4

/-- The moment in UTC that a text without blanks at its ends stands for. -/
def Moment.ofStripped? (s : List Char) : Option Moment :=
  if s = [] || isBareNumber s then none
  else ((Timestamp.ofIso? s).bind Timestamp.toUtc?).or
    ((Pattern.known.findSome? (·.read? s)).map Moment.ofDate)

/-- The moment in UTC that a text stands for, if it is a date. -/
def Moment.ofText? (s : String) : Option Moment :=
  Moment.ofStripped? (Text.strip s.toList)

theorem Moment.ofText?_of_blank {s : String} (h : Text.strip s.toList = []) :
    Moment.ofText? s = none := by
  simp [ofText?, ofStripped?, h]

end ShelfRules
