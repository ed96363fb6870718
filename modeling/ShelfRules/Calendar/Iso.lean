import ShelfRules.Calendar.Moment

/-!
# Reading ISO 8601

The reader of numeric dates and timestamps. The date is `YYYY-MM-DD`, `YYYYMMDD` or a week date such
as `2020-W18-5`; any one character may stand between date and time; the time is `hh`, `hh:mm` or
`hh:mm:ss`, with or without its colons, with a fraction of the second behind a point or a comma; the
offset is `Z` or a signed time. A NUL ends the text.

Results:
* `Timestamp.ofIso?_of_short`: no text of fewer than seven characters is a date.
-/

namespace ShelfRules

namespace Iso

/-! ## Digits -/

/-- A number of exactly `count` digits, continuing `start`, and the text behind it. -/
def readDigitsFrom (start : Nat) : Nat → List Char → Option (Nat × List Char)
  | 0, s => some (start, s)
  | count + 1, c :: s =>
    if c.isDigit then readDigitsFrom (10 * start + (c.toNat - 48)) count s else none
  | _ + 1, [] => none

/-- A number of exactly `count` digits and the text behind it. -/
def readDigits (count : Nat) (s : List Char) : Option (Nat × List Char) :=
  readDigitsFrom 0 count s

/-- The text behind a character that has to stand there. -/
def skip (c : Char) : List Char → Option (List Char)
  | d :: s => if d = c then some s else none
  | [] => none

/-! ## Dates -/

/-- How many characters in front are the date. A week date with a hyphen is followed by a time
    without a day when the character two places behind its last hyphen is a digit; one without a
    hyphen is told from its time by the parity of the digits. -/
def dateLength? (s : List Char) : Option Nat :=
  if s.length < 7 then none
  else if s.length = 7 then some 7
  else match s.drop 4 with
    | '-' :: 'W' :: s =>
      match s.drop 2 with
      | ['-'] => none
      | '-' :: _ :: c :: _ => some (if c.isDigit then 8 else 10)
      | '-' :: _ => some 10
      | _ => some 8
    | '-' :: _ => some 10
    | 'W' :: s =>
      let stop := 7 + ((s.drop 2).takeWhile Char.isDigit).length
      some (if stop < 9 then stop else if stop % 2 = 0 then 7 else 8)
    | _ => some 8

/-- The week of a week date, and its day unless the date ends before it. -/
def readWeek (length year : Nat) (dashed : Bool) (s : List Char) : Option Date := do
  let (week, s) ← readDigits 2 s
  if (if dashed then 8 else 7) < length then
    let s ← if dashed then skip '-' s else some s
    let (day, _) ← readDigits 1 s
    Date.ofWeek? year week day
  else Date.ofWeek? year week 1

/-- The month and the day of a date. -/
def readMonthDay (length year : Nat) (dashed : Bool) (s : List Char) : Option Date := do
  let (month, s) ← readDigits 2 s
  let s ← if dashed then skip '-' s else some s
  let (day, _) ← readDigits 2 s
  if length = (if dashed then 10 else 8) then Date.of? year month day else none

/-- The date in the first `length` characters. -/
def readDate (length : Nat) (s : List Char) : Option Date := do
  let (year, s) ← readDigits 4 s
  match s with
  | '-' :: 'W' :: s => readWeek length year true s
  | 'W' :: s => readWeek length year false s
  | '-' :: s => readMonthDay length year true s
  | s => readMonthDay length year false s

/-! ## Times -/

/-- The parts of a time as they are written, and whether a character is left behind them. -/
structure Clock where
  hour : Nat
  minute : Nat
  second : Nat
  micro : Nat
  leftover : Bool
deriving DecidableEq, Repr

/-- Something other than the end stands there. -/
def isLeftover : List Char → Bool
  | [] => false
  | c :: _ => c != '\x00'

/-- The fraction of a second: up to six digits count, more are passed over. -/
def readFraction (hour minute second : Nat) (s : List Char) : Option Clock := do
  let count := min s.length 6
  let (value, s) ← readDigits count s
  some ⟨hour, minute, second, value * 10 ^ (6 - count), isLeftover (s.dropWhile Char.isDigit)⟩

/-- The character starts a fraction. -/
def isPoint (c : Char) : Bool := c == '.' || c == ','

/-- What stands behind a part of a time: the end, one last character of ASCII, which is left over, or
    more characters, which are read on. -/
def readBehind (clock : Bool → Clock) (more : Char → List Char → Option Clock) :
    List Char → Option Clock
  | [] => some (clock false)
  | [c] => if c.toNat < 128 then some (clock (c != '\x00')) else none
  | c :: s => more c s

/-- The seconds. Behind them a third colon stands for a point. -/
def readSeconds (hour minute : Nat) (colons : Bool) (s : List Char) : Option Clock := do
  let (second, s) ← readDigits 2 s
  readBehind (⟨hour, minute, second, 0, ·⟩) (fun c s =>
    if (colons && c == ':') || isPoint c then readFraction hour minute second s
    else if colons then none
    else readFraction hour minute second (c :: s)) s

/-- The minutes and what follows. -/
def readMinutes (hour : Nat) (colons : Bool) (s : List Char) : Option Clock := do
  let (minute, s) ← readDigits 2 s
  readBehind (⟨hour, minute, 0, 0, ·⟩) (fun c s =>
    if colons && c == ':' then readSeconds hour minute colons s
    else if isPoint c then readFraction hour minute 0 s
    else if colons then none
    else readSeconds hour minute colons (c :: s)) s

/-- A time. The character behind the hour decides whether the parts are separated by colons. One
    character of ASCII may be left behind a time without a fraction. -/
def readClock (s : List Char) : Option Clock := do
  let (hour, s) ← readDigits 2 s
  readBehind (⟨hour, 0, 0, 0, ·⟩) (fun c s =>
    if c == ':' then readMinutes hour true s
    else if isPoint c then readFraction hour 0 0 s
    else readMinutes hour false (c :: s)) s

/-- The character starts an offset. -/
def startsOffset (c : Char) : Bool := c == '+' || c == '-' || c == 'Z'

/-- The offset that is written with a sign. A zero offset drops its fraction, and the hour, minute
    and second are not held to their ranges. -/
def readOffset (negative : Bool) (s : List Char) : Option Offset := do
  let clock ← readClock s
  if clock.leftover then none
  else
    let seconds := clock.hour * 3600 + clock.minute * 60 + clock.second
    let micros : Int := if seconds = 0 then 0 else (seconds * 1000000 + clock.micro : Nat)
    Offset.of? (if negative then -micros else micros)

/-- A time of day with or without an offset. A character left behind the time is passed over when an
    offset follows it. -/
def readTime (s : List Char) : Option (TimeOfDay × Option Offset) := do
  let clock ← readClock (s.takeWhile (!startsOffset ·))
  let time ← TimeOfDay.of? clock.hour clock.minute clock.second clock.micro
  match s.dropWhile (!startsOffset ·) with
  | [] => if clock.leftover then none else some (time, none)
  | 'Z' :: s => if isLeftover s then none else some (time, Offset.of? 0)
  | c :: s => (readOffset (c == '-') s).map fun o => (time, some o)

end Iso

/-! ## Timestamps -/

/-- The timestamp that an ISO text stands for. -/
def Timestamp.ofIso? (s : List Char) : Option Timestamp := do
  let length ← Iso.dateLength? s
  let date ← Iso.readDate length s
  match s.drop length with
  | [] => some (.naive (.ofDate date))
  | _ :: s => (Iso.readTime s).map fun (time, offset) => ⟨⟨date, time⟩, offset⟩

theorem Timestamp.ofIso?_of_short {s : List Char} (h : s.length < 7) : ofIso? s = none := by
  simp [ofIso?, Iso.dateLength?, h]

end ShelfRules
