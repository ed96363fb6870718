/-!
# Dates

Days of the Gregorian calendar, extended back to year 1 and kept to four-digit years, with their
numbers: day 1 is the first of January of year 1.

Results:
* `Date.ext_parts`: a date is its year, month and day.
-/

namespace ShelfRules

/-! ## Years and months -/

/-- The year has a 29th of February. -/
def isLeap (year : Nat) : Bool :=
  year % 4 == 0 && (year % 100 != 0 || year % 400 == 0)

/-- The length of a month, numbered from 1. -/
def daysInMonth (year month : Nat) : Nat :=
  if month = 2 then if isLeap year then 29 else 28
  else if month = 4 ∨ month = 6 ∨ month = 9 ∨ month = 11 then 30
  else 31

/-- The number of days before the first of January of a year. -/
def daysBeforeYear (year : Nat) : Nat :=
  365 * (year - 1) + (year - 1) / 4 - (year - 1) / 100 + (year - 1) / 400

/-- The number of days of a year before the first of a month. -/
def daysBeforeMonth (year month : Nat) : Nat :=
  ((List.range' 1 (month - 1)).map (daysInMonth year)).foldr (· + ·) 0

/-! ## Dates -/

/-- The three numbers name a day of the years 1 to 9999. -/
def IsDate (year month day : Nat) : Prop :=
  1 ≤ year ∧ year ≤ 9999 ∧ 1 ≤ month ∧ month ≤ 12 ∧ 1 ≤ day ∧ day ≤ daysInMonth year month

instance (year month day : Nat) : Decidable (IsDate year month day) :=
  inferInstanceAs (Decidable (_ ∧ _))

/-- A day of the years 1 to 9999. -/
structure Date where
  year : Nat
  month : Nat
  day : Nat
  valid : IsDate year month day
deriving DecidableEq, Repr

namespace Date

/-- The date with the given year, month and day, if there is one. -/
def of? (year month day : Nat) : Option Date :=
  if h : IsDate year month day then some ⟨year, month, day, h⟩ else none

/-- The number of the day. -/
def ordinal (d : Date) : Nat :=
  daysBeforeYear d.year + daysBeforeMonth d.year d.month + d.day

/-- The year of the day with a number. The mean length of a year gives a guess that is wrong by one
    year at most. -/
def yearOfOrdinal (n : Nat) : Nat :=
  let guess := (n - 1) * 400 / 146097 + 1
  if daysBeforeYear (guess + 1) < n then guess + 1
  else if daysBeforeYear guess < n then guess
  else guess - 1

/-- The month of the `n`-th day of a year: the number of months that start before the day ends. -/
def monthOfDay (year n : Nat) : Nat :=
  (List.range' 1 12).countP fun month => daysBeforeMonth year month < n

/-- The date with a number, if it lies in the years 1 to 9999. -/
def ofOrdinal? (n : Nat) : Option Date :=
  let year := yearOfOrdinal n
  let n := n - daysBeforeYear year
  let month := monthOfDay year n
  of? year month (n - daysBeforeMonth year month)

/-- The calendar order. -/
def lt (a b : Date) : Bool := a.ordinal < b.ordinal

theorem ext_parts {a b : Date} (hy : a.year = b.year) (hm : a.month = b.month)
    (hd : a.day = b.day) : a = b := by
  cases a; cases b; simp_all

theorem of?_eq_some (d : Date) : of? d.year d.month d.day = some d := by
  simp [of?, d.valid]

/-! ## Weeks -/

/-- The day of the week on which a year starts, Monday being 0. -/
def firstWeekday (year : Nat) : Nat := (daysBeforeYear year + 7) % 7

/-- The number of the Monday of a year's first week, which is the week of its first Thursday. -/
def firstMonday (year : Nat) : Nat :=
  let monday := daysBeforeYear year + 1 - firstWeekday year
  if 3 < firstWeekday year then monday + 7 else monday

/-- The year has a 53rd week: it starts on a Thursday, or on a Wednesday and is a leap year. -/
def hasLongWeeks (year : Nat) : Bool :=
  firstWeekday year == 3 || (firstWeekday year == 2 && isLeap year)

/-- The date of a day of a numbered week, both numbered from 1. -/
def ofWeek? (year week day : Nat) : Option Date :=
  if 1 ≤ year ∧ 1 ≤ week ∧ (week ≤ 52 ∨ (week = 53 ∧ hasLongWeeks year)) ∧ 1 ≤ day ∧ day ≤ 7 then
    ofOrdinal? (firstMonday year + (week - 1) * 7 + (day - 1))
  else none

end Date

end ShelfRules
