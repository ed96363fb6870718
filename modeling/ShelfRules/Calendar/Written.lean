import ShelfRules.Calendar.Moment

/-!
# Written dates

The numeric forms of dates and moments: `2020-05-01`, `2020-05-01T08:30:00`, with six digits behind
a point when there are microseconds, and with an offset such as `+02:00` when the clock tells one.

Results:
* `length_padded`: a number that fits takes exactly the width asked for.
-/

namespace ShelfRules

/-- A number with zeros in front up to a width. -/
def padded (width n : Nat) : List Char :=
  let digits := Nat.toDigits 10 n
  List.replicate (width - digits.length) '0' ++ digits

theorem length_padded {width n : Nat} (hw : 0 < width) (h : n < 10 ^ width) :
    (padded width n).length = width := by
  have := (Nat.length_toDigits_le_iff (b := 10) (n := n) (k := width) (by decide) hw).2 h
  simp [padded]
  omega

namespace Date

/-- Year, month and day with hyphens, the year with four digits. -/
def isoChars (d : Date) : List Char :=
  padded 4 d.year ++ '-' :: padded 2 d.month ++ '-' :: padded 2 d.day

/-- Year, month and day with hyphens, the year with as many digits as it has. -/
def shortChars (d : Date) : List Char :=
  Nat.toDigits 10 d.year ++ '-' :: padded 2 d.month ++ '-' :: padded 2 d.day

end Date

namespace TimeOfDay

/-- Hour, minute and second with colons. -/
def clockChars (t : TimeOfDay) : List Char :=
  padded 2 t.hour ++ ':' :: padded 2 t.minute ++ ':' :: padded 2 t.second

/-- Hour, minute and second with colons, and the microseconds when there are any. -/
def isoChars (t : TimeOfDay) : List Char :=
  t.clockChars ++ (if t.micro = 0 then [] else '.' :: padded 6 t.micro)

end TimeOfDay

namespace Moment

/-- The date and the time with a `T` between them. -/
def isoChars (m : Moment) : List Char := m.date.isoChars ++ 'T' :: m.time.isoChars

end Moment

namespace Offset

/-- The sign, the hours and the minutes, and what there is of seconds and microseconds. -/
def isoChars (o : Offset) : List Char :=
  let size := o.micros.natAbs
  let seconds := size / 1000000 % 60
  let micros := size % 1000000
  (if o.micros < 0 then '-' else '+') ::
    (padded 2 (size / 3600000000) ++ ':' :: padded 2 (size / 60000000 % 60) ++
      (if seconds = 0 ∧ micros = 0 then [] else ':' :: padded 2 seconds) ++
      (if micros = 0 then [] else '.' :: padded 6 micros))

end Offset

namespace Timestamp

/-- The moment on the clock, with the offset when the clock tells one. -/
def isoChars (t : Timestamp) : List Char :=
  t.wall.isoChars ++ (t.offset.map Offset.isoChars).getD []

end Timestamp

end ShelfRules
