import ShelfRules.Calendar.Date
import ShelfRules.Double

/-!
# Moments

A moment is a date with a time of day, to the microsecond. A timestamp is a moment on some clock: a
clock that tells its offset from UTC, or one that does not and is taken to show UTC.

Results:
* `Timestamp.toUtc?_naive`: without an offset a timestamp is its own moment.
-/

namespace ShelfRules

/-! ## Times of day -/

/-- The four numbers name a time of day. -/
def IsTime (hour minute second micro : Nat) : Prop :=
  hour < 24 ∧ minute < 60 ∧ second < 60 ∧ micro < 1000000

instance (hour minute second micro : Nat) : Decidable (IsTime hour minute second micro) :=
  inferInstanceAs (Decidable (_ ∧ _))

/-- A time of day. -/
structure TimeOfDay where
  hour : Nat
  minute : Nat
  second : Nat
  micro : Nat
  valid : IsTime hour minute second micro
deriving DecidableEq, Repr

namespace TimeOfDay

/-- The time of day with the given parts, if there is one. -/
def of? (hour minute second micro : Nat) : Option TimeOfDay :=
  if h : IsTime hour minute second micro then some ⟨hour, minute, second, micro, h⟩ else none

/-- The start of the day. -/
def midnight : TimeOfDay := ⟨0, 0, 0, 0, by decide⟩

/-- Microseconds since midnight. -/
def micros (t : TimeOfDay) : Nat :=
  ((t.hour * 60 + t.minute) * 60 + t.second) * 1000000 + t.micro

/-- The time of day that many microseconds past midnight, days being dropped. -/
def ofMicros (n : Nat) : TimeOfDay :=
  ⟨n / 3600000000 % 24, n / 60000000 % 60, n / 1000000 % 60, n % 1000000, by
    unfold IsTime; omega⟩

end TimeOfDay

/-! ## Moments -/

/-- Microseconds in a day. -/
def dayMicros : Nat := 86400000000

/-- A date with a time of day. -/
structure Moment where
  date : Date
  time : TimeOfDay
deriving DecidableEq, Repr

namespace Moment

/-- The start of a day. -/
def ofDate (d : Date) : Moment := ⟨d, .midnight⟩

/-- Microseconds on the scale on which a day starts at its number of days. -/
def micros (m : Moment) : Nat := m.date.ordinal * dayMicros + m.time.micros

/-- The moment at a number of microseconds, if it lies in the years 1 to 9999. -/
def ofMicros? (n : Int) : Option Moment :=
  if n < 0 then none
  else (Date.ofOrdinal? (n.toNat / dayMicros)).map (⟨·, .ofMicros (n.toNat % dayMicros)⟩)

/-- The order in time. -/
def lt (a b : Moment) : Bool := a.micros < b.micros

/-- The order in time, or the same moment. -/
def le (a b : Moment) : Bool := a.micros ≤ b.micros

/-- The start of 1970. -/
def epoch : Moment := .ofDate ⟨1970, 1, 1, by decide⟩

/-- Milliseconds since the start of 1970. The seconds are rounded to a double first, and the
    thousandfold of that is rounded again. -/
def epochMillis (m : Moment) : Double :=
  let difference : Int := (m.micros : Int) - epoch.micros
  (Double.ofRatio (difference < 0) difference.natAbs 1000000).mulNat 1000

end Moment

/-! ## Timestamps -/

/-- An offset of a clock from UTC in microseconds, less than a day. -/
structure Offset where
  micros : Int
  bounded : micros.natAbs < dayMicros
deriving DecidableEq, Repr

namespace Offset

/-- The offset of a number of microseconds, if it is less than a day. -/
def of? (micros : Int) : Option Offset :=
  if h : micros.natAbs < dayMicros then some ⟨micros, h⟩ else none

end Offset

/-- A moment as a clock shows it, with the clock's offset from UTC when it is told. -/
structure Timestamp where
  wall : Moment
  offset : Option Offset
deriving DecidableEq, Repr

namespace Timestamp

/-- A moment on a clock that does not tell its offset. -/
def naive (m : Moment) : Timestamp := ⟨m, none⟩

/-- Microseconds in UTC, also outside of the years 1 to 9999. -/
def utcMicros (t : Timestamp) : Int :=
  (t.wall.micros : Int) - (t.offset.map Offset.micros).getD 0

/-- The moment in UTC; none when the shift leaves the years 1 to 9999. -/
def toUtc? (t : Timestamp) : Option Moment :=
  match t.offset with
  | none => some t.wall
  | some _ => Moment.ofMicros? t.utcMicros

theorem toUtc?_naive (m : Moment) : (naive m).toUtc? = some m := rfl

/-- The same instant: a clock that tells its offset is never equal to one that does not. -/
def same (a b : Timestamp) : Bool :=
  a.offset.isSome == b.offset.isSome && a.utcMicros == b.utcMicros

end Timestamp

end ShelfRules
