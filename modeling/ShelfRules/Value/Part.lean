import ShelfRules.Value.Equality

/-!
# Parts of values

A value has parts under names. The parts of an object are its entries; a number, a date, a timestamp
and a state of reading have the parts that they are made of. A part that is no value itself counts as
an object without entries, which equals no text and no number.

Results:
* `Value.part_object`: the parts of an object are its entries.
-/

namespace ShelfRules

namespace Date

/-- The first day. -/
def first : Date := ⟨1, 1, 1, by decide⟩

/-- The last day. -/
def last : Date := ⟨9999, 12, 31, by decide⟩

end Date

namespace Value

/-- A part that is no value itself. -/
def otherPart : Value := .object []

/-- The parts of an integer: those of a complex number, and those of a fraction. -/
def partOfInt (n : Int) : String → Value
  | "real" | "numerator" => .int n
  | "imag" => .int 0
  | "denominator" => .int 1
  | _ => .null

/-- The parts of a double: those of a complex number. -/
def partOfDouble (d : Double) : String → Value
  | "real" => .float d
  | "imag" => .float (.zero false)
  | _ => .null

/-- The parts of a text: the way to write it as a title. -/
def partOfText : String → Value
  | "title" => otherPart
  | _ => .null

/-- The parts of a date: its numbers, the bounds of the calendar, and the least step. -/
def partOfDate (d : Date) : String → Value
  | "year" => .int d.year
  | "month" => .int d.month
  | "day" => .int d.day
  | "min" => .date .first
  | "max" => .date .last
  | "resolution" => otherPart
  | _ => .null

/-- The parts of a timestamp: those of its date, those of its time of day, and its clock. -/
def partOfStamp (t : Timestamp) : String → Value
  | "hour" => .int t.wall.time.hour
  | "minute" => .int t.wall.time.minute
  | "second" => .int t.wall.time.second
  | "microsecond" => .int t.wall.time.micro
  | "fold" => .int 0
  | "tzinfo" => if t.offset.isSome then otherPart else .null
  | "min" => .moment (.ofDate .first)
  | "max" => .moment ⟨.last, 23, 59, 59, 999999, by decide⟩
  | name => partOfDate t.wall.date name

/-- The parts of a state of reading: its name, and every state under the name of that. -/
def partOfStatus (s : ReadStatus) : String → Value
  | "name" | "value" => .text s.name
  | name => ((ReadStatus.ofName? name).map status).getD .null

/-- The part of a value under a name, null when there is none. -/
def part (v : Value) (name : String) : Value :=
  match v with
  | .object entries => Entries.get entries name
  | .bool b => partOfInt (ofBool b) name
  | .int n => partOfInt n name
  | .float d => partOfDouble d name
  | .text _ => partOfText name
  | .date d => partOfDate d name
  | .stamp t => partOfStamp t name
  | .status s => partOfStatus s name
  | .null | .list _ | .tuple _ => .null

theorem part_object (entries : Entries) (name : String) :
    part (.object entries) name = entries.get name := rfl

end Value

end ShelfRules
