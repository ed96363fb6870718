/-!
# Reading progress

The states of reading that a book can be in, and their names.

Results:
* `ReadStatus.ofName?_name`: a state is found by its name.
-/

namespace ShelfRules

/-- How far a book has been read. -/
inductive ReadStatus where
  | unread
  | reading
  | reReading
  | read
  | partiallyRead
  | paused
  | wontRead
  | abandoned
  | unset
deriving DecidableEq, Repr

namespace ReadStatus

/-- All states, in the order in which they are listed. -/
def all : List ReadStatus :=
  [.unread, .reading, .reReading, .read, .partiallyRead, .paused, .wontRead, .abandoned, .unset]

/-- The name of a state. -/
def name : ReadStatus → String
  | .unread => "UNREAD"
  | .reading => "READING"
  | .reReading => "RE_READING"
  | .read => "READ"
  | .partiallyRead => "PARTIALLY_READ"
  | .paused => "PAUSED"
  | .wontRead => "WONT_READ"
  | .abandoned => "ABANDONED"
  | .unset => "UNSET"

/-- The state with a name. -/
def ofName? (s : String) : Option ReadStatus := all.find? fun status => status.name == s

theorem ofName?_name (status : ReadStatus) : ofName? status.name = some status := by
  cases status <;> rfl

end ReadStatus

end ShelfRules
