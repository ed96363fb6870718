import ShelfRules.Filter.Evaluation
import ShelfRules.Log.Logger
import ShelfRules.Shelf.Portable

/-!
# The command line

The program is given a file of books, and maybe a file of portable shelves, and prints the number of
matching books for every shelf. Its log goes to the same console: a record for each notice, before the
first number is printed. The records for debugging, which name the program and its version and tell each
rule that is evaluated, are left out.

Results:
* `CommandLine.printLines_length`: there is one line for every shelf.
-/

namespace ShelfRules

namespace CommandLine

/-- How the program is called. -/
def usage : String := "usage: magicshelf BOOKS_JSON [SHELVES_JSON]"

/-- What a run leaves behind: the notices that it gives, the lines that it prints behind them, and its code
or the fault that ends it. A fault takes back no line. -/
structure Outcome where
  notices : List Notice
  lines : List String
  ending : Except Fault Nat

namespace Outcome

/-- A run that prints nothing. -/
def silent (r : Report Nat) : Outcome := ⟨r.notices, [], r.result⟩

/-- A step, and the rest of a run with its result. After a fault there is no rest. -/
def after {α : Type} (r : Report α) (f : α → Outcome) : Outcome :=
  match r.result with
  | .ok a => ⟨r.notices ++ (f a).notices, (f a).lines, (f a).ending⟩
  | .error e => ⟨r.notices, [], .error e⟩

/-- The text that is printed. -/
def text (o : Outcome) : String := String.join (o.lines.map (· ++ "\n"))

theorem after_eq {α : Type} {r : Report α} {a : α} (h : r.result = .ok a) (f : α → Outcome) :
    after r f = ⟨r.notices ++ (f a).notices, (f a).lines, (f a).ending⟩ := by
  rw [after, h]

end Outcome

/-- The argument asks for help. -/
def asksHelp (s : String) : Bool := s == "-h" || s == "--help"

/-- The files named by the arguments; none when the usage is to be printed. -/
def files? (exportFile : Path) : List String → Option (Path × Path)
  | [books] => if asksHelp books then none else some (Path.ofText books, exportFile)
  | [books, shelves] =>
    if asksHelp books then none else some (Path.ofText books, Path.ofText shelves)
  | _ => none

/-- The code with which the usage is printed. -/
def usageCode (args : List String) : Nat := if args.head?.any asksHelp then 0 else 2

/-- The items that are payloads of books, as books. -/
def booksOf (items : List Value) : List Record :=
  items.filterMap fun v => (Book.ofPayload? v).map .book

/-- The items of a list. -/
def itemsOf : Value → List Value
  | .list items => items
  | _ => []

/-- The warning that some items of a list are no payloads of books. -/
def malformed (items : List Value) : List Notice :=
  let skipped := items.length - (booksOf items).length
  if skipped = 0 then []
  else [⟨.warning, .program, s!"Skipped {skipped} malformed book entries"⟩]

/-- The books of a file. What is no payload of a book is left out, which is told. -/
def loadBooks (code : Text.HalfCode) (d : Disk) (p : Path) : Report (List Record) :=
  (d.loadValue code p (.list []) (some .list)).bind fun v =>
    ⟨malformed (itemsOf v), .ok (booksOf (itemsOf v))⟩

/-- A line that is to be printed, and a fault when half of a surrogate pair stands in it. -/
def printed (code : Text.HalfCode) (s : String) : Except Fault String :=
  match code.errorIn? s.toList with
  | some e => .error (.unencodable e)
  | none => .ok s

/-- The line of a shelf: its name and the number of its books. -/
def line (code : Text.HalfCode) (books : List Record) (s : Shelf) : Except Fault String :=
  (match s.filter with
    | some g => g.count books
    | none => .ok 0).bind fun n => printed code s!"{s.name.plain}: {n}"

/-- A run that prints the lines of shelves, up to the first fault. -/
def printLines (code : Text.HalfCode) (books : List Record) : List Shelf → Outcome
  | [] => ⟨[], [], .ok 0⟩
  | s :: rest =>
    match line code books s with
    | .ok first => ⟨[], first :: (printLines code books rest).lines, (printLines code books rest).ending⟩
    | .error f => ⟨[], [], .error f⟩

/-- A run that fails, and tells why. -/
def failure (reason : String) : Outcome :=
  .silent ((Report.note .error .program reason).bind fun _ => .ok 1)

/-- The fault is one of the file of shelves, and not of the program. -/
def isOfShelves : Fault → Bool
  | .fileMissing _ => true
  | f => f.isRefusal

/-- A run that prints the number of matching books for every shelf. -/
def countShelves (code : Text.HalfCode) (d : Disk) (icon : String) (books shelves : Path) : Outcome :=
  match d.has? books with
  | .error e => .silent (.fail (.disk e))
  | .ok false => failure s!"Books file not found: {books.text}"
  | .ok true =>
    .after (Shelf.importFile code icon d shelves).attempt fun
      | .ok shelves => .after (loadBooks code d books) fun books => printLines code books shelves
      | .error f =>
        if isOfShelves f then failure s!"Could not load shelves: {f.message}" else .silent (.fail f)

/-- A run with arguments. The shelves are those of the export file when no file is named. -/
def run (code : Text.HalfCode) (d : Disk) (exportFile : Path) (icon : String) (args : List String) :
    Outcome :=
  match files? exportFile args with
  | none => ⟨[], [usage], .ok (usageCode args)⟩
  | some (books, shelves) => countShelves code d icon books shelves

/-! ## The console -/

/-- The logger of a run. It is not set up when the usage is printed. Its file, if there is one, is one that
can be opened. -/
def logger (level : Level) (logFile : Option Path) (exportFile : Path) (args : List String) : Logger :=
  if (files? exportFile args).isSome then Logger.fresh.setUp level logFile else Logger.fresh

/-- The records of notices in order; a clock tells the time of each. -/
def records (clock : Nat → TimeOfDay) (notices : List Notice) : List LogRecord :=
  notices.mapIdx fun i n => .ofNotice (clock i) n

/-- The logger after a run has given its notices. -/
def logged (l : Logger) (clock : Nat → TimeOfDay) (o : Outcome) : Logger :=
  l.run ((records clock o.notices).map .emit)

/-- What a run writes on the console: the records that its handler receives, and then the lines. -/
def shown (l : Logger) (clock : Nat → TimeOfDay) (o : Outcome) : String :=
  (logged l clock o).consoleText ++ o.text

theorem printLines_length {code : Text.HalfCode} {books : List Record} {shelves : List Shelf} {n : Nat}
    (h : (printLines code books shelves).ending = .ok n) :
    (printLines code books shelves).lines.length = shelves.length := by
  induction shelves with
  | nil => rfl
  | cons s rest ih =>
    rw [printLines] at h ⊢
    cases hline : line code books s with
    | error f => simp [hline] at h
    | ok first =>
      rw [hline] at h
      exact congrArg (· + 1) (ih h)

end CommandLine

end ShelfRules
