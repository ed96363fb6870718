import ShelfRules.Calendar.Written
import ShelfRules.Log.Level
import ShelfRules.Notice
import ShelfRules.Path

/-!
# The logger

A logger takes the records of its own channels that reach its level and gives them to its handlers;
each handler keeps those that reach a level of its own. The handlers are attached when the logger is
set up for the first time; setting it up again changes its level only. A logger without a level has
that of the root.

Results:
* `Logger.handlers_setUp`: the handlers are attached once.
-/

namespace ShelfRules

/-! ## Records -/

/-- Something told on a channel at a time. -/
structure LogRecord where
  time : TimeOfDay
  level : Level
  channel : String
  message : String
deriving DecidableEq, Repr

/-- The name of the channel that all others belong to. -/
def rootChannel : String := "root"

/-- A record on the channel with a name; the blank name is that of the root. -/
def LogRecord.on (name : String) (time : TimeOfDay) (level : Level) (message : String) : LogRecord :=
  ⟨time, level, if name = "" then rootChannel else name, message⟩

/-- The record of a notice that is given at a time. -/
def LogRecord.ofNotice (time : TimeOfDay) (n : Notice) : LogRecord :=
  ⟨time, n.severity.level, n.channel.name, n.message⟩

/-- The line of a record. -/
def LogRecord.line (r : LogRecord) : String :=
  s!"{String.ofList r.time.clockChars} [{r.level.name}] {r.channel}: {r.message}\n"

/-- The lines of records. -/
def LogRecord.lines (rs : List LogRecord) : String := String.join (rs.map line)

/-! ## Handlers -/

/-- Where a handler writes. -/
inductive Sink where
  | console
  | file (p : Path)
deriving DecidableEq, Repr

/-- Keeps the records that reach a level, in order. -/
structure Handler where
  sink : Sink
  level : Level
  received : List LogRecord
deriving DecidableEq, Repr

namespace Handler

/-- The handler after a record. -/
def receive (r : LogRecord) (h : Handler) : Handler :=
  if h.level ≤ r.level then { h with received := h.received ++ [r] } else h

/-- The text that the handler has written. -/
def text (h : Handler) : String := LogRecord.lines h.received

end Handler

/-! ## The logger -/

/-- A level, none when it is zero, and handlers. -/
structure Logger where
  level : Level
  handlers : List Handler
deriving DecidableEq, Repr

namespace Logger

/-- The name of the logger. -/
def channel : String := "magicshelf"

/-- The level of the root. -/
def rootLevel : Level := Level.warning

/-- The logger before it is set up. -/
def fresh : Logger := ⟨0, []⟩

/-- The logger takes the records of a channel: its own, and those below. -/
def owns (name : String) : Bool :=
  name == channel || (channel.toList ++ ['.']).isPrefixOf name.toList

/-- The level that the records of a channel have to reach. -/
def levelFor (l : Logger) (name : String) : Level :=
  if owns name ∧ l.level ≠ 0 then l.level else rootLevel

/-- A record is let through: its level is positive and reaches that of its channel. -/
def passes (l : Logger) (r : LogRecord) : Bool := 0 < r.level && l.levelFor r.channel ≤ r.level

/-- The logger after a record. -/
def emit (l : Logger) (r : LogRecord) : Logger :=
  if l.passes r && owns r.channel then { l with handlers := l.handlers.map (·.receive r) } else l

/-- The handlers that are attached: one for the console, and one for the file when there is one. -/
def handlersFor (level : Level) (file : Option Path) : List Handler :=
  ⟨.console, level, []⟩ ::
    match file with
    | some p => [⟨.file p, Level.debug, []⟩]
    | none => []

/-- The logger set up with a level and maybe a file. A file asks for the level of debugging. -/
def setUp (l : Logger) (level : Level) (file : Option Path) : Logger where
  level := if file.isSome then min level Level.debug else level
  handlers := if l.handlers = [] then handlersFor level file else l.handlers

theorem handlers_setUp {l : Logger} (h : l.handlers ≠ []) (level : Level) (file : Option Path) :
    (l.setUp level file).handlers = l.handlers := by
  simp [setUp, h]

/-- What the handlers of the console have written. -/
def consoleText (l : Logger) : String :=
  String.join ((l.handlers.filter (·.sink == .console)).map Handler.text)

/-! ## Runs -/

/-- A step of a program that logs. -/
inductive Step where
  | setUp (level : Level) (file : Option Path)
  | emit (r : LogRecord)

/-- The logger after a step. -/
def step (l : Logger) : Step → Logger
  | .setUp level file => l.setUp level file
  | .emit r => l.emit r

/-- The logger after steps. -/
def run (l : Logger) (steps : List Step) : Logger := steps.foldl step l

/-- The records let through at a step. -/
def told (l : Logger) : Step → List LogRecord
  | .setUp .. => []
  | .emit r => if l.passes r then [r] else []

end Logger

end ShelfRules
