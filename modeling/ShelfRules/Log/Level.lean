import ShelfRules.Fault
import ShelfRules.Text.Character
import ShelfRules.Value

/-!
# Levels

How much a log record matters, as a number; some numbers have names. Settings give a level by its
name in any case, or by its number.
-/

namespace ShelfRules

/-- How much a record matters. -/
abbrev Level := Int

namespace Level

/-- Records for those who look for mistakes in the program. -/
def debug : Level := 10

/-- Records of what happens. -/
def info : Level := 20

/-- Records of what should not happen. -/
def warning : Level := 30

/-- The names of levels, and the levels they name. -/
def known : List (String × Level) := [
  ("CRITICAL", 50), ("ERROR", 40), ("WARNING", warning), ("INFO", info), ("DEBUG", debug),
  ("NOTSET", 0), ("FATAL", 50), ("WARN", warning)]

/-- The name of a level; a level without one is named by its number. -/
def name (level : Level) : String :=
  match known.find? fun entry => entry.2 == level with
  | some (name, _) => name
  | none => s!"Level {level}"

/-- The capital of a letter whose capital is one of `A ... Z`, and any other character. -/
def capital (c : Char) : Char :=
  if c = 'ı' then 'I' else if c = 'ſ' then 'S' else c.toUpper

/-- The level with a name, in any case and with blanks at its ends. -/
def ofName? (s : String) : Option Level :=
  known.lookup (String.ofList ((Text.strip s.toList).map capital))

/-- The level that a value of the settings gives: a number is one itself, and what counts as nothing
    or names no level gives another one. -/
def ofValue? (v : Value) (fallback : Level) : Except Fault Value :=
  match v with
  | .int n => .ok (.int n)
  | .bool b => .ok (.bool b)
  | .text s => .ok (.int ((ofName? s).getD fallback))
  | v => if v.truthy then .error (.notText v.kind) else .ok (.int fallback)

/-- The number of a level that is given as a value. -/
def ofNumber : Value → Level
  | .int n => n
  | .bool b => if b then 1 else 0
  | _ => info

end Level

end ShelfRules
