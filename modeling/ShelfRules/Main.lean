import ShelfRules.CommandLine
import ShelfRules.Log.Logger
import ShelfRules.Settings
import Std.Time.Format

/-!
# The program

Reads the environment and the files that the settings and the arguments name, and prints what a run
gives. Notices go to the console and to the file that the settings name for them.
-/

namespace ShelfRules.Program

/-- What is at a path of the machine. Reading a folder is refused with the error number 21. -/
def probe (p : Path) : IO (Option Entry) := do
  try
    let bytes ← IO.FS.readBinFile p.text
    return some (.file bytes.toList)
  catch
    | .inappropriateType _ 21 _ => return some .folder
    | _ => return none

/-- The disk with what is at a path of the machine. -/
def withProbed (d : Disk) (p : Path) : IO Disk := do
  let found : Except DiskError Disk := match ← probe p with
    | some (.file bytes) => (d.ensureFolders? p.parent).bind fun d => d.write? p bytes
    | some .folder => d.ensureFolders? p
    | none => .ok d
  return found.toOption.getD d

/-- The environment of the program. -/
def environment : IO Environment := do
  let get (name : String) : IO String := do return (← IO.getEnv name).getD ""
  return {
    home := Path.ofText (← get "HOME")
    dataDir := ← get "MAGICSHELF_DATA_DIR"
    logLevel := ← get "MAGICSHELF_LOG_LEVEL"
    logFile := ← get "MAGICSHELF_LOG_FILE" }

/-- The settings of the program; what is told while they are loaded goes to the error output. -/
def settings : IO (Except Fault Settings) := do
  let env ← environment
  let given := Settings.defaults env.home
  let file := (given.placed env).toOption.bind fun s => Settings.pathOf? s.settingsFile
  let d ← match file with
    | some p => withProbed .empty p
    | none => pure .empty
  let report := Settings.load .standard d env given
  report.notices.forM fun n => IO.eprintln n.message
  return report.result

/-- Writes what a handler has received to its file; what is for the console is printed with the lines. -/
def writeLog (h : Handler) : IO Unit :=
  match h.sink with
  | .console => pure ()
  | .file p => do
    IO.FS.createDirAll p.parent.text
    IO.FS.withFile p.text .append fun file => file.putStr h.text

/-- The time on the clock of the machine. -/
def now : IO TimeOfDay := do
  let t ← Std.Time.PlainTime.now
  return .ofMicros (t.toNanoseconds.val / 1000).toNat

/-- A run of the program with settings. -/
def run (s : Settings) (args : List String) : IO UInt32 := do
  let exportFile := (Settings.pathOf? s.exportFile).getD (Path.ofText "")
  let icon := match s.icon with
    | .text icon => icon
    | _ => Shelf.defaultIcon
  match Level.ofValue? s.logLevel Level.info with
  | .error f => IO.eprintln f.message; return 1
  | .ok level =>
    let d ← match CommandLine.files? exportFile args with
      | some (books, shelves) => do withProbed (← withProbed .empty books) shelves
      | none => pure .empty
    let outcome := CommandLine.run .standard d exportFile icon args
    let time ← now
    let logger := CommandLine.logger (Level.ofNumber level) (Settings.pathOf? s.logFile) exportFile args
    (CommandLine.logged logger (fun _ => time) outcome).handlers.forM writeLog
    IO.print (CommandLine.shown logger (fun _ => time) outcome)
    match outcome.ending with
    | .ok code => return code.toUInt32
    | .error f => IO.eprintln f.message; return 1

end ShelfRules.Program

open ShelfRules in
/-- Counts the books on every shelf. -/
def main (args : List String) : IO UInt32 := do
  match ← Program.settings with
  | .ok s => Program.run s args
  | .error f => IO.eprintln f.message; return 1
