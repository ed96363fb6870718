import ShelfRules.Disk.Document
import ShelfRules.Shelf

/-!
# Settings

Where a program keeps its data, how much it logs and where, and the icon of shelves that choose none.
What the environment says counts before the settings file, and the file before what was given. Every
setting is a value; a path is kept by its text.

Results:
* `Settings.pathOf?_ofPath`: a path is read back from the value that keeps it.
-/

namespace ShelfRules

/-- The variables of the environment that count; blank ones do not. -/
structure Environment where
  home : Path
  dataDir : String
  logLevel : String
  logFile : String

/-- The settings of a program. -/
structure Settings where
  dataDir : Value
  /-- The settings file, null for the one in the folder for data. -/
  settingsFile : Value
  /-- The file of portable shelves, null for the one in the folder for data. -/
  exportFile : Value
  logLevel : Value
  logFile : Value
  icon : Value

namespace Settings

/-! ## Paths as values -/

/-- A path by its text. -/
def ofPath (p : Path) : Value := .text p.text

/-- The path that a value keeps, if it keeps one. -/
def pathOf? : Value → Option Path
  | .text s => some (Path.ofText s)
  | _ => none

theorem pathOf?_ofPath (p : Path) : pathOf? (ofPath p) = some p :=
  congrArg some p.ofText_text

/-- The path that a value keeps, where a path is needed. -/
def path? (v : Value) : Except Fault Path := Fault.ifNone (.notText v.kind) (pathOf? v)

/-- The file with a name in a folder, in place of null. -/
def fileIn (folder : Value) (name : List Char) (h : IsName name) : Value → Except Fault Value
  | .null =>
    match folder with
    | .text s => .ok (ofPath ((Path.ofText s).child name h))
    | v => .error (.notPath v.kind)
  | v => .ok v

/-- The path that a text of the environment gives, the home folder being expanded. -/
def expanded (env : Environment) (s : String) : Except Fault Path :=
  Fault.noHome.ifNone (Path.expandHome? env.home (Path.ofText s))

/-- The path that a value of the settings file gives, in place of another value when it counts as
    something. -/
def pathOr (other : Value) (v : Value) : Except Fault Value :=
  if v.truthy then
    match v with
    | .text s => .ok (ofPath (Path.ofText s))
    | v => .error (.notPath v.kind)
  else .ok other

/-! ## Loading -/

/-- The settings when nothing is given. -/
def defaults (home : Path) : Settings where
  dataDir := ofPath (home.child ".magicshelf".toList (by decide))
  settingsFile := .null
  exportFile := .null
  logLevel := .text "INFO"
  logFile := .null
  icon := .text Shelf.defaultIcon

/-- The settings with the files in the folder for data, which is that of the environment or the one
    given. -/
def placed (given : Settings) (env : Environment) : Except Fault Settings := do
  let dataDir ← if env.dataDir = "" then .ok given.dataDir
    else (expanded env env.dataDir).map ofPath
  let settingsFile ← fileIn dataDir "settings.json".toList (by decide) given.settingsFile
  let exportFile ← fileIn dataDir "magic_shelves.json".toList (by decide) given.exportFile
  return { given with dataDir, settingsFile, exportFile }

/-- The settings with what a settings file says. -/
def withEntries (s : Settings) (entries : Entries) : Except Fault Settings := do
  let exportFile ← pathOr s.exportFile (Entries.get entries "export_file")
  let logFile ← pathOr s.logFile (Entries.get entries "log_file")
  return { s with
    logLevel := (entries.lookup "log_level").getD s.logLevel
    icon := (entries.lookup "default_icon").getD s.icon
    exportFile
    logFile }

/-- The settings with what the settings file says, if it is there. -/
def withFile (s : Settings) (code : Text.HalfCode) (d : Disk) : Report Settings :=
  (Report.ofExcept (path? s.settingsFile)).bind fun p =>
    (d.loadValue code p (.object []) (some .object)).bind fun v =>
      match v with
      | .object entries => .ofExcept (s.withEntries entries)
      | _ => .ok s

/-- The settings with what the environment says of the log. -/
def withEnvironment (s : Settings) (env : Environment) : Except Fault Settings := do
  let logFile ← if env.logFile = "" then .ok s.logFile
    else (expanded env env.logFile).map ofPath
  return { s with
    logLevel := if env.logLevel = "" then s.logLevel else .text env.logLevel
    logFile }

/-- The settings of a program. -/
def load (code : Text.HalfCode) (d : Disk) (env : Environment) (given : Settings) : Report Settings :=
  (Report.ofExcept (given.placed env)).bind fun s =>
    (s.withFile code d).bind fun s => .ofExcept (s.withEnvironment env)

/-! ## Saving -/

/-- The text of a path, blank when there is none. -/
def pathText (v : Value) : Except Fault Value :=
  if v.truthy then v.text?.map .text else .ok (.text "")

/-- What is written to the settings file. -/
def document (s : Settings) : Except Fault Value := do
  let logFile ← pathText s.logFile
  let exportFile ← pathText s.exportFile
  return .object [
    ("log_level", s.logLevel),
    ("log_file", logFile),
    ("export_file", exportFile),
    ("default_icon", s.icon)]

/-- The document of the settings and the path of their file. -/
def target? (s : Settings) : Except Fault (Value × Path) := do
  let v ← s.document
  let p ← path? s.settingsFile
  return (v, p)

/-- The disk with the settings in their file, and whether they are saved. -/
def save (s : Settings) (code : Text.HalfCode) (d : Disk) : Disk × Report Bool :=
  match s.target? with
  | .error f => (d, .fail f)
  | .ok (v, p) =>
    let (d, saved) := d.saveValue code p v true
    (d, saved.bind fun done =>
      if done then .ok true
      else
        (Report.note .error .settings s!"Could not save settings to {p.text}").bind
          fun _ => .ok false)

end Settings

end ShelfRules
