import ShelfRules.Disk
import ShelfRules.Log.Logger
import ShelfRules.Text.Utf8

/-!
# Logging to files

The file of a logger is made when its handlers are attached, with the folders on the way there, and a
file that is there keeps what it holds. A session is a logger on a disk.
-/

namespace ShelfRules

/-- The disk with a file at a path, and the folders on the way there; a file that is there is left as
    it is. -/
def Disk.ensureFile? (d : Disk) (p : Path) : Except DiskError Disk :=
  (d.ensureFolders? p.parent).bind fun d =>
    match d.read? p with
    | .ok _ => .ok d
    | .error (.missing _) => d.write? p []
    | .error e => .error e

/-- The disk with bytes behind those of the file at a path. -/
def Disk.append? (d : Disk) (p : Path) (bytes : List UInt8) : Except DiskError Disk :=
  (d.read? p).bind fun old => d.write? p (old ++ bytes)

/-- A logger on a disk. -/
structure Session where
  disk : Disk
  logger : Logger

namespace Session

/-- The session with the logger set up. -/
def setUp? (s : Session) (level : Level) : Option Path → Except DiskError Session
  | none => .ok { s with logger := s.logger.setUp level none }
  | some p =>
    if s.logger.handlers = [] then
      (s.disk.ensureFile? p).map fun disk => ⟨disk, s.logger.setUp level (some p)⟩
    else .ok { s with logger := s.logger.setUp level (some p) }

/-- The session after a step. -/
def step? (s : Session) : Logger.Step → Except DiskError Session
  | .setUp level file => s.setUp? level file
  | .emit r => .ok { s with logger := s.logger.emit r }

/-- The disk with what the handlers have received in their files. -/
def written? (s : Session) : Except DiskError Disk :=
  s.logger.handlers.foldlM
    (fun d h =>
      match h.sink with
      | .console => .ok d
      | .file p => d.append? p (Text.Utf8.encode h.text))
    s.disk

end Session

end ShelfRules
