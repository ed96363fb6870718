import ShelfRules.Disk
import ShelfRules.Json.Pieces
import ShelfRules.Notice
import ShelfRules.Text.Utf8

/-!
# Documents in files

A file that holds a value as JSON in UTF-8. A file that is missing, cannot be read, is no JSON or
holds a value of another kind is answered with a default, and told unless it is missing. A value that
cannot be written is told as well; what stands before the obstacle is in the file by then. A code tells
which characters stand for halves of surrogate pairs: they are read from escapes, and not written.

Results:
* `Disk.loadValue_of_read?`: what a file gives.
* `Disk.read?_of_writeValue`: the text of a saved value is in its file.
-/

namespace ShelfRules

/-- What the value of a document should be: the word for such values, and which they are. -/
structure RootKind where
  name : String
  holds : Value → Bool

namespace RootKind

/-- An object. -/
def object : RootKind := ⟨"dict", fun
  | .object _ => true
  | _ => false⟩

/-- A list. -/
def list : RootKind := ⟨"list", fun
  | .list _ => true
  | _ => false⟩

/-- A text. -/
def text : RootKind := ⟨"str", fun
  | .text _ => true
  | _ => false⟩

/-- An integer; a boolean counts as one. -/
def integer : RootKind := ⟨"int", fun
  | .int _ | .bool _ => true
  | _ => false⟩

end RootKind

/-- Why the bytes of a file are no document. -/
inductive DocumentError where
  | encoding (cause : Text.Utf8.Error)
  | json (cause : Json.Error)
deriving DecidableEq, Repr

/-- The value in the bytes of a file. Its line ends are made one before it is read. -/
def documentOf (code : Text.HalfCode) (bytes : List UInt8) : Except DocumentError Value :=
  match Text.Utf8.decode bytes with
  | .error e => .error (.encoding e)
  | .ok chars =>
    match Json.parseWith code.char (Text.unifyLines chars) with
    | .ok v => .ok v
    | .error e => .error (.json e)

namespace Disk

/-! ## Loading -/

/-- The default, with a warning that a file could not be loaded. -/
def loadFailure (p : Path) (fallback : Value) (reason : String) : Report Value :=
  (Report.note .warning .files s!"Failed to load JSON from {p.text}: {reason}").bind
    fun _ => .ok fallback

/-- The value of a file if it is of a kind, and the default with a warning otherwise. -/
def ofKind (p : Path) (fallback : Value) (kind : Option RootKind) (v : Value) : Report Value :=
  match kind with
  | none => .ok v
  | some kind =>
    if kind.holds v then .ok v
    else
      let message :=
        s!"Unexpected JSON root in {p.text}: expected {kind.name}, got {v.kind}"
      (Report.note .warning .files message).bind fun _ => .ok fallback

/-- The value of the file at a path. The default null stands for an object without entries. -/
def loadValue (d : Disk) (code : Text.HalfCode) (p : Path) (fallback : Value)
    (kind : Option RootKind) : Report Value :=
  let fallback := if fallback.isNull then .object [] else fallback
  match d.has? p with
  | .error e => .fail (.disk e)
  | .ok false => .ok fallback
  | .ok true =>
    match d.read? p with
    | .error e => loadFailure p fallback e.message
    | .ok bytes =>
      match documentOf code bytes with
      | .ok v => ofKind p fallback kind v
      | .error (.encoding e) => .fail (.encoding e)
      | .error (.json (.malformed cause place)) =>
        loadFailure p fallback (Json.malformedMessage cause place)
      | .error (.json (.integerTooLong digits)) => .fail (.integerTooLong (some digits))

theorem loadValue_of_read? {d : Disk} {code : Text.HalfCode} {p : Path} {bytes : List UInt8}
    (h : d.read? p = .ok bytes) (fallback : Value) (kind : Option RootKind) :
    d.loadValue code p fallback kind =
      let fallback := if fallback.isNull then .object [] else fallback
      match documentOf code bytes with
      | .ok v => ofKind p fallback kind v
      | .error (.encoding e) => .fail (.encoding e)
      | .error (.json (.malformed cause place)) =>
        loadFailure p fallback (Json.malformedMessage cause place)
      | .error (.json (.integerTooLong digits)) => .fail (.integerTooLong (some digits)) := by
  simp only [loadValue, has?_of_read? h, h]

/-! ## Saving -/

/-- A no, with a notice that a file could not be saved. -/
def saveFailure (p : Path) (f : Fault) : Report Bool :=
  (Report.note .error .files s!"Failed to save JSON to {p.text}: {f.message}").bind
    fun _ => .ok false

/-- What a refusal of the disk leads to: a path with a null character ends the operation. -/
def saveRefusal (p : Path) : DiskError → Report Bool
  | .nullCharacter => .fail (.disk .nullCharacter)
  | e => saveFailure p (.disk e)

/-- The disk with a file for a value that may have no text, and whether the whole is written. -/
def writeValue (d : Disk) (code : Text.HalfCode) (p : Path) (v : Value) : Disk × Report Bool :=
  let (text, obstacle) := Json.written code (Json.pieces 0 v)
  match d.write? p (Text.Utf8.encode (String.ofList text)) with
  | .error e => (d, saveRefusal p e)
  | .ok d =>
    match obstacle with
    | none => (d, .ok true)
    | some (.notEncodable kind) => (d, saveFailure p (.notEncodable kind))
    | some f => (d, .fail f)

/-- The disk after a value is saved at a path, and whether it is. With `parents` the folders on the
    way there are made. -/
def saveValue (d : Disk) (code : Text.HalfCode) (p : Path) (v : Value) (parents : Bool) :
    Disk × Report Bool :=
  if parents then
    match d.ensureFolders? p.parent with
    | .ok d => d.writeValue code p v
    | .error e => (d, saveRefusal p e)
  else d.writeValue code p v

theorem saveRefusal_ne_ok (p : Path) (e : DiskError) : (saveRefusal p e).result ≠ .ok true := by
  cases e <;> simp [saveRefusal, saveFailure, Report.bind, Report.note, Report.ok, Report.fail]

theorem read?_of_writeValue {d : Disk} {code : Text.HalfCode} {p : Path} {v : Value}
    (h : (d.writeValue code p v).2.result = .ok true) :
    ∃ text, Json.written code (Json.pieces 0 v) = (text, none) ∧
      (d.writeValue code p v).1.read? p = .ok (Text.Utf8.encode (String.ofList text)) := by
  unfold writeValue at h ⊢
  generalize Json.written code (Json.pieces 0 v) = result at h ⊢
  obtain ⟨text, obstacle⟩ := result
  dsimp only at h ⊢
  cases hw : d.write? p (Text.Utf8.encode (String.ofList text)) with
  | error e =>
    rw [hw] at h
    exact absurd h (saveRefusal_ne_ok p e)
  | ok d' =>
    rw [hw] at h
    dsimp only at h
    split at h
    · exact ⟨text, rfl, read?_of_write? hw⟩
    · cases h
    · cases h

end Disk

end ShelfRules
