import ShelfRules.Fault
import ShelfRules.Path

/-!
# Disks

The folders and files that a program meets, and the operations on them with their refusals. A path
is followed from its root name by name; each name but the last has to be that of a folder, and `..`
leads back to the folder outside. Names and paths have a greatest length, and no null characters.

Results:
* `Disk.lookup?_put`: what is put on a disk is found there.
* `Disk.read?_of_write?`: what is written is read back.
* `Disk.place?_put`: a new file changes no path that leads somewhere.
-/

namespace ShelfRules

/-! ## Places -/

/-- The name of the folder outside. -/
def outside : List Char := ['.', '.']

/-- A place on a disk, under the top folder or under the current one. -/
structure Place where
  absolute : Bool
  names : List (List Char)
deriving DecidableEq, Repr

/-- What is at a place. -/
inductive Entry where
  | folder
  | file (bytes : List UInt8)
deriving DecidableEq, Repr

/-- The folders and files by their places. -/
structure Disk where
  entries : List (Place × Entry)
deriving Repr

namespace Disk

/-- The disk with nothing but the top folder and the current one. -/
def empty : Disk := ⟨[]⟩

/-- What is at a place; the top folder and the current one are always there. -/
def lookup? (d : Disk) (place : Place) : Option Entry :=
  if place.names = [] then some .folder else d.entries.lookup place

/-- The disk with something at a place. -/
def put (d : Disk) (place : Place) (entry : Entry) : Disk := ⟨(place, entry) :: d.entries⟩

theorem lookup?_put (d : Disk) (place : Place) (entry : Entry) (h : place.names ≠ []) :
    (d.put place entry).lookup? place = some entry := by
  simp [lookup?, put, h]

theorem lookup?_put_of_ne (d : Disk) {place other : Place} (entry : Entry) (h : other ≠ place) :
    (d.put place entry).lookup? other = d.lookup? other := by
  have : (other == place) = false := by simpa using h
  simp [lookup?, put, List.lookup_cons, this]

/-! ## Following a path -/

/-- The most bytes of a name. -/
def maxNameBytes : Nat := 255

/-- The most bytes of a path. -/
def maxPathBytes : Nat := 4095

/-- The name has more bytes than a name may have. -/
def isLongName (name : List Char) : Bool := maxNameBytes < (String.ofList name).utf8ByteSize

/-- Why a path leads nowhere. -/
inductive Dead where
  | missing
  | notFolder
  | tooLong
  | nullCharacter
deriving DecidableEq, Repr

/-- The refusal of a path that leads nowhere. -/
def Dead.error (p : Path) : Dead → DiskError
  | .missing => .missing p.text
  | .notFolder => .notFolder p.text
  | .tooLong => .nameTooLong p.text
  | .nullCharacter => .nullCharacter

/-- The names from the start on after one step further. -/
def step (here : List (List Char)) (name : List Char) : List (List Char) :=
  if name = outside then here.dropLast else here ++ [name]

/-- The place where names lead, starting in a folder. -/
def follow (d : Disk) (absolute : Bool) (here : List (List Char)) :
    List (List Char) → Except Dead Place
  | [] => .ok ⟨absolute, here⟩
  | [name] => if isLongName name then .error .tooLong else .ok ⟨absolute, step here name⟩
  | name :: rest =>
    if isLongName name then .error .tooLong
    else
      match d.lookup? ⟨absolute, step here name⟩ with
      | some .folder => d.follow absolute (step here name) rest
      | some (.file _) => .error .notFolder
      | none => .error .missing

/-- The place where a path leads. -/
def place? (d : Disk) (p : Path) : Except Dead Place :=
  if '\x00' ∈ p.chars then .error .nullCharacter
  else if maxPathBytes < p.text.utf8ByteSize then .error .tooLong
  else d.follow (p.root != .relative) [] p.names

/-- What is at a path. -/
def find? (d : Disk) (p : Path) : Except Dead Entry :=
  match d.place? p with
  | .error dead => .error dead
  | .ok place =>
    match d.lookup? place with
    | some entry => .ok entry
    | none => .error .missing

/-- There is something at a path. A path that is too long cannot be asked about. -/
def has? (d : Disk) (p : Path) : Except DiskError Bool :=
  match d.find? p with
  | .ok _ => .ok true
  | .error .tooLong => .error (.nameTooLong p.text)
  | .error _ => .ok false

/-- There is a folder at a path. -/
def hasFolder (d : Disk) (p : Path) : Bool :=
  match d.find? p with
  | .ok .folder => true
  | _ => false

/-! ## Files -/

/-- The bytes of the file at a path. -/
def read? (d : Disk) (p : Path) : Except DiskError (List UInt8) :=
  match d.find? p with
  | .ok (.file bytes) => .ok bytes
  | .ok .folder => .error (.isFolder p.text)
  | .error dead => .error (dead.error p)

/-- A path that is read leads somewhere. -/
theorem has?_of_read? {d : Disk} {p : Path} {bytes : List UInt8} (h : d.read? p = .ok bytes) :
    d.has? p = .ok true := by
  unfold read? at h
  unfold has?
  split at h
  · rename_i hfind
    rw [hfind]
  · cases h
  · cases h

/-- The disk with a file at a path, whose folder has to be there. -/
def write? (d : Disk) (p : Path) (bytes : List UInt8) : Except DiskError Disk :=
  match d.place? p with
  | .error dead => .error (dead.error p)
  | .ok place =>
    match d.lookup? place with
    | some .folder => .error (.isFolder p.text)
    | _ => .ok (d.put place (.file bytes))

/-- A file in the way of no folder changes no way that leads somewhere. -/
theorem follow_put {d : Disk} {place : Place} {bytes : List UInt8}
    (h : d.lookup? place ≠ some .folder) {absolute : Bool} {here names : List (List Char)}
    {found : Place} (hf : d.follow absolute here names = .ok found) :
    (d.put place (.file bytes)).follow absolute here names = .ok found := by
  induction names generalizing here with
  | nil => exact hf
  | cons name rest ih =>
    cases rest with
    | nil => exact hf
    | cons next rest =>
      unfold follow at hf ⊢
      cases hl : isLongName name with
      | true => simp [hl] at hf
      | false =>
        simp only [hl, Bool.false_eq_true, if_false] at hf ⊢
        cases he : d.lookup? ⟨absolute, step here name⟩ with
        | none => simp [he] at hf
        | some entry =>
          cases entry with
          | file _ => simp [he] at hf
          | folder =>
            have hne : (⟨absolute, step here name⟩ : Place) ≠ place := fun e => h (e ▸ he)
            rw [he] at hf
            rw [lookup?_put_of_ne d _ hne, he]
            exact ih hf

/-- A file in the way of no folder changes no path that leads somewhere. -/
theorem place?_put {d : Disk} {place : Place} {bytes : List UInt8}
    (h : d.lookup? place ≠ some .folder) {p : Path} {found : Place} (hf : d.place? p = .ok found) :
    (d.put place (.file bytes)).place? p = .ok found := by
  unfold place? at hf ⊢
  split at hf
  · cases hf
  · split at hf
    · cases hf
    · rename_i hn hl
      rw [if_neg hn, if_neg hl]
      exact follow_put h hf

theorem read?_of_write? {d d' : Disk} {p : Path} {bytes : List UInt8}
    (h : d.write? p bytes = .ok d') : d'.read? p = .ok bytes := by
  unfold write? at h
  split at h
  · cases h
  · rename_i place hp
    split at h
    · cases h
    · rename_i hn
      cases h
      have hnames : place.names ≠ [] := fun e => hn (by simp [lookup?, e])
      have hplace : (d.put place (.file bytes)).place? p = .ok place :=
        place?_put (fun e => hn e) hp
      unfold read? find?
      rw [hplace]
      simp only [lookup?_put d place _ hnames]

/-! ## Folders -/

/-- The disk with a new folder at a path, whose own folder has to be there. -/
def makeFolder? (d : Disk) (p : Path) : Except DiskError Disk :=
  match d.place? p with
  | .error dead => .error (dead.error p)
  | .ok place =>
    match d.lookup? place with
    | some _ => .error (.exists p.text)
    | none => .ok (d.put place .folder)

/-- The disk with a new folder at a path, or as it is when there is a folder. -/
def ensureFolder? (d : Disk) (p : Path) : Except DiskError Disk :=
  match d.makeFolder? p with
  | .ok d => .ok d
  | .error e => if d.hasFolder p then .ok d else .error e

/-- The disk with a folder at a path, and the folders on the way there. A missing folder is made
    before the path is tried again. -/
def ensureFolders? (d : Disk) (p : Path) : Except DiskError Disk :=
  match d.ensureFolder? p with
  | .ok d => .ok d
  | .error (.missing q) =>
    if p.names = [] then .error (.missing q)
    else (d.ensureFolders? p.parent).bind (·.ensureFolder? p)
  | .error e => .error e
termination_by p.names.length
decreasing_by exact p.length_parent (by assumption)

end Disk

end ShelfRules
