import ShelfRules.Proofs.LoadedFilters
import ShelfRules.Proofs.WrittenDocuments
import ShelfRules.Settings

/-!
# Settings that are saved

The settings file holds a level, an icon and the texts of two paths; a blank text stands for no path. No
path has a blank text, and a path is read back from its text, so a program that starts with what another
one was given loads what the other one saved.

Results:
* `Disk.loadValue_of_saveValue`: a document that is saved is loaded.
* `Settings.pathText_ofPath`, `Settings.pathOr_ofPath`: a path is written and read.
* `Settings.withFile_places`: what the settings file says changes none of the places.
* `Settings.saved_loaded`: the settings that are saved are loaded.
-/

namespace ShelfRules

/-! ## Reports -/

namespace Report

variable {α β : Type}

theorem ofExcept_ok_bind (a : α) (f : α → Report β) : (ofExcept (.ok a)).bind f = f a := rfl

theorem bind_ofExcept_ok (r : Report α) : (r.bind fun a => ofExcept (.ok a)) = r := by
  obtain ⟨notices, result⟩ := r
  cases result with
  | ok a =>
    show Report.mk (notices ++ []) (.ok a) = _
    rw [List.append_nil]
  | error f => rfl

end Report

/-! ## Documents on a disk -/

namespace Disk

variable {code : Text.HalfCode} {d : Disk} {p : Path} {v : Value} {kind : RootKind}

theorem loadValue_of_writeValue (hv : v.isDocument = true) (hkind : kind.holds v = true)
    (h : (d.writeValue code p v).2.result = .ok true) (fallback : Value) :
    (d.writeValue code p v).1.loadValue code p fallback (some kind) = .ok v := by
  obtain ⟨text, htext, hread⟩ := read?_of_writeValue h
  have htext : text = Json.indented 0 v := Json.written_eq_indented hv htext
  subst htext
  rw [loadValue_of_read? hread, documentOf_indented hv]
  show ofKind p _ (some kind) v = .ok v
  rw [ofKind, if_pos hkind]

/-- A document that is saved is loaded, without a notice. -/
theorem loadValue_of_saveValue {parents : Bool} (hv : v.isDocument = true)
    (hkind : kind.holds v = true) (h : (d.saveValue code p v parents).2.result = .ok true)
    (fallback : Value) : (d.saveValue code p v parents).1.loadValue code p fallback (some kind) = .ok v := by
  unfold saveValue at h ⊢
  cases parents with
  | false => exact loadValue_of_writeValue hv hkind h fallback
  | true =>
    rw [if_pos rfl] at h ⊢
    cases hfolders : d.ensureFolders? p.parent with
    | ok d' =>
      rw [hfolders] at h
      exact loadValue_of_writeValue hv hkind h fallback
    | error e =>
      rw [hfolders] at h
      exact absurd h (saveRefusal_ne_ok p e)

/-- A document without halves is saved once its folder is there and its file can be written. -/
theorem saveValue_of_write? {d₁ d₂ : Disk} (hv : v.isDocument = true) (hwhole : v.holdsHalf code = false)
    (hfolders : d.ensureFolders? p.parent = .ok d₁)
    (hwrite : d₁.write? p (Text.Utf8.encode (String.ofList (Json.indented 0 v))) = .ok d₂) :
    d.saveValue code p v true = (d₂, .ok true) := by
  rw [saveValue, if_pos rfl, hfolders]
  show d₁.writeValue code p v = (d₂, .ok true)
  rw [writeValue, Json.written_pieces hv hwhole]
  dsimp only
  rw [hwrite]

end Disk

/-! ## Texts of paths -/

/-- No path has a blank text: the path of a blank text is that of the current folder. -/
theorem Path.text_ne_empty (p : Path) : p.text ≠ "" := by
  intro h
  have hp := p.ofText_text
  rw [h] at hp
  subst hp
  exact absurd h (by decide)

namespace Settings

theorem truthy_ofPath (p : Path) : (ofPath p).truthy = true := by
  simpa [ofPath, Value.truthy] using p.text_ne_empty

theorem pathText_ofPath (p : Path) : pathText (ofPath p) = .ok (ofPath p) := by
  rw [pathText, if_pos (truthy_ofPath p), ofPath, Value.text?_text]
  rfl

theorem pathOr_ofPath (other : Value) (p : Path) : pathOr other (ofPath p) = .ok (ofPath p) := by
  have htext : ofPath p = .text p.text := rfl
  have htruthy := truthy_ofPath p
  rw [htext] at htruthy ⊢
  rw [pathOr, if_pos htruthy, p.ofText_text]
  rfl

/-! ## Loading -/

variable {code : Text.HalfCode} {s t given built : Settings} {d : Disk} {env : Environment}

/-- The settings have their folder for data and their settings file at the same places. -/
def SamePlaces (s t : Settings) : Prop := s.dataDir = t.dataDir ∧ s.settingsFile = t.settingsFile

/-- What the settings file says changes none of the places. -/
theorem withFile_places (h : (s.withFile code d).result = .ok t) : SamePlaces t s := by
  obtain ⟨p, -, h⟩ := Report.bind_eq_ok h
  obtain ⟨v, -, h⟩ := Report.bind_eq_ok h
  split at h
  · rename_i entries
    obtain ⟨exportFile, -, h⟩ := except_bind_eq_ok h
    obtain ⟨logFile, -, h⟩ := except_bind_eq_ok h
    cases h
    exact ⟨rfl, rfl⟩
  · cases h
    exact ⟨rfl, rfl⟩

theorem withFile_of_loadValue {p : Path} {entries : Entries} (hp : path? s.settingsFile = .ok p)
    (h : d.loadValue code p (.object []) (some .object) = .ok (.object entries)) :
    s.withFile code d = .ofExcept (s.withEntries entries) := by
  rw [withFile, hp, Report.ofExcept_ok_bind, h]
  rfl

theorem placed_logFile (h : given.placed env = .ok s) : s.logFile = given.logFile := by
  have hfiles : ∀ dataDir, ((fileIn dataDir "settings.json".toList (by decide) given.settingsFile).bind
      fun settingsFile => (fileIn dataDir "magic_shelves.json".toList (by decide) given.exportFile).bind
        fun exportFile => .ok { given with dataDir, settingsFile, exportFile }) = .ok s →
      s.logFile = given.logFile := by
    intro dataDir h
    obtain ⟨settingsFile, -, h⟩ := except_bind_eq_ok h
    obtain ⟨exportFile, -, h⟩ := except_bind_eq_ok h
    cases h
    rfl
  unfold placed at h
  split at h
  all_goals
    obtain ⟨dataDir, -, h⟩ := except_bind_eq_ok h
    exact hfiles dataDir h

/-- An environment that says nothing of the log changes nothing. -/
theorem withEnvironment_blank (hlevel : env.logLevel = "") (hlog : env.logFile = "") (s : Settings) :
    s.withEnvironment env = .ok s := by
  simp only [withEnvironment, hlevel, hlog, if_true]
  rfl

theorem load_blank (hlevel : env.logLevel = "") (hlog : env.logFile = "") (d : Disk)
    (hplaced : given.placed env = .ok s) : load code d env given = s.withFile code d := by
  rw [load, hplaced, Report.ofExcept_ok_bind]
  simp only [withEnvironment_blank hlevel hlog]
  exact Report.bind_ofExcept_ok _

/-! ## Saving -/

/-- The value of a path that may be missing. -/
def optionalPath (p : Option Path) : Value := (p.map ofPath).getD .null

/-- The settings with a level, an icon and two files in place of their own. -/
def assigned (s : Settings) (level icon : String) (logFile : Option Path) (exportFile : Path) :
    Settings :=
  { s with
    logLevel := .text level
    icon := .text icon
    logFile := optionalPath logFile
    exportFile := ofPath exportFile }

/-- The entries of the settings file for a level, an icon and two files. -/
def written (level icon : String) (logFile : Option Path) (exportFile : Path) : Entries := [
  ("log_level", .text level),
  ("log_file", (logFile.map ofPath).getD (.text "")),
  ("export_file", ofPath exportFile),
  ("default_icon", .text icon)]

variable {level icon : String} {logFile : Option Path} {exportFile : Path}

theorem assigned_of_places (h : SamePlaces s t) :
    s.assigned level icon logFile exportFile = t.assigned level icon logFile exportFile := by
  obtain ⟨hdata, hfile⟩ := h
  simp only [assigned, hdata, hfile]

theorem document_assigned (s : Settings) : (s.assigned level icon logFile exportFile).document =
    .ok (.object (written level icon logFile exportFile)) := by
  have hlog : pathText (optionalPath logFile) = .ok ((logFile.map ofPath).getD (.text "")) := by
    cases logFile with
    | none => rfl
    | some p => exact pathText_ofPath p
  have hexport := pathText_ofPath exportFile
  simp only [document, assigned, hlog, hexport]
  rfl

theorem written_isDocument :
    (Value.object (written level icon logFile exportFile)).isDocument = true := by
  cases logFile <;> rfl

/-- Settings without a log file become the ones that were written. -/
theorem withEntries_written (h : s.logFile = .null) :
    s.withEntries (written level icon logFile exportFile) =
      .ok (s.assigned level icon logFile exportFile) := by
  have hexport : pathOr s.exportFile
      (Entries.get (written level icon logFile exportFile) "export_file") = .ok (ofPath exportFile) :=
    pathOr_ofPath s.exportFile exportFile
  have hlog : pathOr s.logFile (Entries.get (written level icon logFile exportFile) "log_file") =
      .ok (optionalPath logFile) := by
    rw [h]
    cases logFile with
    | none => rfl
    | some p => exact pathOr_ofPath .null p
  rw [withEntries, hexport, hlog]
  rfl

theorem target?_assigned (s : Settings) : (s.assigned level icon logFile exportFile).target? =
    (path? s.settingsFile).map fun p => (.object (written level icon logFile exportFile), p) := by
  rw [target?, document_assigned]
  show (path? s.settingsFile).bind _ = _
  cases path? s.settingsFile <;> rfl

/-- Settings are saved when their document is. -/
theorem save_of_saveValue {p : Path} {d' : Disk} (hp : path? s.settingsFile = .ok p)
    (h : d.saveValue code p (.object (written level icon logFile exportFile)) true = (d', .ok true)) :
    (s.assigned level icon logFile exportFile).save code d = (d', .ok true) := by
  rw [save, target?_assigned, hp]
  dsimp only [Except.map]
  rw [h]
  rfl

/-- The settings file of settings that are saved holds what was written. -/
theorem loadValue_of_save (h : ((s.assigned level icon logFile exportFile).save code d).2.result = .ok true) :
    ∃ p, path? s.settingsFile = .ok p ∧
      ((s.assigned level icon logFile exportFile).save code d).1.loadValue code p (.object []) (some .object) =
        .ok (.object (written level icon logFile exportFile)) := by
  unfold save at h ⊢
  rw [target?_assigned] at h ⊢
  cases hp : path? s.settingsFile with
  | error f =>
    rw [hp] at h
    cases h
  | ok p =>
    rw [hp] at h
    obtain ⟨done, hdone, hresult⟩ := Report.bind_eq_ok h
    have hdone : (d.saveValue code p (.object (written level icon logFile exportFile)) true).2.result =
        .ok done := hdone
    cases done with
    | true =>
      have hobject : RootKind.object.holds (.object (written level icon logFile exportFile)) = true := rfl
      exact ⟨p, rfl, Disk.loadValue_of_saveValue written_isDocument hobject hdone (.object [])⟩
    | false => cases hresult

/-- What was given for a program is given for another one, in an environment that says nothing of the log,
and no log file was given. Whatever the first program loaded, once any level, any icon, any log file or
none and any file of portable shelves are assigned to its settings and they are saved, the second one
loads these settings. -/
theorem saved_loaded {d d' : Disk} (hlevel : env.logLevel = "") (hlog : env.logFile = "")
    (hgiven : given.logFile = .null) (hbuilt : (load code d env given).result = .ok built)
    (level icon : String) (logFile : Option Path) (exportFile : Path)
    (hsaved : ((built.assigned level icon logFile exportFile).save code d').2.result = .ok true) :
    load code ((built.assigned level icon logFile exportFile).save code d').1 env given =
      .ok (built.assigned level icon logFile exportFile) := by
  obtain ⟨s, hplaced, -⟩ := Report.bind_eq_ok hbuilt
  have hplaced : given.placed env = .ok s := hplaced
  rw [load_blank hlevel hlog d hplaced] at hbuilt
  rw [assigned_of_places (withFile_places hbuilt)] at hsaved ⊢
  obtain ⟨p, hp, hload⟩ := loadValue_of_save hsaved
  have hlogFile : s.logFile = .null := by rw [placed_logFile hplaced, hgiven]
  rw [load_blank hlevel hlog _ hplaced, withFile_of_loadValue hp hload, withEntries_written hlogFile]
  rfl

/-- An environment that names the folder for data and nothing else. -/
def plainEnvironment : Environment := ⟨Path.ofText "/home/reader", "library", "", ""⟩

/-- The settings with their files in the folder `library`. -/
def librarySettings : Settings := ⟨.text "library", .text "library/settings.json",
  .text "library/magic_shelves.json", .text "INFO", .null, .text Shelf.defaultIcon⟩

/-- The entries of a settings file that names a log file. -/
def loggingEntries : Entries := [("log_file", .text "old.log")]

/-- A disk with a settings file that names a log file. -/
def loggingDisk : Disk := ⟨[(⟨false, ["library".toList]⟩, .folder),
  (⟨false, ["library".toList, "settings.json".toList]⟩,
    .file (Text.Utf8.encode (String.ofList (Json.indented 0 (.object loggingEntries)))))]⟩

/-- A blank level, a quoted icon, no log file and a file of portable shelves behind two slashes. -/
def unusual (s : Settings) : Settings := s.assigned "" "\"é\r" none (Path.ofText "//shelves/../all/")

theorem unusual_saved (s : Settings) (h : s.settingsFile = librarySettings.settingsFile) :
    (s.unusual.save .standard loggingDisk).2.result = .ok true := by
  have hfile : path? s.settingsFile = .ok (Path.ofText "library/settings.json") := by
    rw [h]
    rfl
  have hfolders : loggingDisk.ensureFolders? (Path.ofText "library/settings.json").parent =
      .ok loggingDisk := by
    unfold Disk.ensureFolders?
    rfl
  have hwrite : ∀ bytes, loggingDisk.write? (Path.ofText "library/settings.json") bytes =
      .ok (loggingDisk.put ⟨false, ["library".toList, "settings.json".toList]⟩ (.file bytes)) :=
    fun _ => rfl
  have hwhole : (Value.object (written "" "\"é\r" none (Path.ofText "//shelves/../all/"))).holdsHalf
      .standard = false := by decide +kernel
  rw [unusual,
    save_of_saveValue hfile (Disk.saveValue_of_write? written_isDocument hwhole hfolders (hwrite _))]
  rfl

/-- A log file that the settings file named is gone once none is assigned, and a blank level stays. -/
theorem unusual_loaded : ∃ built,
    (load .standard loggingDisk plainEnvironment (defaults plainEnvironment.home)).result = .ok built ∧
    built.logFile = .text "old.log" ∧ (built.unusual.save .standard loggingDisk).2.result = .ok true ∧
    load .standard (built.unusual.save .standard loggingDisk).1 plainEnvironment (defaults plainEnvironment.home) =
      .ok built.unusual := by
  have hfile : loggingDisk.loadValue .standard (Path.ofText "library/settings.json") (.object []) (some .object) =
      .ok (.object loggingEntries) := by
    rw [Disk.loadValue_of_read? rfl, documentOf_indented rfl]
    rfl
  have hplaced : (defaults plainEnvironment.home).placed plainEnvironment = .ok librarySettings := rfl
  have hbuilt : (load .standard loggingDisk plainEnvironment (defaults plainEnvironment.home)).result =
      .ok { librarySettings with logFile := .text "old.log" } := by
    rw [load_blank rfl rfl loggingDisk hplaced, withFile_of_loadValue rfl hfile]
    rfl
  have hsaved := unusual_saved { librarySettings with logFile := .text "old.log" } rfl
  exact ⟨_, hbuilt, rfl, hsaved, saved_loaded rfl rfl rfl hbuilt _ _ _ _ hsaved⟩

end Settings

end ShelfRules
