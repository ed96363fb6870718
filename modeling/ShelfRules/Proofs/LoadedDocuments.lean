import ShelfRules.Proofs.WrittenDocuments

/-!
# Loaded documents

A file is missing, or it holds bytes. Loading it answers with the value that stands in the file, when it is
of the kind that is asked for. In all other cases it should answer with the default, and tell one warning
when there is a file. It does so unless the bytes are not UTF-8, or an integer in their text has more digits
than are read: the loading ends with a fault then.

Results:
* `documentOf_eq_ok_iff`: the value of bytes is that of the text whose bytes they are.
* `isReadable_of_shortRuns`: a text without long runs of digits is JSON or malformed.
* `Disk.loadValue_fails`: bytes that cannot be read end the loading.
* `Disk.loadValue_answers_iff`: when loading answers for the state of a file.
-/

namespace ShelfRules

/-! ## Documents in bytes -/

/-- The bytes are those of a text that stands in JSON for the value, when its line ends are made one. An
escape for half of a surrogate pair is read as the character that stands for it in the code. -/
def IsDocumentOf (code : Text.HalfCode) (bytes : List UInt8) (v : Value) : Prop :=
  ∃ s : String, bytes = Text.Utf8.encode s ∧ Json.parseWith code.char (Text.unifyLines s.toList) = .ok v

/-- The bytes are those of a text in which no integer has more digits than are read, up to where it is
malformed. -/
def IsReadable (code : Text.HalfCode) (bytes : List UInt8) : Prop :=
  ∃ s : String, bytes = Text.Utf8.encode s ∧
    ∀ digits, Json.parseWith code.char (Text.unifyLines s.toList) ≠ .error (.integerTooLong digits)

variable {code : Text.HalfCode} {bytes : List UInt8} {v : Value}

theorem documentOf_encode (s : String) : documentOf code (Text.Utf8.encode s) =
    (Json.parseWith code.char (Text.unifyLines s.toList)).mapError .json := by
  rw [documentOf, Text.Utf8.decode_encode]
  dsimp only
  cases Json.parseWith code.char (Text.unifyLines s.toList) <;> rfl

theorem documentOf_eq_ok_iff : documentOf code bytes = .ok v ↔ IsDocumentOf code bytes v := by
  constructor
  · intro h
    cases hdecode : Text.Utf8.decode bytes with
    | error e =>
      rw [documentOf, hdecode] at h
      cases h
    | ok chars =>
      obtain rfl := Text.Utf8.decode_eq_ok_iff.1 hdecode
      refine ⟨_, rfl, ?_⟩
      rw [documentOf_encode] at h
      cases hparse : Json.parseWith code.char (Text.unifyLines (String.ofList chars).toList) with
      | ok w =>
        rw [hparse] at h
        cases h
        rfl
      | error e =>
        rw [hparse] at h
        cases h
  · rintro ⟨s, rfl, hparse⟩
    rw [documentOf_encode, hparse]
    rfl

/-- Bytes that are readable stand for a value, or for a malformed text. -/
theorem IsReadable.cases (h : IsReadable code bytes) :
    (∃ v, documentOf code bytes = .ok v) ∨
      ∃ cause place, documentOf code bytes = .error (.json (.malformed cause place)) := by
  obtain ⟨s, rfl, hshort⟩ := h
  rw [documentOf_encode]
  cases hparse : Json.parseWith code.char (Text.unifyLines s.toList) with
  | ok v => exact .inl ⟨v, rfl⟩
  | error e =>
    cases e with
    | malformed cause place => exact .inr ⟨cause, place, rfl⟩
    | integerTooLong digits => exact absurd hparse (hshort digits)

/-- Bytes that are not readable are not UTF-8, or there is an integer that is too long. -/
theorem not_isReadable_cases (h : ¬IsReadable code bytes) :
    (∃ e, documentOf code bytes = .error (.encoding e)) ∨
      ∃ digits, documentOf code bytes = .error (.json (.integerTooLong digits)) := by
  cases hdecode : Text.Utf8.decode bytes with
  | error e =>
    left
    rw [documentOf, hdecode]
    exact ⟨e, rfl⟩
  | ok chars =>
    obtain rfl := Text.Utf8.decode_eq_ok_iff.1 hdecode
    right
    by_contra hlong
    refine h ⟨_, rfl, fun digits hparse => hlong ⟨digits, ?_⟩⟩
    rw [documentOf_encode, hparse]
    rfl

/-- A text without a run of more digits than are read is readable. -/
theorem isReadable_of_shortRuns {s : String}
    (h : ∀ digits, ¬Json.HasLongRun (Text.unifyLines s.toList) digits) :
    IsReadable code (Text.Utf8.encode s) :=
  ⟨s, rfl, fun digits hparse => h digits (Json.parseWith_integerTooLong hparse)⟩

/-! ## Answers -/

/-- The value stands in the file, if there is one, and is of the kind that is asked for. -/
def HoldsValue (code : Text.HalfCode) (state : Option (List UInt8)) (kind : Option RootKind) (v : Value) : Prop :=
  ∃ bytes, state = some bytes ∧ IsDocumentOf code bytes v ∧ ∀ k, kind = some k → k.holds v = true

/-- The report answers for the state of a file: with the value in it and no notice, and with the default
when there is no such value; then it tells one warning if there is a file, and nothing if it is missing. -/
structure Answers (code : Text.HalfCode) (state : Option (List UInt8)) (kind : Option RootKind) (fallback : Value)
    (r : Report Value) : Prop where
  value : ∀ v, HoldsValue code state kind v → r = .ok v
  fallback : (∀ v, ¬HoldsValue code state kind v) → r.result = .ok fallback
  missing : state = none → r.notices = []
  told : (∀ v, ¬HoldsValue code state kind v) → state ≠ none →
    ∃ message, r.notices = [⟨.warning, .files, message⟩]

variable {state : Option (List UInt8)} {kind : Option RootKind} {fallback : Value}

theorem HoldsValue.unique {w : Value} (hv : HoldsValue code state kind v) (hw : HoldsValue code state kind w) :
    v = w := by
  obtain ⟨bytes, rfl, hv, -⟩ := hv
  obtain ⟨_, hbytes, hw, -⟩ := hw
  cases hbytes
  exact Except.ok.inj ((documentOf_eq_ok_iff.2 hv).symm.trans (documentOf_eq_ok_iff.2 hw))

theorem Answers.of_value (h : HoldsValue code state kind v) : Answers code state kind fallback (.ok v) where
  value w hw := by rw [h.unique hw]
  fallback hnone := absurd h (hnone v)
  missing _ := rfl
  told hnone := absurd h (hnone v)

/-- A warning with the default answers for a file without a value of the kind. -/
theorem Answers.of_warning {message : String} (h : ∀ v, ¬HoldsValue code (some bytes) kind v) :
    Answers code (some bytes) kind fallback
      ((Report.note .warning .files message).bind fun _ => .ok fallback) where
  value v hv := absurd hv (h v)
  fallback _ := rfl
  missing hnone := nomatch hnone
  told _ _ := ⟨message, rfl⟩

/-- A fault is no answer. -/
theorem Answers.not_fail (f : Fault) : ¬Answers code state kind fallback (.fail f) := fun h => by
  by_cases hsome : ∃ v, HoldsValue code state kind v
  · obtain ⟨v, hv⟩ := hsome
    exact nomatch h.value v hv
  · exact nomatch h.fallback (not_exists.1 hsome)

/-! ## Loading -/

namespace Disk

/-- The file at a path is missing, or it holds bytes. -/
inductive FileIs (d : Disk) (p : Path) : Option (List UInt8) → Prop
  | missing : d.has? p = .ok false → FileIs d p none
  | holds {bytes : List UInt8} : d.read? p = .ok bytes → FileIs d p (some bytes)

/-- The default that is answered with: an object without entries in the place of null. -/
def defaultOf (fallback : Value) : Value := if fallback.isNull then .object [] else fallback

variable {d : Disk} {p : Path}

theorem ofKind_answers (p : Path) (fallback : Value) (kind : Option RootKind)
    (h : documentOf code bytes = .ok v) : Answers code (some bytes) kind fallback (ofKind p fallback kind v) := by
  have hv := documentOf_eq_ok_iff.1 h
  cases kind with
  | none => exact .of_value ⟨bytes, rfl, hv, fun _ hk => nomatch hk⟩
  | some k =>
    rw [ofKind]
    by_cases hk : k.holds v = true
    · rw [if_pos hk]
      exact .of_value ⟨bytes, rfl, hv, fun _ hsame => Option.some.inj hsame ▸ hk⟩
    · rw [if_neg hk]
      refine .of_warning fun w hw => hk ?_
      obtain ⟨_, hbytes, hw, hkind⟩ := hw
      cases hbytes
      rw [Except.ok.inj (h.symm.trans (documentOf_eq_ok_iff.2 hw))]
      exact hkind k rfl

/-- Bytes that cannot be read end the loading with a fault. -/
theorem loadValue_fails (h : d.read? p = .ok bytes) (hunreadable : ¬IsReadable code bytes) (fallback : Value)
    (kind : Option RootKind) : ∃ f, d.loadValue code p fallback kind = .fail f := by
  rw [loadValue_of_read? h]
  rcases not_isReadable_cases hunreadable with ⟨e, he⟩ | ⟨digits, hdigits⟩
  · exact ⟨_, by rw [he]⟩
  · exact ⟨_, by rw [hdigits]⟩

theorem loadValue_answers (h : d.FileIs p state) (hread : ∀ bytes, state = some bytes → IsReadable code bytes)
    (fallback : Value) (kind : Option RootKind) :
    Answers code state kind (defaultOf fallback) (d.loadValue code p fallback kind) := by
  cases h with
  | missing hmissing =>
    have hload : d.loadValue code p fallback kind = .ok (defaultOf fallback) := by
      rw [loadValue, hmissing]
      rfl
    rw [hload]
    exact {
      value := fun v hv => by
        obtain ⟨_, hnone, -⟩ := hv
        cases hnone
      fallback := fun _ => rfl
      missing := fun _ => rfl
      told := fun _ hsome => absurd rfl hsome }
  | @holds bytes hbytes =>
    rw [loadValue_of_read? hbytes]
    rcases (hread bytes rfl).cases with ⟨v, hv⟩ | ⟨cause, place, hmalformed⟩
    · rw [hv]
      exact ofKind_answers p _ kind hv
    · rw [hmalformed]
      refine .of_warning fun v hv => ?_
      obtain ⟨_, hbytes, hv, -⟩ := hv
      cases hbytes
      cases hmalformed.symm.trans (documentOf_eq_ok_iff.2 hv)

/-- Whatever default and kind are asked for, loading answers for a file that is missing, and for one that
holds bytes exactly when they are the bytes of a text in which no integer is too long, up to where it is
malformed. -/
theorem loadValue_answers_iff (h : d.FileIs p state) (fallback : Value) (kind : Option RootKind) :
    Answers code state kind (defaultOf fallback) (d.loadValue code p fallback kind) ↔
      ∀ bytes, state = some bytes → IsReadable code bytes := by
  refine ⟨fun hanswers bytes hstate => ?_, fun hread => loadValue_answers h hread fallback kind⟩
  cases h with
  | missing => cases hstate
  | holds hbytes =>
    cases hstate
    by_contra hunreadable
    obtain ⟨f, hf⟩ := loadValue_fails hbytes hunreadable fallback kind
    exact Answers.not_fail f (hf ▸ hanswers)

/-- The disk with one file in the current folder. -/
def oneFile (bytes : List UInt8) : Disk := ⟨[(⟨false, ["in.json".toList]⟩, .file bytes)]⟩

/-- A list where an object is asked for is answered with an empty object and a warning. -/
theorem list_answered : Answers .standard (some (Text.Utf8.encode "[1984]")) (some .object) (.object [])
    ((oneFile (Text.Utf8.encode "[1984]")).loadValue .standard (Path.ofText "in.json") .null (some .object)) := by
  have hshort : ∀ digits, ¬Json.HasLongRun (Text.unifyLines "[1984]".toList) digits := by
    rintro digits ⟨hlong, run, hrun, -, rfl⟩
    exact absurd (Nat.lt_of_lt_of_le hlong hrun.length_le) (by decide)
  refine (loadValue_answers_iff (.holds rfl) .null (some .object)).2 fun bytes hbytes => ?_
  cases hbytes
  exact isReadable_of_shortRuns hshort

/-- A byte that starts no character is not answered, whatever is asked for. -/
theorem strayByte_unanswered : (oneFile [0xFF]).FileIs (Path.ofText "in.json") (some [0xFF]) ∧
    ¬Answers .standard (some [0xFF]) none (.object [])
      ((oneFile [0xFF]).loadValue .standard (Path.ofText "in.json") .null none) := by
  have hload : (oneFile [0xFF]).loadValue .standard (Path.ofText "in.json") .null none =
      .fail (.encoding ⟨.invalidStart, 0, [0xFF]⟩) := rfl
  exact ⟨.holds rfl, hload ▸ Answers.not_fail _⟩

end Disk

end ShelfRules
