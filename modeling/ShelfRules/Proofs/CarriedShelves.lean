import ShelfRules.Proofs.FilterLetters
import ShelfRules.Proofs.SavedShelves
import ShelfRules.Proofs.StoredShelves
import ShelfRules.Shelf.Portable

/-!
# Carried shelves

Shelves that are carried out to a file and in again come back in order: those without a filter are left
out on the way out, those with a blank name on the way in, and no shelf stands in the way of another
one. What comes back has no number and a stripped name, and otherwise the attributes and the filter that
it had, so that it comes back as it is when it is carried a second time. All this holds as long as no
half of a surrogate pair stands in what is carried; a file cannot hold it, and the export ends with a
fault then.

Results:
* `Shelf.portableDocument_isDocument`: the document of portable shelves is one of JSON.
* `Shelf.portableDocument_holdsHalf`: which shelves cannot be written.
* `Shelf.entryKept_portable`: what comes back of one shelf.
* `Shelf.ofPortableEntries_portableOf`: what comes back of a list of shelves.
* `Shelf.carried_again`: shelves that are carried once and twice.
-/

namespace ShelfRules

namespace Shelf

/-- The attributes of the shelf are of the kinds that are carried as they are, and its filter, if it has
one, is canonical. -/
structure IsPortable (s : Shelf) : Prop where
  name : ∃ t, s.name = .text t
  icon : ∃ t, s.icon = .text t ∧ t ≠ ""
  iconType : s.iconType = .null ∨ ∃ t, s.iconType = .text t
  isPublic : ∃ b, s.isPublic = .bool b
  filter : ∀ g, s.filter = some g → g.IsCanonical

/-- The shelf has a filter, and a name that is not blank. -/
def isCarried (s : Shelf) : Bool :=
  match s.name with
  | .text name => s.filter.isSome && !isBlankName name
  | _ => false

/-- Half of a surrogate pair stands in what is carried of the shelf. -/
def holdsHalf (code : Text.HalfCode) (s : Shelf) : Bool :=
  s.filter.any fun g => (s.portable g).holdsHalf code

/-- The shelf as it is carried: without a number, and with a stripped name. -/
def carried (s : Shelf) : Shelf where
  id := .null
  name := match s.name with
    | .text name => .text (Text.stripped name)
    | v => v
  icon := s.icon
  iconType := s.iconType
  isPublic := s.isPublic
  filter := s.filter

/-- The shelf comes back as it is. -/
structure IsSettled (s : Shelf) : Prop where
  portable : s.IsPortable
  kept : s.isCarried = true
  same : s.carried = s

variable {code : Text.HalfCode} {s : Shelf} {shelves : List Shelf} {g : Group}

/-! ## The document -/

/-- The entries of the portable form of a shelf. -/
def portableEntries (s : Shelf) (g : Group) : Entries := [
  ("name", s.name),
  ("icon", s.icon),
  ("icon_type", s.iconType),
  ("is_public", s.isPublic),
  ("filter", g.document)]

theorem portable_isDocument (hs : s.IsPortable) (hg : s.filter = some g) :
    (s.portable g).isDocument = true := by
  have hattributes : s.name.isDocument = true ∧ s.icon.isDocument = true ∧
      s.iconType.isDocument = true ∧ s.isPublic.isDocument = true := by
    obtain ⟨name, hname⟩ := hs.name
    obtain ⟨icon, hicon, -⟩ := hs.icon
    obtain ⟨b, hb⟩ := hs.isPublic
    rw [hname, hicon, hb]
    rcases hs.iconType with htype | ⟨t, htype⟩ <;> rw [htype] <;> exact ⟨rfl, rfl, rfl, rfl⟩
  have hfilter := (hs.filter g hg).isDocument
  simp only [Value.isDocument, Bool.and_eq_true, Bool.not_eq_true'] at hattributes hfilter
  simp [portable, Value.isDocument, Value.isJson, Value.entriesAreJson, Value.holdsLongInteger,
    Value.anyEntryHoldsLongInteger, hattributes, hfilter]

theorem portableOf_cons : portableOf (s :: shelves) =
    (s.filter.map s.portable).toList ++ portableOf shelves := by
  unfold portableOf
  cases h : s.filter <;> simp [h]

theorem portableOf_areDocuments (hs : ∀ s ∈ shelves, s.IsPortable) :
    ∀ v ∈ portableOf shelves, v.isDocument = true := by
  induction shelves with
  | nil => exact List.forall_mem_nil _
  | cons s rest ih =>
    obtain ⟨hs, hrest⟩ := List.forall_mem_cons.1 hs
    rw [portableOf_cons, List.forall_mem_append]
    refine ⟨fun v hv => ?_, ih hrest⟩
    cases hg : s.filter with
    | none => simp [hg] at hv
    | some g =>
      rw [hg] at hv
      obtain rfl := List.mem_singleton.1 hv
      exact portable_isDocument hs hg

/-- The document of portable shelves is one of JSON, as long as their number is not too long to be
written. -/
theorem portableDocument_isDocument (hs : ∀ s ∈ shelves, s.IsPortable)
    (hsize : shelves.length < 10 ^ maxIntegerDigits) :
    (portableDocument shelves).isDocument = true := by
  have hcount : isLongInteger ((portableOf shelves).length : Int) = false := by
    refine Json.isLongInteger_eq_false ?_
    rw [Int.natAbs_natCast, portableOf_length]
    exact Nat.lt_of_le_of_lt List.countP_le_length hsize
  have hitems := Value.isDocument_list.2 (portableOf_areDocuments hs)
  simp only [Value.isDocument, Value.isJson, Value.holdsLongInteger, Bool.and_eq_true,
    Bool.not_eq_true'] at hitems
  simp [portableDocument, Value.isDocument, Value.isJson, Value.entriesAreJson,
    Value.holdsLongInteger, Value.anyEntryHoldsLongInteger, hitems, hcount]

/-- Half of a surrogate pair stands in the portable form of a shelf when it does in an attribute or in the
filter. -/
theorem portable_holdsHalf : (s.portable g).holdsHalf code =
    (s.name.holdsHalf code || (s.icon.holdsHalf code || (s.iconType.holdsHalf code ||
      (s.isPublic.holdsHalf code || g.document.holdsHalf code)))) := by
  have hkeys : ∀ k ∈ ["name", "icon", "icon_type", "is_public", "filter"],
      k.toList.any code.stands = false := by
    have hall : ∀ k ∈ ["name", "icon", "icon_type", "is_public", "filter"],
        k.toList.all Json.isFrame = true := by decide
    exact fun k hk => Json.any_of_isFrame Json.stands_of_isFrame (hall k hk)
  simp only [List.mem_cons, List.not_mem_nil, or_false, forall_eq_or_imp, forall_eq] at hkeys
  simp only [portable, Value.holdsHalf, Value.hasLetter, Value.entryHasLetter, hkeys, Bool.false_or,
    Bool.or_false]

theorem portableOf_holdsHalf : Value.anyHasLetter code.stands (portableOf shelves) =
    shelves.any (·.holdsHalf code) := by
  induction shelves with
  | nil => rfl
  | cons s rest ih =>
    rw [portableOf_cons, List.any_cons, ← ih, holdsHalf]
    cases s.filter with
    | none => rfl
    | some g => rfl

/-- The document of shelves holds half of a surrogate pair when one of them does. -/
theorem portableDocument_holdsHalf :
    (portableDocument shelves).holdsHalf code = shelves.any (·.holdsHalf code) := by
  have hwords : ∀ k ∈ ["version", portableVersion, "count", "magic_shelves"],
      k.toList.any code.stands = false := by
    have hall : ∀ k ∈ ["version", portableVersion, "count", "magic_shelves"],
        k.toList.all Json.isFrame = true := by decide
    exact fun k hk => Json.any_of_isFrame Json.stands_of_isFrame (hall k hk)
  simp only [List.mem_cons, List.not_mem_nil, or_false, forall_eq_or_imp, forall_eq] at hwords
  simp only [portableDocument, Value.holdsHalf, Value.hasLetter, Value.entryHasLetter, hwords,
    portableOf_holdsHalf, Bool.false_or, Bool.or_false]

/-! ## What comes back -/

/-- What is read from the portable form of a shelf with a name. -/
theorem ofPortable_portable {name : String} (icon : String) (hname : s.name = .text name) :
    ofPortable icon (s.portable g) =
      if isBlankName name then .fail (.importing .entryNameless)
      else (Group.ofDocument g.document).bind fun g' => .ok {
        id := .null
        name := .text (Text.stripped name)
        icon := s.icon.orElse (.text icon)
        iconType := s.iconType
        isPublic := .bool s.isPublic.truthy
        filter := some g' } := by
  have hget : Entries.get (s.portableEntries g) "name" = .text name := hname
  show ofPortable icon (.object (s.portableEntries g)) = _
  rw [ofPortable, hget]
  rfl

/-- A shelf with a name comes back with a stripped one, without a number and with the filter that is read
from the document of its filter. -/
theorem result_ofPortable {name : String} {g' : Group} (icon : String) (hs : s.IsPortable)
    (hname : s.name = .text name) (hblank : isBlankName name = false)
    (hg' : Group.ofDocument g.document = .ok g') :
    (ofPortable icon (s.portable g)).result = .ok { s.carried with filter := some g' } := by
  have hicon : s.icon.orElse (.text icon) = s.icon := by
    obtain ⟨t, ht, hfull⟩ := hs.icon
    rw [ht, Value.orElse_text hfull]
  have hpublic : Value.bool s.isPublic.truthy = s.isPublic := by
    obtain ⟨b, hb⟩ := hs.isPublic
    rw [hb]
    rfl
  rw [ofPortable_portable icon hname, if_neg (Bool.eq_false_iff.1 hblank), hg', hicon, hpublic, carried,
    hname]
  rfl

theorem stripped_stripped (name : String) : Text.stripped (Text.stripped name) = Text.stripped name := by
  rw [Text.stripped, Text.stripped, String.toList_ofList, Text.strip_strip]

theorem isBlankName_stripped (name : String) : isBlankName (Text.stripped name) = isBlankName name := by
  rw [isBlankName, Text.stripped, String.toList_ofList, Text.strip_strip, isBlankName]

/-- A shelf with a stripped name comes back as it is. -/
theorem carried_isSettled {name : String} {g' : Group} (hs : s.IsPortable) (hname : s.name = .text name)
    (hblank : isBlankName name = false) (hg' : g'.IsCanonical) :
    IsSettled { s.carried with filter := some g' } := by
  have hcarried : s.carried.name = .text (Text.stripped name) := by rw [carried, hname]
  refine ⟨⟨⟨_, hcarried⟩, hs.icon, hs.iconType, hs.isPublic, ?_⟩, ?_, ?_⟩
  · rintro _ ⟨⟩
    exact hg'
  · simp [isCarried, hcarried, isBlankName_stripped, hblank]
  · simp [carried, hname, stripped_stripped]

/-- What comes back of one shelf with a filter: the shelf as it is carried, or nothing when its name is
blank. -/
theorem entryKept_portable (icon : String) (hs : s.IsPortable) (hg : s.filter = some g) :
    ∃ found : Option Shelf, (entryKept (ofPortable icon (s.portable g))).result = .ok found ∧
      List.Forall₂ Same found.toList (([s].filter isCarried).map carried) ∧
      ∀ t ∈ found, t.IsSettled := by
  obtain ⟨name, hname⟩ := hs.name
  cases hblank : isBlankName name with
  | true =>
    have hleft : s.isCarried = false := by simp [isCarried, hname, hblank]
    have hrefused : (ofPortable icon (s.portable g)).result = .error (.importing .entryNameless) := by
      rw [ofPortable_portable icon hname, if_pos hblank]
      rfl
    exact ⟨none, result_entryKept_refusal hrefused rfl, by simp [hleft], by simp⟩
  | false =>
    obtain ⟨g', hg', hsame, -, hcanonical⟩ := Group.ofDocument_document (hs.filter g hg)
    have hkept : s.isCarried = true := by simp [isCarried, hname, hblank, hg]
    refine ⟨_, result_entryKept_ok (result_ofPortable icon hs hname hblank hg'), ?_, ?_⟩
    · rw [List.filter_cons_of_pos hkept]
      refine .cons ⟨rfl, rfl, rfl, rfl, rfl, ?_⟩ .nil
      show Option.Rel _ (some g') s.filter
      rw [hg]
      exact .some hsame
    · rintro t ht
      obtain rfl := Option.some.inj ht
      exact carried_isSettled hs hname hblank hcanonical

/-- What comes back of a list of shelves. -/
theorem ofPortableEntries_portableOf (icon : String) (hs : ∀ s ∈ shelves, s.IsPortable) :
    ∃ found, (ofPortableEntries icon (portableOf shelves)).result = .ok found ∧
      List.Forall₂ Same found ((shelves.filter isCarried).map carried) ∧
      ∀ t ∈ found, t.IsSettled := by
  induction shelves with
  | nil => exact ⟨[], rfl, .nil, List.forall_mem_nil _⟩
  | cons s rest ih =>
    obtain ⟨hs, hrest⟩ := List.forall_mem_cons.1 hs
    obtain ⟨found, hread, hsame, hfound⟩ := ih hrest
    rw [portableOf_cons]
    cases hg : s.filter with
    | none =>
      have hleft : s.isCarried = false := by
        obtain ⟨name, hname⟩ := hs.name
        simp [isCarried, hname, hg]
      refine ⟨found, hread, ?_, hfound⟩
      rwa [List.filter_cons_of_neg (by simp [hleft])]
    | some g =>
      obtain ⟨kept, hkept, hsameKept, hfoundKept⟩ := entryKept_portable icon hs hg
      refine ⟨kept.toList ++ found, ?_, ?_, ?_⟩
      · show ((entryKept (ofPortable icon (s.portable g))).bind _).result = _
        rw [Report.bind_result, hkept, ok_bind, Report.bind_result]
        show Except.bind (ofPortableEntries icon (portableOf rest)).result _ = _
        rw [hread]
        rfl
      · have hsplit : ((s :: rest).filter isCarried).map carried =
            ([s].filter isCarried).map carried ++ (rest.filter isCarried).map carried := by
          rw [← List.map_append, ← List.filter_append, List.singleton_append]
        rw [hsplit]
        exact List.rel_append hsameKept hsame
      · rw [List.forall_mem_append]
        exact ⟨fun t ht => hfoundKept t (by simpa using ht), hfound⟩

/-- What comes back of a shelf holds no half of a surrogate pair when the shelf holds none. -/
theorem holdsHalf_of_same {t : Shelf} (hs : s.IsPortable) (ht : t.IsPortable) (hsame : t.Same s.carried)
    (hwhole : s.holdsHalf code = false) : t.holdsHalf code = false := by
  obtain ⟨name, hname⟩ := hs.name
  have hcarried : t.name = .text (Text.stripped name) := by rw [hsame.name, carried, hname]
  have hfilter : Option.Rel (fun g h : Group => g.toNode.same h.toNode = true) t.filter s.filter :=
    hsame.filter
  cases hg' : t.filter with
  | none => rw [holdsHalf, hg', Option.any_none]
  | some g' =>
    cases hg : s.filter with
    | none =>
      rw [hg', hg] at hfilter
      cases hfilter
    | some g =>
      rw [hg', hg] at hfilter
      cases hfilter with
      | some hfilter =>
        rw [holdsHalf, hg, Option.any_some, portable_holdsHalf, hname] at hwhole
        simp only [Bool.or_eq_false_iff] at hwhole
        obtain ⟨hn, hicon, htype, hpublic, hdocument⟩ := hwhole
        have hstripped : (Value.text (Text.stripped name)).holdsHalf code = false := by
          obtain ⟨before, after, hsplit, -⟩ := Text.exists_strip name.toList
          rw [Value.holdsHalf, Value.hasLetter, hsplit, List.any_append, List.any_append] at hn
          simp only [Bool.or_eq_false_iff] at hn
          rw [Value.holdsHalf, Value.hasLetter, Text.stripped, String.toList_ofList]
          exact hn.1.2
        have hletters : g'.document.holdsHalf code = g.document.holdsHalf code :=
          Group.hasLetter_document_congr Json.stands_of_isFrame (hs.filter g hg) (ht.filter g' hg') hfilter
        rw [holdsHalf, hg', Option.any_some, portable_holdsHalf, hcarried, hstripped, hsame.icon,
          hsame.iconType, hsame.isPublic, hletters]
        simp only [carried, hicon, htype, hpublic, hdocument, Bool.or_false]

/-! ## Files -/

/-- The first shelves are carried out, and the second ones in. -/
structure CarriedAs (code : Text.HalfCode) (icon : String) (shelves found : List Shelf) (text : String) :
    Prop where
  /-- The text for the first shelves. -/
  written : Json.written code (Json.pieces 0 (portableDocument shelves)) = (text.toList, none)
  /-- The text tells how many of them have a filter. -/
  count : ∃ entries : Entries, documentOf code (Text.Utf8.encode text) = .ok (.object entries) ∧
    entries.get "count" = .int (shelves.countP fun s => s.filter.isSome)
  /-- The second shelves are read from the bytes of the text. -/
  read : (importBytes code icon (Text.Utf8.encode text)).result = .ok found
  /-- They are read from the file that the first ones are carried to, unless the disk refuses it. -/
  file : ∀ (d : Disk) (p : Path), (∃ e, (exportFile code d p shelves).2.result = .error (.disk e)) ∨
    (exportFile code d p shelves).2.result = .ok () ∧
      (importFile code icon (exportFile code d p shelves).1 p).result = .ok found

/-- The file that shelves are carried to holds their text, unless the disk refuses it. -/
theorem read?_of_exportFile (d : Disk) (p : Path) {text : String}
    (htext : Json.written code (Json.pieces 0 (portableDocument shelves)) = (text.toList, none)) :
    (∃ e, (exportFile code d p shelves).2.result = .error (.disk e)) ∨
    (exportFile code d p shelves).2.result = .ok () ∧
      (exportFile code d p shelves).1.read? p = .ok (Text.Utf8.encode text) := by
  unfold exportFile
  simp only [htext, String.ofList_toList]
  cases d.ensureFolders? p.parent with
  | error e => exact .inl ⟨e, rfl⟩
  | ok d' =>
    dsimp only
    cases hwrite : d'.write? p (Text.Utf8.encode text) with
    | error e => exact .inl ⟨e, rfl⟩
    | ok d'' => exact .inr ⟨rfl, Disk.read?_of_write? hwrite⟩

/-- A file whose text cannot be written is refused, by the disk or for its text. -/
theorem exportFile_of_obstacle (d : Disk) (p : Path) {f : Fault}
    (hobstacle : (Json.written code (Json.pieces 0 (portableDocument shelves))).2 = some f) :
    (∃ e, (exportFile code d p shelves).2.result = .error (.disk e)) ∨
      (exportFile code d p shelves).2.result = .error f := by
  unfold exportFile
  cases d.ensureFolders? p.parent with
  | error e => exact .inl ⟨e, rfl⟩
  | ok d' =>
    simp only [hobstacle]
    cases d'.write? p (Text.Utf8.encode
      (String.ofList (Json.written code (Json.pieces 0 (portableDocument shelves))).1)) with
    | error e => exact .inl ⟨e, rfl⟩
    | ok d'' => exact .inr rfl

theorem importFile_of_read? {d : Disk} {p : Path} {bytes : List UInt8} (icon : String)
    (h : d.read? p = .ok bytes) : importFile code icon d p =
      (importBytes code icon bytes).bind fun shelves =>
        ⟨[importedNotice shelves.length p], .ok shelves⟩ := by
  rw [importFile, Disk.has?_of_read? h]
  dsimp only
  rw [h]

theorem result_importFile_of_read? {d : Disk} {p : Path} {bytes : List UInt8} (icon : String)
    (h : d.read? p = .ok bytes) :
    (importFile code icon d p).result = (importBytes code icon bytes).result := by
  rw [importFile_of_read? icon h, Report.bind_result]
  cases (importBytes code icon bytes).result <;> rfl

/-- Portable shelves without halves of surrogate pairs come back from the file that carries them. -/
theorem exists_carriedAs (icon : String) (hs : ∀ s ∈ shelves, s.IsPortable)
    (hsize : shelves.length < 10 ^ maxIntegerDigits) (hwhole : ∀ s ∈ shelves, s.holdsHalf code = false) :
    ∃ found text, CarriedAs code icon shelves found text ∧
      List.Forall₂ Same found ((shelves.filter isCarried).map carried) ∧
      ∀ t ∈ found, t.IsSettled := by
  have hdocument := portableDocument_isDocument hs hsize
  have hletters : (portableDocument shelves).holdsHalf code = false := by
    rw [portableDocument_holdsHalf, List.any_eq_false]
    exact fun s hmem => Bool.eq_false_iff.1 (hwhole s hmem)
  have htext := Json.written_pieces hdocument hletters
  rw [← String.toList_ofList (l := Json.indented 0 (portableDocument shelves))] at htext
  have hread : documentOf code (Text.Utf8.encode (String.ofList
      (Json.indented 0 (portableDocument shelves)))) = .ok (portableDocument shelves) :=
    documentOf_indented hdocument
  obtain ⟨found, hfound, hsame, hagain⟩ := ofPortableEntries_portableOf icon hs
  have hbytes : (importBytes code icon (Text.Utf8.encode
      (String.ofList (Json.indented 0 (portableDocument shelves))))).result = .ok found := by
    rw [importBytes, hread]
    exact hfound
  have hcount : (shelves.countP fun s => s.filter.isSome) = (portableOf shelves).length :=
    (portableOf_length shelves).symm
  refine ⟨found, _, ⟨htext, ⟨_, hread, by rw [hcount]; rfl⟩, hbytes, fun d p => ?_⟩, hsame, hagain⟩
  refine (read?_of_exportFile d p htext).imp_right fun ⟨hdone, hfile⟩ => ⟨hdone, ?_⟩
  rw [result_importFile_of_read? icon hfile, hbytes]

/-- Portable shelves that are carried to a file come back in order: those with a filter and a name that is
not blank, without numbers, with stripped names and the same attributes and filters. When what came
back is carried again, the same shelves come back. The file tells how many shelves have a filter, so the
number of shelves has to be an integer that can be written, as that of any list in memory is. If half of
a surrogate pair stands in what is carried of a shelf, the export ends with a fault instead. -/
theorem carried_again (code : Text.HalfCode) (icon : String) {shelves : List Shelf}
    (hs : ∀ s ∈ shelves, s.IsPortable) (hsize : shelves.length < 10 ^ maxIntegerDigits) :
    ((∀ s ∈ shelves, s.holdsHalf code = false) →
      ∃ found text, CarriedAs code icon shelves found text ∧
        List.Forall₂ Same found ((shelves.filter isCarried).map carried) ∧
        ∃ again text', CarriedAs code icon found again text' ∧ List.Forall₂ Same again found) ∧
    ((∃ s ∈ shelves, s.holdsHalf code = true) → ∀ (d : Disk) (p : Path),
      (∃ e, (exportFile code d p shelves).2.result = .error (.disk e)) ∨
        ∃ e, (exportFile code d p shelves).2.result = .error (.unencodable e)) := by
  constructor
  · intro hwhole
    obtain ⟨found, text, hcarried, hsame, hfound⟩ := exists_carriedAs icon hs hsize hwhole
    have hlength : found.length ≤ shelves.length := by
      rw [hsame.length_eq, List.length_map]
      exact List.length_filter_le _ _
    have hwhole' : ∀ t ∈ found, t.holdsHalf code = false := by
      intro t ht
      obtain ⟨_, hmem, hcame⟩ := forall₂_mem_right (List.Forall₂.flip hsame) ht
      obtain ⟨s, hkept, rfl⟩ := List.mem_map.1 hmem
      have hmem := (List.mem_filter.1 hkept).1
      exact holdsHalf_of_same (hs s hmem) (hfound t ht).portable hcame (hwhole s hmem)
    obtain ⟨again, text', hcarried', hsame', -⟩ := exists_carriedAs icon
      (fun t ht => (hfound t ht).portable) (Nat.lt_of_le_of_lt hlength hsize) hwhole'
    have hall : found.filter isCarried = found :=
      List.filter_eq_self.2 fun t ht => (hfound t ht).kept
    have hkept : (found.filter isCarried).map carried = found := by
      rw [hall, List.map_congr_left fun t ht => (hfound t ht).same, List.map_id']
    rw [hkept] at hsame'
    exact ⟨found, text, hcarried, hsame, again, text', hcarried', hsame'⟩
  · rintro ⟨s, hmem, hhalf⟩ d p
    have hletters : (portableDocument shelves).holdsHalf code = true := by
      rw [portableDocument_holdsHalf, List.any_eq_true]
      exact ⟨s, hmem, hhalf⟩
    obtain ⟨e, he⟩ := Json.written_pieces_half (portableDocument_isDocument hs hsize) hletters
    exact (exportFile_of_obstacle d p he).imp_right fun h => ⟨e, h⟩

/-- Three shelves: one with blanks around its name, one without a filter, and one with a blank name. -/
def threeShelves : List Shelf :=
  let shelf (name : String) (filter : Option Group) : Shelf :=
    ⟨.int 7, .text name, .text "pi pi-book", .null, .bool true, filter⟩
  [shelf " Short " (some .shortOrRecent), shelf "Broken" none, shelf " " (some .shortOrRecent)]

/-- The first of them comes back, twice. -/
theorem threeShelves_carried : (∀ s ∈ threeShelves, s.IsPortable) ∧
    threeShelves.length < 10 ^ maxIntegerDigits ∧
    (∀ s ∈ threeShelves, s.holdsHalf .standard = false) ∧
    ∃ found text, CarriedAs .standard defaultIcon threeShelves found text ∧
      found.map (fun s => (s.id, s.name)) = [(.null, .text "Short")] ∧
      ∃ again text', CarriedAs .standard defaultIcon found again text' ∧ again.length = 1 := by
  have hfilters : ∀ s ∈ threeShelves, ∀ g, s.filter = some g → g.IsCanonical := by
    simp [threeShelves, Group.shortOrRecent_isCanonical]
  have hs : ∀ s ∈ threeShelves, s.IsPortable := by
    intro s hmem
    have hfilter := hfilters s hmem
    simp only [threeShelves, List.mem_cons, List.not_mem_nil, or_false] at hmem
    rcases hmem with rfl | rfl | rfl <;>
      exact ⟨⟨_, rfl⟩, ⟨_, rfl, by decide⟩, .inl rfl, ⟨_, rfl⟩, hfilter⟩
  have hsize : threeShelves.length < 10 ^ maxIntegerDigits :=
    Nat.lt_of_lt_of_le (by decide : 3 < 10 ^ 1) (Nat.pow_le_pow_right (by decide) (by decide))
  have hwhole : ∀ s ∈ threeShelves, s.holdsHalf .standard = false := by decide +kernel
  obtain ⟨found, text, hcarried, hsame, again, text', hagain, hsame'⟩ :=
    (carried_again .standard defaultIcon hs hsize).1 hwhole
  have hone : (threeShelves.filter isCarried).map carried =
      [⟨.null, .text "Short", .text "pi pi-book", .null, .bool true, some .shortOrRecent⟩] := rfl
  rw [hone] at hsame
  refine ⟨hs, hsize, hwhole, found, text, hcarried, ?_, again, text', hagain, ?_⟩
  · cases hsame with
    | cons h hrest =>
      cases hrest
      rw [List.map_singleton, h.id, h.name]
  · rw [hsame'.length_eq, hsame.length_eq]
    rfl

/-- The first half of a surrogate pair. -/
def highHalf : Text.Half := ⟨0xD800, by decide⟩

/-- A shelf with a filter that has half of a surrogate pair for its name. -/
def halfShelf : Shelf :=
  ⟨.null, .text "A", .text "pi pi-book", .null, .bool false,
    some ⟨.text (String.singleton (Text.HalfCode.standard.char highHalf)), .all, []⟩⟩

/-- It is portable, and cannot be carried to a file. -/
theorem halfShelf_not_carried : halfShelf.IsPortable ∧
    (exportFile .standard .empty (Path.ofText "out.json") [halfShelf]).2.result =
      .error (.unencodable ⟨1, [highHalf]⟩) ∧
    ¬∃ found text, CarriedAs .standard defaultIcon [halfShelf] found text := by
  have hfilter : ∀ g, halfShelf.filter = some g → g.IsCanonical := by
    rintro _ ⟨⟩
    exact ⟨⟨_, rfl⟩, trivial⟩
  have hportable : halfShelf.IsPortable := ⟨⟨_, rfl⟩, ⟨_, rfl, by decide⟩, .inl rfl, ⟨_, rfl⟩, hfilter⟩
  have hexport : (exportFile .standard .empty (Path.ofText "out.json") [halfShelf]).2.result =
      .error (.unencodable ⟨1, [highHalf]⟩) := by
    have hfolders : Disk.empty.ensureFolders? (Path.ofText "out.json").parent = .ok .empty := by
      unfold Disk.ensureFolders?
      rfl
    have hwrite : ∀ bytes, Disk.empty.write? (Path.ofText "out.json") bytes =
        .ok (.put .empty ⟨false, ["out.json".toList]⟩ (.file bytes)) := fun _ => rfl
    have hobstacle : (Json.written .standard (Json.pieces 0 (portableDocument [halfShelf]))).2 =
        some (.unencodable ⟨1, [highHalf]⟩) := by decide +kernel
    unfold exportFile
    simp only [hfolders, hwrite, hobstacle]
  refine ⟨hportable, hexport, ?_⟩
  rintro ⟨found, text, hcarried⟩
  rcases hcarried.file .empty (Path.ofText "out.json") with ⟨e, he⟩ | ⟨hdone, -⟩
  · cases hexport.symm.trans he
  · cases hexport.symm.trans hdone

end Shelf

end ShelfRules
