import ShelfRules.Proofs.CarriedShelves
import ShelfRules.Proofs.WellFormedDocuments

/-!
# Imported entries

A file of shelves holds an object with a list of entries. An entry that is an object with a name and a
well-formed filter, or none, is a shelf. The import keeps the shelves of these entries in order, each made
from its entry alone, and warns once of each other entry. Other parts of the program may tell more, as of a
join that is unknown, but nothing in the name of the import.

Results:
* `Value.isOrdinary_of_isJson`: of a value of JSON the range of its integers decides whether it is ordinary.
* `Shelf.ofPortable_cases`: an entry is read when it is a shelf, and refused otherwise.
* `Shelf.isEntry_object_iff`: an entry has a name, and its filter is well-formed or missing.
* `Group.tellsOnly_ofDocument`: what reads a filter tells warnings of the filters alone.
* `Shelf.importFile_sifted`: what an import keeps and what it tells.
-/

namespace ShelfRules

/-! ## Integers of documents -/

namespace Value

mutual
/-- The integers in the value are inside of the range of doubles. -/
def isInRange : Value → Bool
  | .int n => (Double.ofInt? n).isSome
  | .list items => areInRange items
  | .tuple items => areInRange items
  | .object entries => entriesAreInRange entries
  | _ => true
/-- The integers in the values are inside of the range. -/
def areInRange : List Value → Bool
  | [] => true
  | v :: rest => v.isInRange && areInRange rest
/-- The integers in the values of the entries are inside of the range. -/
def entriesAreInRange : List (String × Value) → Bool
  | [] => true
  | (_, v) :: rest => v.isInRange && entriesAreInRange rest
end

theorem isInRange_list {items : List Value} :
    (Value.list items).isInRange = true ↔ ∀ v ∈ items, v.isInRange = true := by
  show areInRange items = true ↔ _
  induction items with
  | nil => simp [areInRange]
  | cons v rest ih => rw [areInRange, Bool.and_eq_true, ih, List.forall_mem_cons]

theorem isInRange_of_lookup {entries : Entries} {key : String} {v : Value}
    (h : entriesAreInRange entries = true) (hv : entries.lookup key = some v) :
    v.isInRange = true := by
  induction entries with
  | nil => cases hv
  | cons e rest ih =>
    obtain ⟨k, w⟩ := e
    obtain ⟨hw, hrest⟩ := Bool.and_eq_true_iff.1 h
    rw [List.lookup_cons] at hv
    cases hkey : key == k with
    | true =>
      rw [hkey] at hv
      exact Option.some.inj hv ▸ hw
    | false =>
      rw [hkey] at hv
      exact ih hrest hv

mutual
/-- The keys of an object of JSON differ, so that a value of JSON is ordinary when its integers are inside
of the range. -/
theorem isOrdinary_of_isJson : ∀ {v : Value}, v.isJson = true → v.isInRange = true →
    v.isOrdinary = true
  | .null, _, _ | .bool _, _, _ | .float _, _, _ | .text _, _, _ => rfl
  | .int _, _, h => h
  | .list _, hj, h => areOrdinary_of_areJson hj h
  | .object _, hj, h => entriesAreOrdinary_of_areJson hj h
theorem areOrdinary_of_areJson : ∀ {items : List Value}, areJson items = true →
    areInRange items = true → areOrdinary items = true
  | [], _, _ => rfl
  | v :: rest, hj, h => by
    obtain ⟨hvj, hrestj⟩ := Bool.and_eq_true_iff.1 hj
    obtain ⟨hv, hrest⟩ := Bool.and_eq_true_iff.1 h
    rw [areOrdinary, isOrdinary_of_isJson hvj hv, areOrdinary_of_areJson hrestj hrest]
    rfl
theorem entriesAreOrdinary_of_areJson : ∀ {entries : List (String × Value)},
    entriesAreJson entries = true → entriesAreInRange entries = true →
      entriesAreOrdinary entries = true
  | [], _, _ => rfl
  | (k, v) :: rest, hj, h => by
    simp only [entriesAreJson, Bool.and_eq_true] at hj
    obtain ⟨hv, hrest⟩ := Bool.and_eq_true_iff.1 h
    rw [entriesAreOrdinary, hj.1.1, isOrdinary_of_isJson hj.1.2 hv,
      entriesAreOrdinary_of_areJson hj.2 hrest]
    rfl
end

end Value

theorem documentOf_isDocument {code : Text.HalfCode} {bytes : List UInt8} {v : Value}
    (h : documentOf code bytes = .ok v) : v.isDocument = true := by
  unfold documentOf at h
  split at h
  · cases h
  · split at h
    · rename_i hparse
      cases h
      exact Json.parseWith_isDocument hparse
    · cases h

/-! ## Entries -/

namespace Shelf

/-- The document of the filter of an entry; an entry without one has that of the filter that asks
nothing. -/
def filterDocument (entries : Entries) : Value := (entries.lookup "filter").getD (.object [])

/-- The entry is a shelf: an object with a name that is not blank and a well-formed filter. -/
def IsEntry (v : Value) : Prop :=
  ∃ (entries : Entries) (name : String), v = .object entries ∧ entries.get "name" = .text name ∧
    isBlankName name = false ∧ Group.IsWellFormed (filterDocument entries)

/-- The entry is a shelf with a name, which is stripped, and a filter. -/
def IsEntryOf (v : Value) (name : String) (g : Group) : Prop :=
  ∃ (entries : Entries) (raw : String), v = .object entries ∧ entries.get "name" = .text raw ∧
    isBlankName raw = false ∧ name = Text.stripped raw ∧
    (Group.ofDocument (filterDocument entries)).result = .ok g

/-- The shelf of an entry, none when there is none. -/
def imported? (icon : String) (v : Value) : Option Shelf := (ofPortable icon v).result.toOption

theorem filterDocument_isOrdinary {entries : Entries} (ho : (Value.object entries).isOrdinary = true)
    (hd : (Value.object entries).isDocument = true) :
    (filterDocument entries).isOrdinary = true ∧ (filterDocument entries).isDocument = true := by
  have hordinary := Value.get_isOrdinary ho "filter"
  have hdocument := Value.get_isDocument hd "filter"
  rw [Entries.get] at hordinary hdocument
  rw [filterDocument]
  cases h : entries.lookup "filter" with
  | none => exact ⟨rfl, rfl⟩
  | some v =>
    rw [h] at hordinary hdocument
    exact ⟨hordinary, hdocument⟩

/-- An entry without a name is refused. -/
theorem ofPortable_nameless (icon : String) {v : Value}
    (h : ¬∃ (entries : Entries) (name : String), v = .object entries ∧
      entries.get "name" = .text name ∧ isBlankName name = false) :
    ∃ cause, ofPortable icon v = .fail (.importing cause) := by
  cases v with
  | object entries =>
    rw [ofPortable]
    split
    · rename_i name hname
      refine ⟨.entryNameless, if_pos ?_⟩
      by_contra hblank
      exact h ⟨entries, name, rfl, hname, Bool.eq_false_iff.2 hblank⟩
    · exact ⟨_, rfl⟩
  | _ => exact ⟨_, rfl⟩

/-- An entry whose integers are inside of the range is a shelf with the name and the filter that are read,
or it is refused and none. -/
theorem ofPortable_cases (icon : String) {v : Value} (ho : v.isOrdinary = true)
    (hd : v.isDocument = true) :
    (∃ s name g, (ofPortable icon v).result = .ok s ∧ IsEntryOf v name g ∧ s.name = .text name ∧
      s.filter = some g) ∨
    (∃ f, (ofPortable icon v).result = .error f ∧ f.isRefusal = true) ∧ ¬IsEntry v := by
  by_cases hnamed : ∃ (entries : Entries) (name : String), v = .object entries ∧
      entries.get "name" = .text name ∧ isBlankName name = false
  · obtain ⟨entries, name, rfl, hname, hblank⟩ := hnamed
    have hfilter : portableFilter entries = Group.ofDocument (filterDocument entries) := rfl
    rw [ofPortable, hname]
    dsimp only
    rw [if_neg (Bool.eq_false_iff.1 hblank), Report.bind_result, hfilter]
    obtain ⟨hordinary, hdocument⟩ := filterDocument_isOrdinary ho hd
    -- The numbers of the filter are in range, so that nothing but its form can stand in the way.
    have hread := Report.not_escapes_iff.1
      (mt Group.ofDocument_escapes_iff.1 (Group.not_oversized hordinary hdocument))
    rcases hread with ⟨g, hg⟩ | ⟨cause, hcause⟩
    · rw [hg]
      have hentry : IsEntryOf (.object entries) (Text.stripped name) g :=
        ⟨entries, name, rfl, hname, hblank, rfl, hg⟩
      exact .inl ⟨_, Text.stripped name, g, rfl, hentry, rfl, rfl⟩
    · rw [hcause]
      refine .inr ⟨⟨_, rfl, rfl⟩, ?_⟩
      rintro ⟨_, _, h, -, -, hwell⟩
      cases h
      obtain ⟨g, hg⟩ := Group.exists_of_wellFormed hwell hordinary hdocument
      cases hcause.symm.trans hg
  · obtain ⟨cause, hcause⟩ := ofPortable_nameless icon hnamed
    rw [hcause]
    refine .inr ⟨⟨_, rfl, rfl⟩, ?_⟩
    rintro ⟨entries, name, hv, hname, hblank, -⟩
    exact hnamed ⟨entries, name, hv, hname, hblank⟩

theorem IsEntryOf.isEntry {v : Value} {name : String} {g : Group} (h : IsEntryOf v name g) :
    IsEntry v := by
  obtain ⟨entries, raw, hv, hname, hblank, -, hg⟩ := h
  exact ⟨entries, raw, hv, hname, hblank, (Group.mirrors_of_read hg).isWellFormed⟩

section Reading

variable (icon : String) {v : Value} {entries : List Value}

/-- What is kept of an entry: its shelf, or nothing when it is refused. -/
theorem result_entryKept (ho : v.isOrdinary = true) (hd : v.isDocument = true) :
    (entryKept (ofPortable icon v)).result = .ok (imported? icon v) := by
  rcases ofPortable_cases icon ho hd with ⟨s, _, _, hs, -⟩ | ⟨⟨f, hf, hrefusal⟩, -⟩
  · rw [result_entryKept_ok hs, imported?, hs]
    rfl
  · rw [result_entryKept_refusal hf hrefusal, imported?, hf]
    rfl

theorem imported?_eq_none (ho : v.isOrdinary = true) (hd : v.isDocument = true) (h : ¬IsEntry v) :
    imported? icon v = none := by
  rcases ofPortable_cases icon ho hd with ⟨s, _, _, -, hentry, -⟩ | ⟨⟨f, hf, -⟩, -⟩
  · exact absurd hentry.isEntry h
  · rw [imported?, hf]
    rfl

/-- The shelves of entries whose integers are inside of the range are those of the entries that are
shelves. -/
theorem result_ofPortableEntries
    (h : ∀ v ∈ entries, v.isOrdinary = true ∧ v.isDocument = true) :
    (ofPortableEntries icon entries).result = .ok (entries.filterMap (imported? icon)) := by
  induction entries with
  | nil => rfl
  | cons v rest ih =>
    obtain ⟨⟨ho, hd⟩, hrest⟩ := List.forall_mem_cons.1 h
    rw [ofPortableEntries, Report.bind_result, result_entryKept icon ho hd, ok_bind, Report.bind_result,
      ih hrest, List.filterMap_cons]
    cases imported? icon v <;> rfl

end Reading

end Shelf

/-! ## Notices of the import -/

namespace Report

variable {α β : Type} {P : Notice → Prop} {channel : Channel} {r : Report α} {f : α → Report β}

/-- All notices of a report have a property. -/
def TellsOnly (P : Notice → Prop) (r : Report α) : Prop := ∀ n ∈ r.notices, P n

theorem TellsOnly.bind (hr : r.TellsOnly P) (hf : ∀ a, (f a).TellsOnly P) : (r.bind f).TellsOnly P := by
  unfold Report.bind
  split
  · exact List.forall_mem_append.2 ⟨hr, hf _⟩
  · exact hr

theorem tellsOnly_silent {a : Except Fault α} : (Report.mk [] a).TellsOnly P := List.forall_mem_nil _

/-- The notices that one part of the program gives, in order. -/
def toldOn (channel : Channel) (r : Report α) : List Notice :=
  r.notices.filter fun n => n.channel = channel

theorem toldOn_bind_of_ok {a : α} (h : r.result = .ok a) :
    (r.bind f).toldOn channel = r.toldOn channel ++ (f a).toldOn channel := by
  rw [bind, h]
  exact List.filter_append _ _

theorem toldOn_eq_nil (h : r.TellsOnly fun n => n.channel ≠ channel) : r.toldOn channel = [] := by
  refine List.filter_eq_nil_iff.2 fun n hn => ?_
  simpa using h n hn

end Report

/-- The notice is a warning of the filters. -/
def Notice.IsOfFilters (n : Notice) : Prop := n.severity = .warning ∧ n.channel = .filters

theorem Join.tellsOnly_ofValue (v : Value) : (ofValue v).TellsOnly Notice.IsOfFilters := by
  have hunknown : (unknown v).TellsOnly Notice.IsOfFilters := List.forall_mem_singleton.2 ⟨rfl, rfl⟩
  cases v with
  | null => exact Report.tellsOnly_silent
  | text s =>
    rw [ofValue]
    split
    · exact Report.tellsOnly_silent
    · exact hunknown
  | _ => exact hunknown

namespace Node

theorem tellsOnly_groupOf (entries : Entries) (children : List Node) :
    (groupOf entries children).TellsOnly Notice.IsOfFilters :=
  (Join.tellsOnly_ofValue _).bind fun _ => Report.tellsOnly_silent

mutual
/-- What reads a node tells warnings of the filters alone. -/
theorem tellsOnly_ofDocument : ∀ v : Value, (ofDocument v).TellsOnly Notice.IsOfFilters
  | .object entries => by
    rw [ofDocument]
    split
    · exact (tellsOnly_childrenOf entries).bind fun children =>
        (tellsOnly_groupOf entries children).bind fun _ => Report.tellsOnly_silent
    · exact Report.tellsOnly_silent.bind fun _ => Report.tellsOnly_silent
  | .null | .bool _ | .int _ | .float _ | .text _ | .list _ | .tuple _ | .date _ | .stamp _
  | .status _ => Report.tellsOnly_silent
theorem tellsOnly_childrenOf : ∀ entries : List (String × Value),
    (childrenOf entries).TellsOnly Notice.IsOfFilters
  | [] => Report.tellsOnly_silent
  | (key, v) :: rest => by
    rw [childrenOf]
    split
    · exact tellsOnly_ofList v
    · exact tellsOnly_childrenOf rest
theorem tellsOnly_ofList : ∀ v : Value, (ofList v).TellsOnly Notice.IsOfFilters
  | .list items => tellsOnly_ofItems items
  | .null | .bool _ | .int _ | .float _ | .text _ | .object _ | .tuple _ | .date _ | .stamp _
  | .status _ => Report.tellsOnly_silent
theorem tellsOnly_ofItems : ∀ items : List Value, (ofItems items).TellsOnly Notice.IsOfFilters
  | [] => Report.tellsOnly_silent
  | v :: rest => by
    rw [ofItems]
    exact (tellsOnly_ofDocument v).bind fun _ =>
      (tellsOnly_ofItems rest).bind fun _ => Report.tellsOnly_silent
end

end Node

theorem Group.tellsOnly_ofDocument (v : Value) : (ofDocument v).TellsOnly Notice.IsOfFilters := by
  cases v with
  | object entries =>
    exact (Node.tellsOnly_childrenOf entries).bind (Node.tellsOnly_groupOf entries)
  | _ => exact Report.tellsOnly_silent

namespace Shelf

variable (icon : String)

theorem tellsOnly_ofPortable (v : Value) : (ofPortable icon v).TellsOnly Notice.IsOfFilters := by
  cases v with
  | object entries =>
    rw [ofPortable]
    split
    · split
      · exact Report.tellsOnly_silent
      · exact (Group.tellsOnly_ofDocument _).bind fun _ => Report.tellsOnly_silent
    · exact Report.tellsOnly_silent
  | _ => exact Report.tellsOnly_silent

theorem tellsOnly_entryKept (v : Value) :
    (entryKept (ofPortable icon v)).TellsOnly fun n => n.severity = .warning := by
  have hread : (ofPortable icon v).attempt.TellsOnly fun n => n.severity = .warning :=
    fun n hn => (tellsOnly_ofPortable icon v n hn).1
  refine hread.bind fun r => ?_
  cases r with
  | ok s => exact Report.tellsOnly_silent
  | error f =>
    dsimp only
    split
    · exact Report.TellsOnly.bind (List.forall_mem_singleton.2 rfl) fun _ => Report.tellsOnly_silent
    · exact Report.tellsOnly_silent

/-- What reads the entries of a file tells warnings alone. -/
theorem tellsOnly_ofPortableEntries (entries : List Value) :
    (ofPortableEntries icon entries).TellsOnly fun n => n.severity = .warning := by
  induction entries with
  | nil => exact Report.tellsOnly_silent
  | cons v rest ih =>
    exact (tellsOnly_entryKept icon v).bind fun _ => ih.bind fun _ => Report.tellsOnly_silent

end Shelf

/-! ## Imports -/

/-- The file holds an object with a list of entries. In these the integers are inside of the range of
doubles. -/
def Disk.Carries (d : Disk) (code : Text.HalfCode) (p : Path) (entries : List Value) : Prop :=
  ∃ bytes, ∃ object : Entries, d.read? p = .ok bytes ∧ documentOf code bytes = .ok (.object object) ∧
    object.lookup "magic_shelves" = some (.list entries) ∧ ∀ v ∈ entries, v.isInRange = true

namespace Disk.Carries

variable {d : Disk} {code : Text.HalfCode} {p : Path} {entries : List Value}

/-- The entries are documents, and ordinary. -/
theorem ordinary (h : d.Carries code p entries) :
    ∀ v ∈ entries, v.isOrdinary = true ∧ v.isDocument = true := by
  obtain ⟨bytes, object, -, hdocument, hlookup, hrange⟩ := h
  have hget : object.get "magic_shelves" = .list entries := by rw [Entries.get, hlookup]; rfl
  have hentries : ∀ v ∈ entries, v.isDocument = true := Value.isDocument_list.1
    (hget ▸ Value.get_isDocument (documentOf_isDocument hdocument) _)
  intro v hv
  have hjson : v.isJson = true := (Bool.and_eq_true_iff.1 (hentries v hv)).1
  exact ⟨Value.isOrdinary_of_isJson hjson (hrange v hv), hentries v hv⟩

/-- An import reads the entries, and tells how many of them are shelves. -/
theorem importFile_eq (h : d.Carries code p entries) (icon : String) :
    Shelf.importFile code icon d p = (Shelf.ofPortableEntries icon entries).bind fun shelves =>
      ⟨[Shelf.importedNotice shelves.length p], .ok shelves⟩ := by
  obtain ⟨bytes, object, hread, hdocument, hlookup, -⟩ := h
  rw [Shelf.importFile_of_read? icon hread, Shelf.importBytes, hdocument]
  dsimp only
  rw [Shelf.ofPortableDocument, hlookup]

theorem result_importFile (h : d.Carries code p entries) (icon : String) :
    (Shelf.importFile code icon d p).result = .ok (entries.filterMap (Shelf.imported? icon)) := by
  rw [h.importFile_eq icon, Report.bind_result, Shelf.result_ofPortableEntries icon h.ordinary]
  rfl

theorem notices_importFile (h : d.Carries code p entries) (icon : String) :
    (Shelf.importFile code icon d p).notices = (Shelf.ofPortableEntries icon entries).notices ++
      [Shelf.importedNotice (entries.filterMap (Shelf.imported? icon)).length p] := by
  rw [h.importFile_eq icon, Report.bind, Shelf.result_ofPortableEntries icon h.ordinary]

end Disk.Carries

namespace Shelf

/-- The shelf is the one of the entry: it has the stripped name, the icon or else the given one, whether
it is public, and a filter that mirrors that of the entry. -/
def IsShelfOf (icon : String) (v : Value) (s : Shelf) : Prop :=
  ∃ (entries : Entries) (name : String) (g : Group), v = .object entries ∧
    entries.get "name" = .text name ∧ isBlankName name = false ∧
    Group.Mirrors (filterDocument entries) g ∧ s = {
      id := .null
      name := .text (Text.stripped name)
      icon := (entries.get "icon").orElse (.text icon)
      iconType := entries.get "icon_type"
      isPublic := .bool (entries.get "is_public").truthy
      filter := some g }

/-- The warning that an entry is skipped. -/
def skipping (f : Fault) : Notice :=
  ⟨.warning, .importing, s!"Skipping invalid shelf entry: {f.message}"⟩

/-- What comes of the entries, in order: a shelf of each entry that is one, and of each other entry the
warning that it is skipped, with what is told of it. -/
inductive Sifted (icon : String) : List Value → List Shelf → List Notice → Prop
  | nil : Sifted icon [] [] []
  | shelf {v : Value} {s : Shelf} {rest : List Value} {shelves : List Shelf} {told : List Notice} :
      IsEntry v → IsShelfOf icon v s → Sifted icon rest shelves told →
      Sifted icon (v :: rest) (s :: shelves) told
  | skipped {v : Value} {f : Fault} {rest : List Value} {shelves : List Shelf} {told : List Notice} :
      ¬IsEntry v → (ofPortable icon v).result = .error f → Sifted icon rest shelves told →
      Sifted icon (v :: rest) shelves (skipping f :: told)

section Sifting

variable {icon : String} {v : Value} {s : Shelf} {f : Fault} {entries : List Value}

/-- Each entry gives a shelf or a warning. -/
theorem Sifted.length_add {shelves : List Shelf} {told : List Notice} (h : Sifted icon entries shelves told) :
    shelves.length + told.length = entries.length := by
  induction h with
  | nil => rfl
  | shelf _ _ _ ih => simp only [List.length_cons]; omega
  | skipped _ _ _ ih => simp only [List.length_cons]; omega

/-- An object is a shelf when it has a name and its filter is well-formed, if there is one. -/
theorem isEntry_object_iff {entries : Entries} : IsEntry (.object entries) ↔
    (∃ name, entries.get "name" = .text name ∧ isBlankName name = false) ∧
      ∀ v, entries.lookup "filter" = some v → Group.IsWellFormed v := by
  have hfilter : Group.IsWellFormed (filterDocument entries) ↔
      ∀ v, entries.lookup "filter" = some v → Group.IsWellFormed v := by
    rw [filterDocument]
    cases entries.lookup "filter" with
    | none => simpa using ⟨[], [], rfl, rfl, List.forall_mem_nil _⟩
    | some v => simp
  rw [← hfilter]
  constructor
  · rintro ⟨_, name, hv, hname, hblank, hwell⟩
    cases hv
    exact ⟨⟨name, hname, hblank⟩, hwell⟩
  · rintro ⟨⟨name, hname, hblank⟩, hwell⟩
    exact ⟨entries, name, rfl, hname, hblank, hwell⟩

/-- What is read of an entry is its shelf. -/
theorem isShelfOf_of_read (h : (ofPortable icon v).result = .ok s) : IsShelfOf icon v s := by
  cases v with
  | object entries =>
    rw [ofPortable] at h
    split at h
    · rename_i name hname
      split at h
      · cases h
      · rename_i hblank
        obtain ⟨g, hg, h⟩ := Report.bind_eq_ok h
        exact ⟨entries, name, g, rfl, hname, Bool.eq_false_iff.2 hblank, Group.mirrors_of_read hg,
          (Except.ok.inj h).symm⟩
    · cases h
  | _ => cases h

theorem toldOn_ofPortable (icon : String) (v : Value) : (ofPortable icon v).toldOn .importing = [] := by
  refine Report.toldOn_eq_nil fun n hn => ?_
  have hfilters : n.channel = .filters := (tellsOnly_ofPortable icon v n hn).2
  simp [hfilters]

/-- Nothing is told in the name of the import about an entry that is read. -/
theorem toldOn_entryKept_ok (h : (ofPortable icon v).result = .ok s) :
    (entryKept (ofPortable icon v)).toldOn .importing = [] := by
  rw [entryKept, Report.toldOn_bind_of_ok rfl, h]
  exact (List.append_nil _).trans (toldOn_ofPortable icon v)

/-- An entry that is refused is told once. -/
theorem toldOn_entryKept_refusal (h : (ofPortable icon v).result = .error f)
    (hf : f.isRefusal = true) : (entryKept (ofPortable icon v)).toldOn .importing = [skipping f] := by
  have htold : (ofPortable icon v).attempt.toldOn .importing = [] := toldOn_ofPortable icon v
  rw [entryKept, Report.toldOn_bind_of_ok rfl, htold, h]
  simp only [hf, if_true]
  rfl

/-- Entries whose integers are inside of the range are sifted. -/
theorem sifted_ofPortableEntries (h : ∀ v ∈ entries, v.isOrdinary = true ∧ v.isDocument = true) :
    Sifted icon entries (entries.filterMap (imported? icon))
      ((ofPortableEntries icon entries).toldOn .importing) := by
  induction entries with
  | nil => exact .nil
  | cons v rest ih =>
    obtain ⟨⟨ho, hd⟩, hrest⟩ := List.forall_mem_cons.1 h
    have htold : (ofPortableEntries icon (v :: rest)).toldOn .importing =
        (entryKept (ofPortable icon v)).toldOn .importing ++
          (ofPortableEntries icon rest).toldOn .importing := by
      rw [ofPortableEntries, Report.toldOn_bind_of_ok (result_entryKept icon ho hd),
        Report.toldOn_bind_of_ok (result_ofPortableEntries icon hrest)]
      exact congrArg _ (List.append_nil _)
    rw [htold, List.filterMap_cons]
    rcases ofPortable_cases icon ho hd with ⟨s, _, _, hs, hentry, -⟩ | ⟨⟨f, hf, hrefusal⟩, hother⟩
    · have hsome : imported? icon v = some s := by rw [imported?, hs]; rfl
      rw [toldOn_entryKept_ok hs, hsome]
      exact .shelf hentry.isEntry (isShelfOf_of_read hs) (ih hrest)
    · rw [toldOn_entryKept_refusal hf hrefusal, imported?_eq_none icon ho hd hother]
      exact .skipped hother hf (ih hrest)

end Sifting

/-- An import of a file that carries a list of entries, in which the integers are inside of the range of
doubles, ends without a fault. What it gives is what is made of each entry alone, in order: a shelf of
each entry that is one. Of each other entry it gives none and warns once. It warns of nothing else, and
tells at the end how many shelves there are. -/
theorem importFile_sifted (code : Text.HalfCode) (icon : String) {d : Disk} {p : Path}
    {entries : List Value} (h : d.Carries code p entries) :
    (importFile code icon d p).result = .ok (entries.filterMap (imported? icon)) ∧
      ∃ told, Sifted icon entries (entries.filterMap (imported? icon)) told ∧
        (importFile code icon d p).toldOn .importing =
          told ++ [importedNotice (entries.filterMap (imported? icon)).length p] := by
  refine ⟨h.result_importFile icon, _, sifted_ofPortableEntries h.ordinary, ?_⟩
  rw [h.importFile_eq icon, Report.toldOn_bind_of_ok (result_ofPortableEntries icon h.ordinary)]
  rfl

/-- The disk with a file of shelves in the current folder. -/
def shelvesOnDisk (entries : List Value) : Disk :=
  let text := String.ofList (Json.indented 0 (.object [("magic_shelves", .list entries)]))
  ⟨[(⟨false, ["shelves.json".toList]⟩, .file (Text.Utf8.encode text))]⟩

theorem shelvesOnDisk_carries {entries : List Value}
    (hdocument : (Value.object [("magic_shelves", .list entries)]).isDocument = true)
    (hrange : ∀ v ∈ entries, v.isInRange = true) :
    (shelvesOnDisk entries).Carries .standard (Path.ofText "shelves.json") entries :=
  ⟨_, _, rfl, documentOf_indented hdocument, rfl, hrange⟩

/-- An entry with a name alone. -/
def bareEntry : Value := .object [("name", .text " Bare ")]

/-- An entry with null for its filter. -/
def voidEntry : Value := .object [("name", .text "Void"), ("filter", .null)]

/-- An entry whose filter has an unknown join. -/
def oddEntry : Value := .object [("name", .text "Odd"), ("is_public", .int 1),
  ("filter", .object [("join", .text "xor"), ("rules", .list [])])]

theorem bareEntry_isEntry : IsEntry bareEntry :=
  isEntry_object_iff.2 ⟨⟨" Bare ", rfl, by decide⟩, fun _ h => nomatch h⟩

theorem not_isEntry_voidEntry : ¬IsEntry voidEntry := fun h =>
  nomatch (isEntry_object_iff.1 h).2 .null rfl

/-- Two entries that are shelves, and two that are not. -/
def fourEntries : List Value := [bareEntry, .int 3, voidEntry, oddEntry]

/-- The bare and the odd entry are kept, and each of the others is told once in front of their number; that
a join is unknown is told by another part. -/
theorem bareEntry_sifted : IsEntry bareEntry ∧ ¬IsEntry voidEntry ∧
    ∃ bare odd, bare.name = .text "Bare" ∧ odd.name = .text "Odd" ∧ odd.isPublic = .bool true ∧
      (importFile .standard defaultIcon (shelvesOnDisk fourEntries) (Path.ofText "shelves.json")).result =
        .ok [bare, odd] ∧
      ∃ told, told.length = 2 ∧
        (importFile .standard defaultIcon (shelvesOnDisk fourEntries)
            (Path.ofText "shelves.json")).toldOn .importing =
          told ++ [importedNotice 2 (Path.ofText "shelves.json")] := by
  have hdocument : (Value.object [("magic_shelves", .list fourEntries)]).isDocument = true := by
    decide +kernel
  obtain ⟨hresult, told, hsifted, htold⟩ := importFile_sifted .standard defaultIcon
    (shelvesOnDisk_carries hdocument (by decide +kernel))
  obtain ⟨bare, odd, hshelves, hbare, hodd, hpublic⟩ : ∃ bare odd,
      fourEntries.filterMap (imported? defaultIcon) = [bare, odd] ∧ bare.name = .text "Bare" ∧
        odd.name = .text "Odd" ∧ odd.isPublic = .bool true := ⟨_, _, rfl, rfl, rfl, rfl⟩
  rw [hshelves] at hresult hsifted htold
  exact ⟨bareEntry_isEntry, not_isEntry_voidEntry, bare, odd, hbare, hodd, hpublic, hresult,
    told, Nat.add_left_cancel hsifted.length_add, htold⟩

end Shelf

end ShelfRules
