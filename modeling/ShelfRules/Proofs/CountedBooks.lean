import ShelfRules.CommandLine
import ShelfRules.Proofs.ImportedEntries
import ShelfRules.Proofs.LoggedRecords
import ShelfRules.Proofs.WrittenDocuments

/-!
# Books counted from files

A run on a file of books and a file of shelves prints one line for each entry of the second file that is
a shelf, in order: its stripped name, and the number of the books in the first file that satisfy its filter.
An item of the first file that is no object is no book, and an entry of the second one without a name or
without a well-formed filter is no shelf. They are passed over, so that files with more of them, wherever
they stand, lead to the same lines.

The log of the run goes to the same console, in front of the lines. What is passed over is told there in
warnings, so that the console as a whole does depend on it, unless its level is above that of warnings. A
name with half of a surrogate pair cannot be printed, and ends the run.

Results:
* `Padded.filterMap_eq`: more items that are passed over change nothing.
* `Logger.consoleText_run_setUp`: the records on the console of a logger.
* `CommandLine.printLines_tell`: what is printed for the entries of a file.
* `CommandLine.run_eq`: what a run depends on.
* `CommandLine.run_tells`: how a run ends, and what its end does not depend on.
* `CommandLine.clutter_shown`: what is passed over shows on the console.
-/

namespace ShelfRules

/-! ## Lists with more items -/

/-- The second list is the first one with more items of a kind, wherever they stand. -/
inductive Padded (P : Value → Prop) : List Value → List Value → Prop
  | nil : Padded P [] []
  | kept {vs ws : List Value} (v : Value) : Padded P vs ws → Padded P (v :: vs) (v :: ws)
  | added {vs ws : List Value} {v : Value} : P v → Padded P vs ws → Padded P vs (v :: ws)

namespace Padded

variable {P : Value → Prop} {vs ws : List Value}

/-- What passes over the items of the kind gives the same for both lists. -/
theorem filterMap_eq {α : Type} {f : Value → Option α} (h : Padded P vs ws)
    (hP : ∀ v ∈ ws, P v → f v = none) : ws.filterMap f = vs.filterMap f := by
  induction h with
  | nil => rfl
  | kept v _ ih =>
    rw [List.filterMap_cons, List.filterMap_cons, ih fun w hw => hP w (List.mem_cons_of_mem v hw)]
  | added hv _ ih =>
    rw [List.filterMap_cons, hP _ List.mem_cons_self hv]
    exact ih fun w hw => hP w (List.mem_cons_of_mem _ hw)

end Padded

/-! ## Files -/

/-- One file holds a list of items, and the other one an object with a list of entries, in which the
integers are inside of the range of doubles. -/
structure Disk.Holds (d : Disk) (code : Text.HalfCode) (books shelves : Path) (items entries : List Value) :
    Prop where
  books : ∃ bytes, d.read? books = .ok bytes ∧ documentOf code bytes = .ok (.list items)
  shelves : ∃ bytes, ∃ object : Entries, d.read? shelves = .ok bytes ∧
    documentOf code bytes = .ok (.object object) ∧
    object.lookup "magic_shelves" = some (.list entries) ∧ (Value.object object).isInRange = true

namespace Disk.Holds

variable {d : Disk} {code : Text.HalfCode} {books shelves : Path} {items entries : List Value}

theorem loadBooks_eq (h : d.Holds code books shelves items entries) :
    CommandLine.loadBooks code d books = ⟨CommandLine.malformed items, .ok (CommandLine.booksOf items)⟩ := by
  obtain ⟨bytes, hread, hdocument⟩ := h.books
  have hload : d.loadValue code books (.list []) (some .list) = .ok (.list items) := by
    rw [loadValue_of_read? hread, hdocument]
    rfl
  rw [CommandLine.loadBooks, hload]
  rfl

theorem carries (h : d.Holds code books shelves items entries) : d.Carries code shelves entries := by
  obtain ⟨bytes, object, hread, hdocument, hlookup, hrange⟩ := h.shelves
  exact ⟨bytes, object, hread, hdocument, hlookup,
    Value.isInRange_list.1 (Value.isInRange_of_lookup hrange hlookup)⟩

end Disk.Holds

/-! ## Lines -/

/-- When a filter answers about all records, they are counted that satisfy it. -/
theorem Group.count_eq_countP {g : Group} {records : List Record}
    (h : ∀ r ∈ records, ¬Fails (g.verdict r)) :
    g.count records = .ok (records.countP fun r => g.verdict r = .ok true) := by
  induction records with
  | nil => rfl
  | cons r rest ih =>
    obtain ⟨hr, hrest⟩ := List.forall_mem_cons.1 h
    obtain ⟨holds, hholds⟩ := not_fails_iff.1 hr
    rw [count, hholds, ok_bind, ih hrest, List.countP_cons, hholds]
    cases holds <;> rfl

namespace CommandLine

/-- The number of books among the items that satisfy a filter. -/
def matching (items : List Value) (g : Group) : Nat :=
  (items.filterMap Book.ofPayload?).countP fun b => g.verdict (.book b) = .ok true

/-- There is one line for each entry that is a shelf, in order: the name of the shelf and the number of
books that satisfy its filter. -/
inductive Tells (items : List Value) : List Value → List String → Prop
  | nil : Tells items [] []
  | shelf {v : Value} {name : String} {g : Group} {rest : List Value} {found : List String} :
      Shelf.IsEntryOf v name g → Tells items rest found →
      Tells items (v :: rest) (s!"{name}: {matching items g}" :: found)
  | other {v : Value} {rest : List Value} {found : List String} :
      ¬Shelf.IsEntry v → Tells items rest found → Tells items (v :: rest) found

/-- The filter of each entry that is a shelf answers about each book. -/
def Answered (items entries : List Value) : Prop :=
  ∀ v ∈ entries, ∀ name g, Shelf.IsEntryOf v name g →
    ∀ b ∈ items.filterMap Book.ofPayload?, ¬Fails (g.verdict (.book b))

/-- No name of an entry that is a shelf holds half of a surrogate pair. -/
def Printable (code : Text.HalfCode) (entries : List Value) : Prop :=
  ∀ v ∈ entries, ∀ name g, Shelf.IsEntryOf v name g → name.toList.any code.stands = false

variable {code : Text.HalfCode} {items entries : List Value}

theorem booksOf_eq (items : List Value) :
    booksOf items = (items.filterMap Book.ofPayload?).map .book := by
  rw [booksOf, List.map_filterMap]

theorem count_booksOf {g : Group}
    (h : ∀ b ∈ items.filterMap Book.ofPayload?, ¬Fails (g.verdict (.book b))) :
    g.count (booksOf items) = .ok (matching items g) := by
  rw [booksOf_eq, Group.count_eq_countP (List.forall_mem_map.2 h), List.countP_map]
  rfl

/-- A name without halves is printed with a number. -/
theorem printed_numbered {name : String} (h : name.toList.any code.stands = false) (n : Nat) :
    printed code s!"{name}: {n}" = .ok s!"{name}: {n}" := by
  have hdigits : (toString n).toList = Nat.toDigits 10 n := String.toList_ofList
  have hnumber : (toString n).toList.any code.stands = false :=
    hdigits ▸ Json.any_of_isFrame Json.stands_of_isFrame (Json.toDigits_isFrame n)
  have hcolon : (": ".toList).any code.stands = false :=
    Json.any_of_isFrame Json.stands_of_isFrame (by decide)
  have hwhole : (s!"{name}: {n}").toList.any code.stands = false := by
    simp only [String.toList_append, List.any_append]
    exact Bool.or_eq_false_iff.2 ⟨Bool.or_eq_false_iff.2 ⟨h, hcolon⟩, hnumber⟩
  rw [printed, Text.HalfCode.errorIn?_eq_none.2 hwhole]

/-- The line of a shelf with a name and a filter. -/
theorem line_eq {s : Shelf} {name : String} {g : Group} (hname : s.name = .text name)
    (hfilter : s.filter = some g) (hwhole : name.toList.any code.stands = false)
    (h : ∀ b ∈ items.filterMap Book.ofPayload?, ¬Fails (g.verdict (.book b))) :
    line code (booksOf items) s = .ok s!"{name}: {matching items g}" := by
  rw [line, hfilter, hname]
  dsimp only
  rw [count_booksOf h, Value.plain, Value.plainChars_text, String.ofList_toList]
  exact printed_numbered hwhole _

/-- The lines of the shelves that are read of the entries. -/
theorem printLines_tell (icon : String)
    (hread : ∀ v ∈ entries, v.isOrdinary = true ∧ v.isDocument = true) (hanswered : Answered items entries)
    (hprintable : Printable code entries) :
    ∃ found, printLines code (booksOf items) (entries.filterMap (Shelf.imported? icon)) =
      ⟨[], found, .ok 0⟩ ∧ Tells items entries found := by
  induction entries with
  | nil => exact ⟨[], rfl, .nil⟩
  | cons v rest ih =>
    obtain ⟨⟨ho, hd⟩, hreadRest⟩ := List.forall_mem_cons.1 hread
    obtain ⟨hanswers, hansweredRest⟩ := List.forall_mem_cons.1 hanswered
    obtain ⟨hwhole, hprintableRest⟩ := List.forall_mem_cons.1 hprintable
    obtain ⟨found, hfound, htells⟩ := ih hreadRest hansweredRest hprintableRest
    rw [List.filterMap_cons]
    rcases Shelf.ofPortable_cases icon ho hd with
      ⟨s, name, g, hs, hentry, hname, hfilter⟩ | ⟨-, hother⟩
    · have hsome : Shelf.imported? icon v = some s := by rw [Shelf.imported?, hs]; rfl
      refine ⟨_, ?_, .shelf hentry htells⟩
      rw [hsome, printLines, line_eq hname hfilter (hwhole name g hentry) (hanswers name g hentry), hfound]
    · rw [Shelf.imported?_eq_none icon ho hd hother]
      exact ⟨found, hfound, .other hother htells⟩

end CommandLine

/-! ## The console -/

/-- The records of all notices are taken by the logger of the program. -/
theorem Channel.owns_name (channel : Channel) : Logger.owns channel.name = true := by
  cases channel <;> decide

namespace Logger

variable {level : Level} {l : Logger} {rs : List LogRecord}

/-- Of the records that reach a level, all are given to the handlers when the level of the logger is not
above it. -/
theorem filter_givenBy_emits (hpositive : 0 < level) (hset : l.level ≠ 0) (hlevel : l.level ≤ level)
    (howned : ∀ r ∈ rs, owns r.channel = true) :
    (l.givenBy (rs.map .emit)).filter (fun r => decide (level ≤ r.level)) =
      rs.filter fun r => decide (level ≤ r.level) := by
  induction rs generalizing l with
  | nil => rfl
  | cons r rest ih =>
    obtain ⟨hr, hrest⟩ := List.forall_mem_cons.1 howned
    have hgiven := ih (l := l.emit r) (by rwa [level_emit]) (by rwa [level_emit]) hrest
    rw [List.map_cons, givenBy, List.filter_append]
    show _ ++ ((l.emit r).givenBy _).filter _ = _
    rw [hgiven, given_emit, hr, Bool.and_true]
    by_cases hreached : level ≤ r.level
    · have hpasses : l.passes r = true := by
        have hnumbers : ∀ n m k : Int, 0 < m → n ≤ m → m ≤ k → 0 < k ∧ n ≤ k := by
          intro n m k _ _ _
          omega
        obtain ⟨hpos, hle⟩ := hnumbers l.level level r.level hpositive hlevel hreached
        simp [passes, levelFor, hr, hset, hpos, hle]
      simp [hpasses, hreached]
    · by_cases hpasses : l.passes r = true <;> simp [hpasses, hreached]

/-- A logger that is set up with a level above debugging has written the records that reach the level on the
console. -/
theorem consoleText_run_setUp (hlevel : Level.debug < level) (file : Option Path)
    (howned : ∀ r ∈ rs, owns r.channel = true) :
    ((fresh.setUp level file).run (rs.map .emit)).consoleText =
      LogRecord.lines (rs.filter fun r => decide (level ≤ r.level)) := by
  have hhandlers : (fresh.setUp level file).handlers = handlersFor level file := rfl
  have hnumbers : ∀ n : Int, 10 < n → 0 < n ∧ n ≠ 0 ∧ min n 10 ≠ 0 ∧ min n 10 ≤ n := by
    intro n _
    omega
  obtain ⟨hpositive, hzero, hmin, hle⟩ := hnumbers level hlevel
  have hset : (fresh.setUp level file).level ≠ 0 ∧ (fresh.setUp level file).level ≤ level := by
    cases file with
    | none => exact ⟨hzero, Int.le_refl level⟩
    | some p => exact ⟨hmin, hle⟩
  rw [consoleText, handlers_run (by rw [hhandlers]; exact List.cons_ne_nil _ _), hhandlers,
    ← filter_givenBy_emits hpositive hset.1 hset.2 howned]
  generalize (fresh.setUp level file).givenBy (rs.map .emit) = given
  cases file <;> simp [handlersFor, Handler.keep, Handler.text]

end Logger

namespace CommandLine

variable {exportFile : Path} {args : List String} {level : Level}

/-- What a run on files shows on a console whose level is above debugging. -/
theorem shown_eq (hfiles : (files? exportFile args).isSome = true) (hlevel : Level.debug < level)
    (file : Option Path) (clock : Nat → TimeOfDay) (o : Outcome) :
    shown (logger level file exportFile args) clock o =
      LogRecord.lines ((records clock o.notices).filter fun r => decide (level ≤ r.level)) ++ o.text := by
  have howned : ∀ r ∈ records clock o.notices, Logger.owns r.channel = true := by
    intro r hr
    obtain ⟨i, hi, rfl⟩ := List.mem_mapIdx.1 hr
    exact Channel.owns_name _
  rw [shown, logged, logger, if_pos hfiles, Logger.consoleText_run_setUp hlevel file howned]

/-- On a console whose level is above that of all notices there are only the lines. -/
theorem shown_quiet (hfiles : (files? exportFile args).isSome = true) (hlevel : Level.debug < level)
    (file : Option Path) (clock : Nat → TimeOfDay) {o : Outcome}
    (h : ∀ n ∈ o.notices, (n.severity.level : Level) < level) :
    shown (logger level file exportFile args) clock o = o.text := by
  have hnone : (records clock o.notices).filter (fun r => decide (level ≤ r.level)) = [] := by
    refine List.filter_eq_nil_iff.2 fun r hr => ?_
    obtain ⟨i, hi, rfl⟩ := List.mem_mapIdx.1 hr
    have hbelow : ¬level ≤ (LogRecord.ofNotice (clock i) o.notices[i]).level :=
      Int.not_le.2 (h _ (List.getElem_mem hi))
    simpa using hbelow
  rw [shown_eq hfiles hlevel, hnone]
  exact String.empty_append

/-! ## Runs -/

variable {code : Text.HalfCode} {d : Disk} {books shelves : Path} {items entries : List Value}
variable {found : List String}

theorem printLines_notices (books : List Record) (shelves : List Shelf) :
    (printLines code books shelves).notices = [] := by
  unfold printLines
  split
  · rfl
  · split <;> rfl

/-- What a run leaves behind that reads items and entries. -/
def counted (code : Text.HalfCode) (icon : String) (shelves : Path) (items entries : List Value) : Outcome :=
  let imported := entries.filterMap (Shelf.imported? icon)
  { printLines code (booksOf items) imported with
    notices := (Shelf.ofPortableEntries icon entries).notices ++
      Shelf.importedNotice imported.length shelves :: malformed items }

/-- A run on two files depends on the items and the entries in them alone. -/
theorem run_eq (hfiles : files? exportFile args = some (books, shelves))
    (h : d.Holds code books shelves items entries) (icon : String) :
    run code d exportFile icon args = counted code icon shelves items entries := by
  obtain ⟨bytes, hread, -⟩ := h.books
  rw [run, hfiles]
  dsimp only
  rw [countShelves, Disk.has?_of_read? hread]
  dsimp only
  rw [Outcome.after_eq rfl, h.carries.result_importFile icon]
  dsimp only
  rw [h.loadBooks_eq, Outcome.after_eq rfl, printLines_notices, List.append_nil]
  show Outcome.mk ((Shelf.importFile code icon d shelves).notices ++ _) _ _ = _
  rw [h.carries.notices_importFile icon, List.append_assoc]
  rfl

/-- A run ends with the code 0 and prints the lines that are found. Beside warnings it tells nothing but how
many shelves there are. A console whose level is above debugging shows what is told from its level on, and
then the lines; above the level of warnings it shows the lines alone. -/
structure EndsWith (exportFile : Path) (args : List String) (shelves : Path) (found : List String)
    (o : Outcome) : Prop where
  ending : o.ending = .ok 0
  lines : o.lines = found
  told : o.notices.filter (fun n => n.severity ≠ .warning) = [Shelf.importedNotice found.length shelves]
  console : ∀ level, Level.debug < level → ∀ file clock, shown (logger level file exportFile args) clock o =
    LogRecord.lines ((records clock o.notices).filter fun r => decide (level ≤ r.level)) ++ o.text
  quiet : ∀ level, Level.warning < level → ∀ file clock,
    shown (logger level file exportFile args) clock o = o.text

theorem malformed_severity {n : Notice} (h : n ∈ malformed items) : n.severity = .warning := by
  simp only [malformed] at h
  split at h
  · cases h
  · rw [List.mem_singleton.1 h]

/-- A notice with warnings around it is the only one that is none. -/
theorem filter_not_warning {before behind : List Notice} {n : Notice}
    (hbefore : ∀ m ∈ before, m.severity = .warning) (hn : n.severity ≠ .warning)
    (hbehind : ∀ m ∈ behind, m.severity = .warning) :
    (before ++ n :: behind).filter (fun m => m.severity ≠ .warning) = [n] := by
  have hnone : ∀ ns : List Notice, (∀ m ∈ ns, m.severity = .warning) →
      ns.filter (fun m => m.severity ≠ .warning) = [] :=
    fun ns h => List.filter_eq_nil_iff.2 fun m hm => by simp [h m hm]
  rw [List.filter_append, hnone before hbefore, List.filter_cons, hnone behind hbehind]
  simp [hn]

/-- A run that prints lines without a fault ends with them. -/
theorem counted_endsWith (hfiles : (files? exportFile args).isSome = true) (icon : String) (shelves : Path)
    (h : printLines code (booksOf items) (entries.filterMap (Shelf.imported? icon)) = ⟨[], found, .ok 0⟩) :
    EndsWith exportFile args shelves found (counted code icon shelves items entries) := by
  have hlength : (entries.filterMap (Shelf.imported? icon)).length = found.length := by
    rw [← printLines_length (congrArg Outcome.ending h), h]
  have hcounted : counted code icon shelves items entries =
      ⟨(Shelf.ofPortableEntries icon entries).notices ++
        Shelf.importedNotice found.length shelves :: malformed items, found, .ok 0⟩ := by
    rw [counted, h, hlength]
  have hskipped := Shelf.tellsOnly_ofPortableEntries icon entries
  rw [hcounted]
  refine ⟨rfl, rfl, filter_not_warning hskipped nofun fun _ => malformed_severity,
    fun level hlevel file clock => shown_eq hfiles hlevel file clock _, fun level hlevel file clock => ?_⟩
  refine shown_quiet hfiles (Int.lt_trans (by decide) hlevel) file clock ?_
  have hwarning : ∀ n : Notice, n.severity = .warning → (n.severity.level : Level) < level := by
    intro n hn
    rw [hn]
    exact hlevel
  have hnumber : ((Shelf.importedNotice found.length shelves).severity.level : Level) < level :=
    Int.lt_trans (show Level.info < Level.warning by decide) hlevel
  exact List.forall_mem_append.2 ⟨fun n hn => hwarning n (hskipped n hn),
    List.forall_mem_cons.2 ⟨hnumber, fun n hn => hwarning n (malformed_severity hn)⟩⟩

/-- A run on a file with a list of items and one with a list of entries, in which the integers are inside of
the range of doubles, ends with the code 0 and prints one line for each entry that is a shelf, when the
filters of these answer about each book and their names can be printed. A run on files with more items that
are no objects and more entries that are no shelves, wherever they stand, ends with the same code and prints
the same. Of the log records on the same console, it is only warnings that depend on these. -/
theorem run_tells (icon : String) (hfiles : files? exportFile args = some (books, shelves))
    (hholds : d.Holds code books shelves items entries) (hanswered : Answered items entries)
    (hprintable : Printable code entries) :
    ∃ found, Tells items entries found ∧
      EndsWith exportFile args shelves found (run code d exportFile icon args) ∧
      ∀ {d' : Disk} {exportFile' : Path} {args' : List String} {books' shelves' : Path}
        {items' entries' : List Value}, files? exportFile' args' = some (books', shelves') →
          d'.Holds code books' shelves' items' entries' →
          Padded (fun v => ∀ object, v ≠ .object object) items items' →
          Padded (fun v => ¬Shelf.IsEntry v) entries entries' →
          EndsWith exportFile' args' shelves' found (run code d' exportFile' icon args') := by
  obtain ⟨found, hfound, htells⟩ := printLines_tell icon hholds.carries.ordinary hanswered hprintable
  refine ⟨found, htells, ?_, ?_⟩
  · rw [run_eq hfiles hholds]
    exact counted_endsWith (hfiles ▸ rfl) icon shelves hfound
  · intro d' exportFile' args' books' shelves' items' entries' hfiles' hholds' hitems hentries
    have hbooks : booksOf items' = booksOf items := by
      refine hitems.filterMap_eq fun v _ hv => ?_
      rw [Book.ofPayload?_eq_none_iff.2 hv]
      rfl
    have hshelves : entries'.filterMap (Shelf.imported? icon) = entries.filterMap (Shelf.imported? icon) :=
      hentries.filterMap_eq fun v hv hother =>
        Shelf.imported?_eq_none icon (hholds'.carries.ordinary v hv).1 (hholds'.carries.ordinary v hv).2 hother
    rw [run_eq hfiles' hholds']
    exact counted_endsWith (hfiles' ▸ rfl) icon shelves' (by rw [hbooks, hshelves, hfound])

/-- The disk with a file of books and a file of shelves in the current folder. -/
def twoFiles (books shelves : Value) : Disk :=
  let file (v : Value) : Entry := .file (Text.Utf8.encode (String.ofList (Json.indented 0 v)))
  ⟨[(⟨false, ["books.json".toList]⟩, file books),
    (⟨false, ["shelves.json".toList]⟩, file shelves)]⟩

theorem twoFiles_holds {items entries : List Value} (hitems : (Value.list items).isDocument = true)
    (hentries : (Value.object [("magic_shelves", .list entries)]).isDocument = true)
    (hrange : (Value.object [("magic_shelves", .list entries)]).isInRange = true) :
    (twoFiles (.list items) (.object [("magic_shelves", .list entries)])).Holds .standard
      (Path.ofText "books.json") (Path.ofText "shelves.json") items entries where
  books := ⟨_, rfl, documentOf_indented hitems⟩
  shelves := ⟨_, _, rfl, documentOf_indented hentries, rfl, hrange⟩

/-- The filter for the books of a title. -/
def titled : Group := ⟨.text "", .all, [
  .rule ⟨.known .title, .known .equals, .text "Persuasion", .null, .null,
    .scalar (.text "Persuasion") (.text "persuasion"), rfl, rfl⟩]⟩

/-- The document of that filter. -/
def titledDocument : Value := .object [("rules", .list [.object [
  ("field", .text "title"), ("operator", .text "equals"), ("value", .text "Persuasion")]])]

/-- The entry of a shelf with that filter. -/
def titledEntry : Value := .object [("name", .text " Titled "), ("filter", titledDocument)]

/-- The payload of a book of that title. -/
def titledBook : Entries := [("metadata", .object [("title", .text "PERSUASION")])]

/-- A book of the title, and one about which nothing is known. -/
def titledAndNameless : List Value := [.object titledBook, .object []]

theorem titledEntry_eq {name : String} {g : Group} (h : Shelf.IsEntryOf titledEntry name g) :
    name = "Titled" ∧ g = titled := by
  obtain ⟨entries, raw, hv, hname, -, rfl, hg⟩ := h
  cases hv
  cases hname
  refine ⟨by decide, ?_⟩
  have hread : (Group.ofDocument titledDocument).result = .ok titled := rfl
  exact Except.ok.inj (hg.symm.trans hread)

theorem titledEntry_isEntryOf : Shelf.IsEntryOf titledEntry "Titled" titled :=
  ⟨_, " Titled ", rfl, rfl, by decide, by decide, rfl⟩

/-- The filter answers about both books. -/
theorem titledEntry_answered : Answered titledAndNameless [titledEntry] := by
  intro v hv name g hentry
  obtain rfl := List.mem_singleton.1 hv
  obtain ⟨-, rfl⟩ := titledEntry_eq hentry
  have htitled : titled.verdict (.book (.ofEntries titledBook)) = .ok true := by decide +kernel
  have hnameless : titled.verdict (.book (.ofEntries [])) = .ok false := by decide +kernel
  have hboth : ∀ b ∈ [Book.ofEntries titledBook, .ofEntries []], ¬Fails (titled.verdict (.book b)) := by
    simp [htitled, hnameless]
  exact hboth

/-- One of the two books has the title, and one has when other things stand among the books and beside the
shelf. On a console for errors there is nothing but that. -/
theorem titledEntry_told :
    let clean := run .standard
      (twoFiles (.list titledAndNameless) (.object [("magic_shelves", .list [titledEntry])]))
      (Path.ofText "") Shelf.defaultIcon ["books.json", "shelves.json"]
    let cluttered := run .standard
      (twoFiles (.list (.int 3 :: titledAndNameless))
        (.object [("magic_shelves", .list [titledEntry, .null, .object [("name", .text " ")]])]))
      (Path.ofText "shelves.json") Shelf.defaultIcon ["books.json"]
    clean.ending = .ok 0 ∧ clean.lines = ["Titled: 1"] ∧
      cluttered.ending = .ok 0 ∧ cluttered.lines = ["Titled: 1"] ∧
      shown (logger 40 none (Path.ofText "shelves.json") ["books.json"]) (fun _ => .midnight) cluttered =
        "Titled: 1\n" := by
  intro clean cluttered
  have hholds : (twoFiles (.list titledAndNameless) (.object [("magic_shelves", .list [titledEntry])])).Holds
      .standard (Path.ofText "books.json") (Path.ofText "shelves.json") titledAndNameless [titledEntry] :=
    twoFiles_holds rfl rfl rfl
  have hprintable : Printable .standard [titledEntry] := by
    intro v hv name g hentry
    obtain rfl := List.mem_singleton.1 hv
    obtain ⟨rfl, -⟩ := titledEntry_eq hentry
    decide
  obtain ⟨found, htells, hclean, hpadded⟩ := run_tells Shelf.defaultIcon
    (show files? (Path.ofText "") ["books.json", "shelves.json"] = some (_, _) from rfl) hholds
    titledEntry_answered hprintable
  have hone : found = ["Titled: 1"] := by
    cases htells with
    | shelf hentry hrest =>
      obtain ⟨rfl, rfl⟩ := titledEntry_eq hentry
      cases hrest
      decide +kernel
    | other hother => exact absurd titledEntry_isEntryOf.isEntry hother
  subst hone
  have hnull : ¬Shelf.IsEntry .null := by
    rintro ⟨_, _, hv, -⟩
    cases hv
  have hblank : ¬Shelf.IsEntry (.object [("name", .text " ")]) := by
    rintro ⟨_, _, hv, hname, hblank, -⟩
    cases hv
    cases hname
    cases hblank
  have hnumber : ∀ object, Value.int 3 ≠ .object object := fun _ h => nomatch h
  have hcluttered : EndsWith (Path.ofText "shelves.json") ["books.json"] (Path.ofText "shelves.json")
      ["Titled: 1"] cluttered :=
    hpadded rfl (twoFiles_holds (by decide +kernel) rfl rfl)
      (.added hnumber (.kept _ (.kept _ .nil)))
      (.kept _ (.added hnull (.added hblank .nil)))
  have hquiet := hcluttered.quiet 40 (by decide) none fun _ => .midnight
  rw [Outcome.text, hcluttered.lines] at hquiet
  exact ⟨hclean.ending, hclean.lines, hcluttered.ending, hcluttered.lines, hquiet.trans (by decide)⟩

/-- The disk with the texts of a file of books and a file of shelves, all of them ASCII. -/
def asciiFiles (books shelves : String) : Disk :=
  let file (s : String) : Entry := .file (s.toList.map fun c => UInt8.ofNat c.toNat)
  ⟨[(⟨false, ["books.json".toList]⟩, file books),
    (⟨false, ["shelves.json".toList]⟩, file shelves)]⟩

/-- What a run on such files leaves behind. -/
def asciiRun (books shelves : String) : Outcome :=
  run .standard (asciiFiles books shelves) (Path.ofText "") Shelf.defaultIcon ["books.json", "shelves.json"]

/-- What it shows at midnight on a console for all that happens. -/
def midnightConsole (o : Outcome) : String :=
  shown (logger Level.info none (Path.ofText "") ["books.json", "shelves.json"]) (fun _ => .midnight) o

/-- A file of shelves with a text for its list. -/
def shelvesText (entries : String) : String := "\x7b\"magic_shelves\": [" ++ entries ++ "]\x7d"

/-- Two runs print the same line, behind the records of the log. What the second one passes over adds
records. A third run ends with a name that cannot be printed. -/
theorem clutter_shown :
    let clean := asciiRun "[]" (shelvesText "\x7b\"name\": \"Bare\"\x7d")
    let cluttered := asciiRun "[3]" (shelvesText "null, \x7b\"name\": \"Bare\"\x7d")
    clean.lines = ["Bare: 0"] ∧ clean.ending = .ok 0 ∧
      midnightConsole clean =
        "00:00:00 [INFO] magicshelf.magic_shelf_importer: Imported 1 magic shelves from shelves.json\n" ++
        "Bare: 0\n" ∧
      cluttered.lines = ["Bare: 0"] ∧ cluttered.ending = .ok 0 ∧
      midnightConsole cluttered =
        "00:00:00 [WARNING] magicshelf.magic_shelf_importer: Skipping invalid shelf entry: " ++
        "Shelf entry must be an object, got NoneType\n" ++
        "00:00:00 [INFO] magicshelf.magic_shelf_importer: Imported 1 magic shelves from shelves.json\n" ++
        "00:00:00 [WARNING] magicshelf: Skipped 1 malformed book entries\n" ++
        "Bare: 0\n" ∧
      (asciiRun "[]" (shelvesText "\x7b\"name\": \"\\ud800\"\x7d")).ending =
        .error (.unencodable ⟨0, [Shelf.highHalf]⟩) := by
  decide +kernel

end CommandLine

end ShelfRules
