import ShelfRules.Log.Session
import ShelfRules.Proofs.WrittenBytes
import Mathlib.Data.List.Flatten

/-!
# Records in a log file

A logger is set up with a file, and again with other levels and maybe other files; records come in between.
The file should get each record of the logger's own channels from debugging on. The handler of the file
is there for good from the first call on and takes every such record that it is given, but the last call
sets the level of the logger: without a file it may ask for more than debugging, and the level zero asks
for the level of the root.

Results:
* `Logger.handlers_step`, `Logger.handlers_run`: what the handlers keep of a step, and of a run.
* `Logger.filter_givenBy_eq_due_iff`: when all records that are due are given to the handlers.
* `Session.run?_of_handlers`: once there are handlers, no step is refused.
* `Session.written?_of_handlers`: what the file holds once all that its handler has received is written.
* `Session.written_iff`: when the file holds all records that are due.
-/

namespace ShelfRules

/-! ## Calls -/

/-- A call that sets a logger up: a level, and maybe a file. -/
structure SetUpCall where
  level : Level
  file : Option Path

namespace SetUpCall

/-- The level of the logger after the call. -/
def loggerLevel (call : SetUpCall) : Level :=
  if call.file.isSome then min call.level Level.debug else call.level

/-- The level that records of the logger's own channels have to reach after the call. -/
def asked (call : SetUpCall) : Level :=
  if call.loggerLevel = 0 then Logger.rootLevel else call.loggerLevel

/-- The last call among steps, and the one in front of them when there is none. -/
def last (call : SetUpCall) : List Logger.Step → SetUpCall
  | [] => call
  | .setUp level file :: rest => last ⟨level, file⟩ rest
  | .emit _ :: rest => call.last rest

/-- A call whose level is not zero asks for no more than debugging when it names a file, or when its
level does not. -/
theorem asked_le_debug {call : SetUpCall} (hzero : call.level ≠ 0)
    (h : call.file.isSome = true ∨ call.level ≤ Level.debug) : call.asked ≤ Level.debug := by
  have hmin : ∀ n : Int, n ≠ 0 → min n 10 ≤ 10 ∧ min n 10 ≠ 0 := by
    intro n hn
    omega
  have hlevel : call.loggerLevel ≤ Level.debug ∧ call.loggerLevel ≠ 0 := by
    unfold loggerLevel
    split
    · exact hmin call.level hzero
    · rename_i hfile
      exact ⟨h.resolve_left hfile, hzero⟩
  rw [asked, if_neg hlevel.2]
  exact hlevel.1

-- a call with the level zero asks for the level of the root, even when it names a file
example (p : Path) : (SetUpCall.mk 0 (some p)).asked = Level.warning := rfl

end SetUpCall

/-! ## Records that are due -/

namespace LogRecord

/-- The record is one of the logger's own channels, from debugging on. -/
def isDue (r : LogRecord) : Bool := Logger.owns r.channel && decide (Level.debug ≤ r.level)

end LogRecord

namespace Logger

/-- The records of steps that a log file should get. -/
def due : List Step → List LogRecord
  | [] => []
  | .setUp .. :: rest => due rest
  | .emit r :: rest => if r.isDue then r :: due rest else due rest

@[simp] theorem due_emit (r : LogRecord) (rest : List Step) :
    due (.emit r :: rest) = if r.isDue then r :: due rest else due rest := rfl

/-- Each record that is due reaches the level that the last call in front of it asks for. -/
def Reached (first : SetUpCall) (steps : List Step) : Prop :=
  ∀ before r after, steps = before ++ .emit r :: after → r.isDue = true →
    (first.last before).asked ≤ r.level

variable {first : SetUpCall} {steps : List Step} {r : LogRecord}

theorem reached_nil : Reached first [] := by
  intro before r after h
  simp at h

theorem reached_setUp (level : Level) (file : Option Path) :
    Reached first (.setUp level file :: steps) ↔ Reached ⟨level, file⟩ steps := by
  constructor
  · intro h before r after hsteps
    exact h (.setUp level file :: before) r after (by rw [hsteps, List.cons_append])
  · intro h before r after hsteps hdue
    cases before with
    | nil => cases hsteps
    | cons s before =>
      cases hsteps
      exact h before r after rfl hdue

theorem reached_emit : Reached first (.emit r :: steps) ↔
    (r.isDue = true → first.asked ≤ r.level) ∧ Reached first steps := by
  constructor
  · intro h
    refine ⟨h [] r steps rfl, ?_⟩
    intro before r' after hsteps
    exact h (.emit r :: before) r' after (by rw [hsteps, List.cons_append])
  · rintro ⟨hr, h⟩ before r' after hsteps hdue
    cases before with
    | nil =>
      cases hsteps
      exact hr hdue
    | cons s before =>
      cases hsteps
      exact h before r' after rfl hdue

/-- All records that are due reach the level when no call asks for more than debugging. -/
theorem reached_of_calls (hfirst : first.asked ≤ Level.debug)
    (h : ∀ level file, .setUp level file ∈ steps → (SetUpCall.mk level file).asked ≤ Level.debug) :
    Reached first steps := by
  induction steps generalizing first with
  | nil => exact reached_nil
  | cons s rest ih =>
    have hrest := fun level file hmem => h level file (List.mem_cons_of_mem s hmem)
    cases s with
    | setUp level file =>
      rw [reached_setUp]
      exact ih (h level file List.mem_cons_self) hrest
    | emit r =>
      rw [reached_emit]
      refine ⟨?_, ih hfirst hrest⟩
      intro hdue
      simp only [LogRecord.isDue, Bool.and_eq_true, decide_eq_true_eq] at hdue
      exact Int.le_trans hfirst hdue.2

end Logger

/-! ## Runs -/

namespace Handler

/-- The handler after records: it keeps those that reach its level. -/
def keep (h : Handler) (rs : List LogRecord) : Handler :=
  { h with received := h.received ++ rs.filter fun r => decide (h.level ≤ r.level) }

@[simp] theorem keep_nil (h : Handler) : h.keep [] = h := by
  simp [keep]

theorem keep_keep (h : Handler) (rs ss : List LogRecord) : (h.keep rs).keep ss = h.keep (rs ++ ss) := by
  unfold keep
  rw [List.filter_append, List.append_assoc]

theorem receive_eq_keep (h : Handler) (r : LogRecord) : h.receive r = h.keep [r] := by
  unfold receive keep
  split <;> simp_all

end Handler

namespace Logger

/-- The records of a step that are given to the handlers. -/
def given (l : Logger) : Step → List LogRecord
  | .setUp .. => []
  | .emit r => if l.passes r && owns r.channel then [r] else []

/-- The records of steps that are given to the handlers. -/
def givenBy (l : Logger) : List Step → List LogRecord
  | [] => []
  | s :: rest => l.given s ++ (l.step s).givenBy rest

theorem given_emit (l : Logger) (r : LogRecord) :
    l.given (.emit r) = if l.passes r && owns r.channel then [r] else [] := rfl

variable {l : Logger} {first : SetUpCall}

/-- A step gives its records to the handlers that are attached, and attaches no others. -/
theorem handlers_step (h : l.handlers ≠ []) (s : Step) :
    (l.step s).handlers = l.handlers.map (·.keep (l.given s)) := by
  cases s with
  | setUp level file =>
    show (l.setUp level file).handlers = l.handlers.map (·.keep [])
    rw [handlers_setUp h]
    simp
  | emit r =>
    show (l.emit r).handlers = _
    rw [emit, given_emit]
    by_cases htaken : (l.passes r && owns r.channel) = true
    · rw [if_pos htaken, if_pos htaken]
      simp only [Handler.receive_eq_keep]
    · rw [if_neg htaken, if_neg htaken]
      simp

theorem handlers_step_ne_nil (h : l.handlers ≠ []) (s : Step) : (l.step s).handlers ≠ [] := by
  rw [handlers_step h]
  simpa using h

/-- Once handlers are attached, a run gives them its records in order. -/
theorem handlers_run (h : l.handlers ≠ []) (steps : List Step) :
    (l.run steps).handlers = l.handlers.map (·.keep (l.givenBy steps)) := by
  induction steps generalizing l with
  | nil =>
    show l.handlers = l.handlers.map (·.keep [])
    simp
  | cons s rest ih =>
    show ((l.step s).run rest).handlers = _
    rw [ih (handlers_step_ne_nil h s), handlers_step h s, List.map_map]
    apply List.map_congr_left
    intro handler _
    exact handler.keep_keep (l.given s) ((l.step s).givenBy rest)

/-- A logger without handlers is not changed by records. -/
theorem emit_of_no_handlers (h : l.handlers = []) (r : LogRecord) : l.emit r = l := by
  unfold emit
  split
  · rw [h, List.map_nil, ← h]
  · rfl

theorem level_emit (l : Logger) (r : LogRecord) : (l.emit r).level = l.level := by
  unfold emit
  split <;> rfl

/-- Of a record, the handlers are given what is due when it reaches the level that the last call asks
for. -/
theorem filter_given_emit (h : l.level = first.loggerLevel) (r : LogRecord) :
    (l.given (.emit r)).filter (fun r => decide (Level.debug ≤ r.level)) =
      if r.isDue ∧ first.asked ≤ r.level then [r] else [] := by
  rw [given_emit, LogRecord.isDue]
  cases howns : owns r.channel with
  | false => simp
  | true =>
    have hlevel : l.levelFor r.channel = first.asked := by
      unfold levelFor SetUpCall.asked
      rw [h, howns]
      by_cases hzero : first.loggerLevel = 0
      · simp [hzero]
      · simp [hzero]
    have hpositive : ∀ n : Int, 10 ≤ n → 0 < n := by
      intro n hn
      omega
    rw [Bool.and_true, Bool.true_and, passes, hlevel]
    by_cases hdebug : Level.debug ≤ r.level
    · have hpos : 0 < r.level := hpositive r.level hdebug
      by_cases hasked : first.asked ≤ r.level
      · simp [hasked, hdebug, hpos]
      · simp [hasked]
    · simp only [hdebug, decide_false, Bool.false_eq_true, false_and, if_false]
      split
      · simp [hdebug]
      · rfl

/-- The handlers are given no other records from debugging on than those that are due, in order and each
once. -/
theorem filter_givenBy_sublist (h : l.level = first.loggerLevel) (steps : List Step) :
    List.Sublist ((l.givenBy steps).filter fun r => decide (Level.debug ≤ r.level)) (due steps) := by
  induction steps generalizing l first with
  | nil => exact List.Sublist.refl []
  | cons s rest ih =>
    cases s with
    | setUp level file =>
      have hset : (l.setUp level file).level = (SetUpCall.mk level file).loggerLevel := rfl
      exact ih hset
    | emit r =>
      have hrest := ih (l := l.emit r) (by rw [level_emit, h])
      rw [givenBy, List.filter_append, filter_given_emit h]
      show List.Sublist (_ ++ ((l.emit r).givenBy rest).filter _) _
      rw [due_emit]
      by_cases hdue : r.isDue = true
      · rw [if_pos hdue]
        split
        · exact hrest.cons_cons r
        · exact hrest.cons r
      · simpa [hdue] using hrest

/-- The handlers are given all records that are due exactly when each of them reaches the level that the
last call in front of it asks for. -/
theorem filter_givenBy_eq_due_iff (h : l.level = first.loggerLevel) (steps : List Step) :
    ((l.givenBy steps).filter fun r => decide (Level.debug ≤ r.level)) = due steps ↔
      Reached first steps := by
  induction steps generalizing l first with
  | nil => exact iff_of_true rfl reached_nil
  | cons s rest ih =>
    cases s with
    | setUp level file =>
      have hset : (l.setUp level file).level = (SetUpCall.mk level file).loggerLevel := rfl
      rw [reached_setUp]
      exact ih hset
    | emit r =>
      have hlevel : (l.emit r).level = first.loggerLevel := by rw [level_emit, h]
      rw [reached_emit, ← ih hlevel, givenBy, List.filter_append, filter_given_emit h]
      show _ ++ ((l.emit r).givenBy rest).filter _ = _ ↔ _
      by_cases hdue : r.isDue = true
      · by_cases hasked : first.asked ≤ r.level
        · simp [hdue, hasked]
        · -- the record is missing, and there is no room for it among those that follow
          have hlength := (filter_givenBy_sublist hlevel rest).length_le
          simp only [due_emit, hdue, hasked, and_false, if_false, if_true, List.nil_append, forall_const,
            false_and, iff_false]
          intro heq
          rw [heq, List.length_cons] at hlength
          omega
      · simp [hdue]

end Logger

/-! ## Files -/

namespace Disk

/-- A file that is read can be written to. -/
theorem exists_append? {d : Disk} {p : Path} {old : List UInt8} (h : d.read? p = .ok old)
    (bytes : List UInt8) : ∃ d', d.append? p bytes = .ok d' ∧ d'.read? p = .ok (old ++ bytes) := by
  have hwrite : ∃ d', d.write? p (old ++ bytes) = .ok d' := by
    unfold read? find? at h
    unfold write?
    cases hplace : d.place? p with
    | error dead =>
      rw [hplace] at h
      cases h
    | ok place =>
      simp only [hplace] at h ⊢
      cases hentry : d.lookup? place with
      | none =>
        rw [hentry] at h
        cases h
      | some entry =>
        cases entry with
        | folder =>
          rw [hentry] at h
          cases h
        | file bytes => exact ⟨_, rfl⟩
  obtain ⟨d', hd'⟩ := hwrite
  refine ⟨d', ?_, read?_of_write? hd'⟩
  rw [append?, h]
  exact hd'

/-- A file that has been made sure of can be read. -/
theorem exists_read?_of_ensureFile? {d d' : Disk} {p : Path} (h : d.ensureFile? p = .ok d') :
    ∃ old, d'.read? p = .ok old := by
  unfold ensureFile? at h
  cases hfolders : d.ensureFolders? p.parent with
  | error e =>
    rw [hfolders] at h
    cases h
  | ok made =>
    rw [hfolders] at h
    simp only [Except.bind] at h
    split at h
    · rename_i old hread
      cases h
      exact ⟨old, hread⟩
    · exact ⟨[], read?_of_write? h⟩
    · cases h

end Disk

namespace LogRecord

variable {rs ss : List LogRecord}

theorem toList_lines (rs : List LogRecord) : (lines rs).toList = rs.flatMap fun r => r.line.toList := by
  unfold lines
  rw [String.toList_join, List.flatMap_map]

theorem line_ne_nil (r : LogRecord) : r.line.toList ≠ [] := by
  unfold line
  rw [String.toList_append]
  exact List.append_ne_nil_of_right_ne_nil _ (by decide)

/-- Records in order, of which some may be left out, are all there when their lines are. -/
theorem eq_of_lines_eq (hsub : List.Sublist rs ss)
    (h : Text.Utf8.encode (lines rs) = Text.Utf8.encode (lines ss)) : rs = ss := by
  have hdecoded := Text.Utf8.decode_encode (lines rs)
  rw [h, Text.Utf8.decode_encode] at hdecoded
  have hchars := congrArg List.length (Except.ok.inj hdecoded)
  rw [toList_lines, toList_lines] at hchars
  clear h hdecoded
  induction hsub with
  | slnil => rfl
  | cons r hrest ih =>
    -- a record that is left out has a line, and nothing makes up for it
    have hshort := (hrest.flatMap fun r => r.line.toList).length_le
    have hline := List.length_pos_iff.2 (line_ne_nil r)
    rw [List.flatMap_cons, List.length_append] at hchars
    omega
  | cons_cons r hrest ih =>
    rw [List.flatMap_cons, List.flatMap_cons, List.length_append, List.length_append] at hchars
    rw [ih (by omega)]

end LogRecord

namespace Session

/-- The session after steps, up to one that is refused. -/
def run? (s : Session) (steps : List Logger.Step) : Except DiskError Session :=
  steps.foldlM step? s

variable {s : Session}

theorem run?_cons (s : Session) (step : Logger.Step) (rest : List Logger.Step) :
    s.run? (step :: rest) = (s.step? step).bind (·.run? rest) := rfl

/-- Once handlers are attached, no step is refused, and the disk is left alone. -/
theorem run?_of_handlers (h : s.logger.handlers ≠ []) (steps : List Logger.Step) :
    s.run? steps = .ok ⟨s.disk, s.logger.run steps⟩ := by
  induction steps generalizing s with
  | nil => rfl
  | cons step rest ih =>
    have hstep : s.step? step = .ok ⟨s.disk, s.logger.step step⟩ := by
      cases step with
      | emit r => rfl
      | setUp level file =>
        cases file with
        | none => rfl
        | some p => exact if_neg h
    rw [run?_cons, hstep]
    exact ih (s := ⟨s.disk, s.logger.step step⟩) (Logger.handlers_step_ne_nil h step)

/-- Records in front of the first call change nothing. -/
theorem run?_emits (h : s.logger.handlers = []) (idle : List LogRecord) (steps : List Logger.Step) :
    s.run? (idle.map .emit ++ steps) = s.run? steps := by
  induction idle with
  | nil => rfl
  | cons r rest ih =>
    have hstep : s.step? (.emit r) = .ok s := by
      show Except.ok { s with logger := s.logger.emit r } = _
      rw [Logger.emit_of_no_handlers h]
    rw [List.map_cons, List.cons_append, run?_cons, hstep]
    exact ih

/-- What the handlers have received goes to the file of theirs. -/
theorem written?_of_handlers {console file : Handler} {p : Path} {old : List UInt8}
    (h : s.logger.handlers = [console, file]) (hconsole : console.sink = .console)
    (hfile : file.sink = .file p) (hold : s.disk.read? p = .ok old) :
    ∃ d, s.written? = .ok d ∧ d.read? p = .ok (old ++ Text.Utf8.encode file.text) := by
  obtain ⟨d, hd, hread⟩ := Disk.exists_append? hold (Text.Utf8.encode file.text)
  refine ⟨d, ?_, hread⟩
  unfold written?
  rw [h]
  simp only [List.foldlM_cons, List.foldlM_nil, hconsole, hfile]
  show (s.disk.append? p _).bind Except.ok = _
  rw [hd]
  rfl

/-- A session starts with a logger without handlers, records may come in, and then a first call names a
file, which can be opened. Whatever calls and records follow, none is refused, and the file holds the
lines of all records of the logger's own channels from debugging on that came behind the first call, in
order, once and no others, exactly when each of them reaches the level that the last call in front of it
asks for. -/
theorem written_iff {disk : Disk} {p : Path} (hfresh : s.logger.handlers = [])
    (hopened : s.disk.ensureFile? p = .ok disk) (idle : List LogRecord) (level : Level)
    (steps : List Logger.Step) :
    ∃ t d old, s.run? (idle.map .emit ++ .setUp level (some p) :: steps) = .ok t ∧
      t.written? = .ok d ∧ disk.read? p = .ok old ∧
      (d.read? p = .ok (old ++ Text.Utf8.encode (LogRecord.lines (Logger.due steps))) ↔
        Logger.Reached ⟨level, some p⟩ steps) := by
  obtain ⟨old, hold⟩ := Disk.exists_read?_of_ensureFile? hopened
  let l := s.logger.setUp level (some p)
  have hhandlers : l.handlers = Logger.handlersFor level (some p) := if_pos hfresh
  have hrun : s.run? (idle.map .emit ++ .setUp level (some p) :: steps) = .ok ⟨disk, l.run steps⟩ := by
    have hfirst : s.step? (.setUp level (some p)) = .ok ⟨disk, l⟩ := by
      show (if s.logger.handlers = [] then _ else _) = _
      rw [if_pos hfresh, hopened]
      rfl
    rw [run?_emits hfresh, run?_cons, hfirst]
    exact run?_of_handlers (s := ⟨disk, l⟩) (by rw [hhandlers]; exact List.cons_ne_nil _ _) steps
  have hkept := Logger.handlers_run (l := l) (by rw [hhandlers]; exact List.cons_ne_nil _ _) steps
  rw [hhandlers] at hkept
  obtain ⟨d, hd, hread⟩ := written?_of_handlers (s := ⟨disk, l.run steps⟩) hkept rfl rfl hold
  refine ⟨⟨disk, l.run steps⟩, d, old, hrun, hd, hold, ?_⟩
  have hlevel : l.level = (SetUpCall.mk level (some p)).loggerLevel := rfl
  rw [← Logger.filter_givenBy_eq_due_iff hlevel steps, hread]
  constructor
  · intro h
    exact LogRecord.eq_of_lines_eq (Logger.filter_givenBy_sublist hlevel steps)
      (List.append_cancel_left (Except.ok.inj h))
  · intro h
    rw [← h]
    rfl

/-- A log file in a folder of its own. -/
def shelvesLog : Path := Path.ofText "logs/shelves.log"

/-- The disk with nothing but an empty log file. -/
def openedDisk : Disk := ⟨[
  (⟨false, ["logs".toList, "shelves.log".toList]⟩, .file []),
  (⟨false, ["logs".toList]⟩, .folder)]⟩

theorem shelvesLog_opened : Disk.empty.ensureFile? shelvesLog = .ok openedDisk := by
  have hfolders : Disk.empty.ensureFolders? shelvesLog.parent =
      .ok ⟨[(⟨false, ["logs".toList]⟩, .folder)]⟩ := by
    unfold Disk.ensureFolders?
    rfl
  rw [Disk.ensureFile?, hfolders]
  rfl

/-- So many seconds past midnight. -/
def second (n : Nat) : TimeOfDay := .ofMicros (n * 1000000)

/-- Records of three levels, two calls among them, and a record of another program. -/
def mixedSteps : List Logger.Step := [
  .emit ⟨second 1, Level.debug, "magicshelf.settings", "Settings read"⟩,
  .setUp 50 (some (Path.ofText "other.log")),
  .emit ⟨second 2, Level.info, "magicshelf", "Counted"⟩,
  .emit ⟨second 2, Level.warning, "importer", "Skipped"⟩,
  .setUp 5 none,
  .emit ⟨second 3, 5, "magicshelf.files", "Opened"⟩,
  .emit ⟨second 4, Level.debug, "magicshelf.files", "Closed"⟩]

/-- The log file gets the three records that are due, since no call asks for more than debugging. -/
theorem mixedSteps_written : Logger.fresh.handlers = [] ∧
    Disk.empty.ensureFile? shelvesLog = .ok openedDisk ∧
    ∃ t d, run? ⟨Disk.empty, Logger.fresh⟩
        ([⟨.midnight, Level.warning, "magicshelf", "Early"⟩].map .emit ++
          .setUp Level.info (some shelvesLog) :: mixedSteps) = .ok t ∧
      t.written? = .ok d ∧
      d.read? shelvesLog = .ok (Text.Utf8.encode (LogRecord.lines [
        ⟨second 1, Level.debug, "magicshelf.settings", "Settings read"⟩,
        ⟨second 2, Level.info, "magicshelf", "Counted"⟩,
        ⟨second 4, Level.debug, "magicshelf.files", "Closed"⟩])) := by
  have hreached : Logger.Reached ⟨Level.info, some shelvesLog⟩ mixedSteps := by
    refine Logger.reached_of_calls (by decide) ?_
    intro level file hmem
    simp only [mixedSteps, List.mem_cons, List.not_mem_nil, or_false, reduceCtorEq, false_or,
      Logger.Step.setUp.injEq] at hmem
    rcases hmem with ⟨rfl, rfl⟩ | ⟨rfl, rfl⟩
    · exact SetUpCall.asked_le_debug (by decide) (.inl rfl)
    · exact SetUpCall.asked_le_debug (by decide) (.inr (by decide))
  obtain ⟨t, d, old, hrun, hwritten, hold, hiff⟩ := written_iff (s := ⟨Disk.empty, Logger.fresh⟩) rfl
    shelvesLog_opened [⟨.midnight, Level.warning, "magicshelf", "Early"⟩] Level.info mixedSteps
  obtain rfl : [] = old := Except.ok.inj hold
  exact ⟨rfl, shelvesLog_opened, t, d, hrun, hwritten, hiff.2 hreached⟩

/-- A record for those who look for mistakes. -/
def lostRecord : LogRecord := ⟨.midnight, Level.debug, "magicshelf.catalogue", "Counted"⟩

/-- A second call that names no file keeps the records of debugging out of the file. -/
theorem lostRecord_unwritten : ∃ t d,
    run? ⟨Disk.empty, Logger.fresh⟩ [.setUp Level.info (some shelvesLog), .setUp Level.warning none,
      .emit lostRecord] = .ok t ∧ t.written? = .ok d ∧
    Logger.due [.setUp Level.warning none, .emit lostRecord] = [lostRecord] ∧
    d.read? shelvesLog = .ok [] := by
  have hfirst : step? ⟨Disk.empty, Logger.fresh⟩ (.setUp Level.info (some shelvesLog)) =
      .ok ⟨openedDisk, Logger.fresh.setUp Level.info (some shelvesLog)⟩ := by
    show (Disk.empty.ensureFile? shelvesLog).map _ = _
    rw [shelvesLog_opened]
    rfl
  let t : Session := ⟨openedDisk, Level.warning, Logger.handlersFor Level.info (some shelvesLog)⟩
  have hempty : t.disk.read? shelvesLog = .ok [] := rfl
  obtain ⟨d, hd, hread⟩ := written?_of_handlers (s := t) rfl rfl rfl hempty
  have hnone : Text.Utf8.encode (LogRecord.lines []) = [] := by
    rw [Text.Utf8.encode_eq]
    rfl
  refine ⟨t, d, ?_, hd, rfl, ?_⟩
  · rw [run?_cons, hfirst]
    rfl
  · rw [hread]
    exact congrArg Except.ok hnone

end Session

end ShelfRules
