import ShelfRules.Fault

/-!
# Notices

What an operation tells its surroundings beside its result: warnings, failures that were answered with
a default, and how many shelves were carried. A report holds the notices in the order in which they
were given, and a result or the fault that ended the operation; a fault takes back no notice. What is
told for debugging alone is left out, and so is what the catalogue tells of its successes.

Results:
* `Report.result_bind`: what a step after another one gives.
* `Report.attempt_bind`: a step after another one that may have failed.
-/

namespace ShelfRules

/-! ## Notices -/

/-- How much a notice matters. -/
inductive Severity where
  | info
  | warning
  | error
deriving DecidableEq, Repr

/-- The number of a severity on the scale of levels. -/
def Severity.level : Severity → Nat
  | .info => 20
  | .warning => 30
  | .error => 40

/-- The word for a severity. -/
def Severity.name : Severity → String
  | .info => "INFO"
  | .warning => "WARNING"
  | .error => "ERROR"

/-- The part of the program that gives a notice. -/
inductive Channel where
  | program
  | filters
  | storage
  | catalogue
  | exporting
  | importing
  | files
  | settings
deriving DecidableEq, Repr

/-- The name of a channel in logs. -/
def Channel.name : Channel → String
  | .program => "magicshelf"
  | .filters => "magicshelf.magic_shelf.models"
  | .storage => "magicshelf.magic_shelf.codec"
  | .catalogue => "magicshelf.magic_shelf.manager"
  | .exporting => "magicshelf.magic_shelf_exporter"
  | .importing => "magicshelf.magic_shelf_importer"
  | .files => "magicshelf.json_utils"
  | .settings => "magicshelf.config"

/-- Something told beside a result. -/
structure Notice where
  severity : Severity
  channel : Channel
  message : String
deriving DecidableEq, Repr

/-! ## Reports -/

/-- A result or a fault, and the notices given before it. -/
structure Report (α : Type) where
  notices : List Notice
  result : Except Fault α

namespace Report

variable {α β γ : Type}

/-- A result without notices. -/
def ok (a : α) : Report α := ⟨[], .ok a⟩

/-- A fault without notices. -/
def fail (f : Fault) : Report α := ⟨[], .error f⟩

/-- A result or a fault without notices. -/
def ofExcept (e : Except Fault α) : Report α := ⟨[], e⟩

/-- A notice, and nothing else. -/
def note (severity : Severity) (channel : Channel) (message : String) : Report Unit :=
  ⟨[⟨severity, channel, message⟩], .ok ()⟩

/-- A step, and another one with its result. After a fault the second is not made. -/
def bind (r : Report α) (f : α → Report β) : Report β :=
  match r.result with
  | .ok a => ⟨r.notices ++ (f a).notices, (f a).result⟩
  | .error e => ⟨r.notices, .error e⟩

instance : Monad Report where
  pure := ok
  bind := bind

theorem result_bind (r : Report α) (f : α → Report β) :
    (r >>= f).result = r.result.bind fun a => (f a).result := by
  show (bind r f).result = _
  unfold bind
  cases r.result <;> rfl

/-- The results of a step on each item in turn, up to the first fault. -/
def each (f : α → Report β) : List α → Report (List β)
  | [] => ok []
  | a :: rest => (f a).bind fun b => (each f rest).bind fun bs => ok (b :: bs)

/-- The result or the fault of a report, as a result. -/
def attempt (r : Report α) : Report (Except Fault α) := ⟨r.notices, .ok r.result⟩

theorem attempt_bind (r : Report α) (f : Except Fault α → Report β) :
    r.attempt.bind f = ⟨r.notices ++ (f r.result).notices, (f r.result).result⟩ := rfl

end Report

end ShelfRules
