import ShelfRules.Fault

/-!
# Verdicts

The answer of a test is yes, no, or a fault. Answers are combined from the left, and an answer that
decides the matter hides all behind it, faults included.

Results:
* `Verdict.not_all`, `Verdict.not_any`: the negation of a combination.
* `Verdict.all_append`, `Verdict.any_append`: a combination in two steps.
* `Verdict.all_ok`, `Verdict.any_ok`: without faults the combinations are those of booleans.
-/

namespace ShelfRules

/-- The answer of a test. -/
abbrev Verdict := Except Fault Bool

namespace Verdict

/-- The opposite answer; a fault stays one. -/
def not : Verdict → Verdict
  | .ok b => .ok !b
  | .error f => .error f

/-- All answers up to the first no are yes. -/
def all : List Verdict → Verdict
  | [] => .ok true
  | .error f :: _ => .error f
  | .ok false :: _ => .ok false
  | .ok true :: rest => all rest

/-- One answer is yes, and none before it is a fault. -/
def any : List Verdict → Verdict
  | [] => .ok false
  | .error f :: _ => .error f
  | .ok true :: _ => .ok true
  | .ok false :: rest => any rest

/-- Both answers are yes; the second counts only after a yes. -/
def and (a b : Verdict) : Verdict := all [a, b]

theorem not_not (v : Verdict) : v.not.not = v := by
  cases v <;> simp [not]

theorem not_all (vs : List Verdict) : (all vs).not = any (vs.map not) := by
  induction vs with
  | nil => rfl
  | cons v rest ih =>
    rcases v with f | _ | _
    · rfl
    · rfl
    · exact ih

theorem not_any (vs : List Verdict) : (any vs).not = all (vs.map not) := by
  induction vs with
  | nil => rfl
  | cons v rest ih =>
    rcases v with f | _ | _
    · rfl
    · exact ih
    · rfl

theorem all_append (vs ws : List Verdict) : all (vs ++ ws) = all (all vs :: ws) := by
  induction vs with
  | nil => rfl
  | cons v rest ih =>
    rcases v with f | _ | _
    · rfl
    · rfl
    · exact ih

theorem any_append (vs ws : List Verdict) : any (vs ++ ws) = any (any vs :: ws) := by
  induction vs with
  | nil => rfl
  | cons v rest ih =>
    rcases v with f | _ | _
    · rfl
    · exact ih
    · rfl

theorem all_ok (bs : List Bool) : all (bs.map .ok) = .ok (bs.all id) := by
  induction bs with
  | nil => rfl
  | cons b rest ih => cases b with
    | false => rfl
    | true => simpa [all] using ih

theorem any_ok (bs : List Bool) : any (bs.map .ok) = .ok (bs.any id) := by
  induction bs with
  | nil => rfl
  | cons b rest ih => cases b with
    | true => rfl
    | false => simpa [any] using ih

end Verdict

end ShelfRules
