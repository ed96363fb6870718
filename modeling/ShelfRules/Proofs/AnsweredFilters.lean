import ShelfRules.Proofs.ClashingRules

/-!
# Filters with an answer

The children of a group are asked from the left until one decides the matter. A filter has an answer
about a record when none of the rules that are asked clashes with it; a rule that clashes behind a
decision does no harm.

Results:
* `Node.verdict_fails`: a tree has no answer when a rule that is asked has none.
* `Node.answered_iff`: a loaded tree has an answer when no rule that is asked clashes.
-/

namespace ShelfRules

namespace Join

/-- The answer of a child that leaves the matter open. -/
def leavesOpen : Join → Bool
  | .all => true
  | .any => false

theorem combine_cons_fails (join : Join) (v : Verdict) (vs : List Verdict) :
    Fails (join.combine (v :: vs)) ↔
      Fails v ∨ v = .ok join.leavesOpen ∧ Fails (join.combine vs) := by
  cases join <;> rcases v with f | _ | _ <;> simp [combine, Verdict.all, Verdict.any, leavesOpen]

end Join

namespace Node

/-- The rule is asked about the record: the children in front of it, and in front of the groups around
it, leave the matter open. -/
inductive Asks (record : Record) : Node → Rule → Prop
  | rule (r : Rule) : Asks record (.rule r) r
  | child {name : Value} {join : Join} {before after : List Node} {node : Node} {r : Rule} :
      (∀ other ∈ before, other.verdict record = .ok join.leavesOpen) → Asks record node r →
      Asks record (.group name join (before ++ node :: after)) r

theorem asks_rule {record : Record} {r s : Rule} : Asks record (rule r) s ↔ s = r := by
  constructor
  · rintro ⟨⟩
    rfl
  · rintro rfl
    exact .rule _

theorem asks_group {record : Record} {name : Value} {join : Join} {children : List Node} {r : Rule} :
    Asks record (group name join children) r ↔ ∃ before node after,
      children = before ++ node :: after ∧
        (∀ other ∈ before, other.verdict record = .ok join.leavesOpen) ∧ Asks record node r := by
  constructor
  · rintro (_ | ⟨hbefore, h⟩)
    exact ⟨_, _, _, rfl, hbefore, h⟩
  · rintro ⟨before, node, after, rfl, hbefore, h⟩
    exact .child hbefore h

mutual
/-- A tree has no answer exactly when one of the rules that are asked has none. -/
theorem verdict_fails (record : Record) : ∀ node : Node,
    Fails (node.verdict record) ↔ ∃ r, Asks record node r ∧ Fails (r.verdict record)
  | rule r => by simp [verdict, asks_rule]
  | group name join children => by
    rw [verdict, verdicts_fail record join children]
    constructor
    · rintro ⟨before, node, after, h, hbefore, r, hr, hf⟩
      exact ⟨r, asks_group.2 ⟨before, node, after, h, hbefore, hr⟩, hf⟩
    · rintro ⟨r, hr, hf⟩
      obtain ⟨before, node, after, h, hbefore, hr⟩ := asks_group.1 hr
      exact ⟨before, node, after, h, hbefore, r, hr, hf⟩
theorem verdicts_fail (record : Record) (join : Join) : ∀ nodes : List Node,
    Fails (join.combine (verdicts record nodes)) ↔ ∃ before node after,
      nodes = before ++ node :: after ∧
        (∀ other ∈ before, other.verdict record = .ok join.leavesOpen) ∧
          ∃ r, Asks record node r ∧ Fails (r.verdict record)
  | [] => by cases join <;> simp [verdicts, Join.combine, Verdict.all, Verdict.any]
  | node :: rest => by
    rw [verdicts, join.combine_cons_fails, verdict_fails record node, verdicts_fail record join rest]
    exact (exists_behind_cons (fun other => other.verdict record = .ok join.leavesOpen)
      fun node => ∃ r, Asks record node r ∧ Fails (r.verdict record)).symm
end

theorem isLoaded_of_mem {nodes : List Node} (h : AreLoaded nodes) : ∀ node ∈ nodes, node.IsLoaded := by
  induction nodes with
  | nil => exact nofun
  | cons node rest ih => exact List.forall_mem_cons.2 ⟨h.1, ih h.2⟩

/-- The rules of a loaded tree that are asked are loaded. -/
theorem Asks.isLoaded {record : Record} {node : Node} {r : Rule} (h : Asks record node r)
    (hnode : node.IsLoaded) : r.IsLoaded := by
  induction h with
  | rule r => exact hnode
  | child _ _ ih =>
    exact ih (isLoaded_of_mem hnode.2 _ (List.mem_append_right _ List.mem_cons_self))

/-- A loaded tree has an answer about a record exactly when no rule that is asked clashes with it. -/
theorem answered_iff {node : Node} (h : node.IsLoaded) (record : Record) :
    (∃ answer, node.verdict record = .ok answer) ↔ ∀ r, Asks record node r → ¬r.Clashes record := by
  rw [← not_fails_iff, verdict_fails, not_exists]
  refine forall_congr' fun r => ?_
  rw [not_and]
  exact imp_congr_right fun hr => not_congr (Rule.verdict_fails (hr.isLoaded h) record)

end Node

namespace Group

/-- The filter of a text has an answer about the book of a payload exactly when no rule that is asked
clashes with the book. -/
theorem payload_answered_iff {t : String} {g : Group} (h : (ofText t).result = .ok g)
    (entries : Entries) : (∃ answer, g.verdict (.book (.ofEntries entries)) = .ok answer) ↔
      ∀ r, g.toNode.Asks (.book (.ofEntries entries)) r → ¬r.Clashes (.book (.ofEntries entries)) :=
  Node.answered_iff (ofText_isLoaded h) _

/-- The text of a filter for books of an author. -/
def writtenByAnn : String :=
  "\x7b\"rules\": [\x7b\"field\": \"authors\", \"operator\": \"equals\", " ++
    "\"value\": \"Ann\"\x7d]\x7d"

/-- The payload of a book with a value for its authors. -/
def authoredPayload (authors : Value) : Entries := [("metadata", .object [("authors", authors)])]

/-- No rule clashes with a book whose authors are listed. -/
theorem payload_answered_listed : ∃ g, (ofText writtenByAnn).result = .ok g ∧
    ∀ r, g.toNode.Asks (.book (.ofEntries (authoredPayload (.list [.text "Ann"])))) r →
      ¬r.Clashes (.book (.ofEntries (authoredPayload (.list [.text "Ann"])))) := by
  have hlisted : (match (ofText writtenByAnn).result with
    | .ok g => decide
        (g.verdict (.book (.ofEntries (authoredPayload (.list [.text "Ann"])))) = .ok true)
    | .error _ => false) = true := by decide +kernel
  split at hlisted
  · rename_i g hg
    exact ⟨g, hg, (payload_answered_iff hg _).1 ⟨true, of_decide_eq_true hlisted⟩⟩
  · cases hlisted

/-- A filter has no answer about a book whose authors are a boolean. -/
theorem payload_unanswered_boolean : ∃ g, (ofText writtenByAnn).result = .ok g ∧
    g.verdict (.book (.ofEntries (authoredPayload (.bool true)))) = .error (.notIterable "bool") := by
  have hboolean : (match (ofText writtenByAnn).result with
    | .ok g => decide (g.verdict (.book (.ofEntries (authoredPayload (.bool true)))) =
        .error (.notIterable "bool"))
    | .error _ => false) = true := by decide +kernel
  split at hboolean
  · rename_i g hg
    exact ⟨g, hg, of_decide_eq_true hboolean⟩
  · cases hboolean

end Group

end ShelfRules
