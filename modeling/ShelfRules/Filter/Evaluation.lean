import ShelfRules.Book.Subject
import ShelfRules.Filter.Test
import ShelfRules.Filter.Tree

/-!
# Evaluation

Whether a record satisfies a filter. A rule asks its operator about the subject of its field; a group
combines the answers of its children from the left. A group without children that asks all of them
is satisfied, one that asks any is not.

Results:
* `Node.verdicts_eq_map`: the children of a group are asked one by one.
* `Rule.verdict_of_unknown`: a rule without a known operator holds for no record.
* `Group.count_map`, `Group.count_eq_length_places`: filtering and counting agree.
-/

namespace ShelfRules

/-- The answer of a rule about a record. -/
def Rule.verdict (r : Rule) (record : Record) : Verdict :=
  ((record.subject? r.field).bind Value.normalize?).bind fun subject =>
    r.operator.test? subject r.operand ((record.texts? r.field).map (·.map .text))

theorem Rule.verdict_of_unknown {r : Rule} {raw : String} {fresh : Operator.ofName? raw = none}
    (h : r.operator = .unknown raw fresh) (record : Record) : r.verdict record ≠ .ok true := by
  unfold verdict
  rw [h]
  cases (record.subject? r.field).bind Value.normalize? <;> simp [Except.bind,
    OperatorName.test?_unknown]

/-- The combination of the answers of children. -/
def Join.combine : Join → List Verdict → Verdict
  | .all => Verdict.all
  | .any => Verdict.any

namespace Node

mutual
/-- The answer of a node about a record. -/
def verdict (record : Record) : Node → Verdict
  | rule r => r.verdict record
  | group _ join children => join.combine (verdicts record children)
/-- The answers of nodes about a record. -/
def verdicts (record : Record) : List Node → List Verdict
  | [] => []
  | node :: rest => verdict record node :: verdicts record rest
end

theorem verdicts_eq_map (record : Record) (nodes : List Node) :
    verdicts record nodes = nodes.map (verdict record) := by
  induction nodes with
  | nil => rfl
  | cons node rest ih => simp only [verdicts, List.map_cons, ih]

end Node

namespace Group

/-- The answer of a filter about a record. -/
def verdict (g : Group) (record : Record) : Verdict := g.toNode.verdict record

/-- The items whose records satisfy a filter, in order, up to the first fault. -/
def filter {α : Type} (g : Group) (record : α → Record) : List α → Except Fault (List α)
  | [] => .ok []
  | a :: rest =>
    (g.verdict (record a)).bind fun holds =>
      (g.filter record rest).map fun found => if holds then a :: found else found

/-- The places of the records that satisfy a filter, counted from zero. -/
def places (g : Group) (records : List Record) : Except Fault (List Nat) :=
  (g.filter Prod.fst records.zipIdx).map (·.map Prod.snd)

/-- The number of records that satisfy a filter. -/
def count (g : Group) : List Record → Except Fault Nat
  | [] => .ok 0
  | record :: rest =>
    (g.verdict record).bind fun holds =>
      (g.count rest).map fun found => if holds then found + 1 else found

theorem count_map {α : Type} (g : Group) (record : α → Record) (items : List α) :
    g.count (items.map record) = (g.filter record items).map List.length := by
  induction items with
  | nil => rfl
  | cons a rest ih =>
    simp only [List.map_cons, count, filter, ih]
    cases g.verdict (record a) with
    | error f => rfl
    | ok holds =>
      cases g.filter record rest with
      | error f => rfl
      | ok found => cases holds <;> rfl

theorem count_eq_length_places (g : Group) (records : List Record) :
    g.count records = (g.places records).map List.length := by
  have h := g.count_map Prod.fst records.zipIdx
  rw [List.zipIdx_map_fst] at h
  rw [h, places]
  cases g.filter Prod.fst records.zipIdx with
  | error f => rfl
  | ok found => simp [Except.map]

end Group

end ShelfRules
