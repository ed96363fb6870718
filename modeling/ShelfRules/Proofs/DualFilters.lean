import ShelfRules.Filter.Evaluation
import ShelfRules.Proofs.WrittenFilters

/-!
# Dual filters

Eight of the operators come in pairs, of which one answers the opposite of the other. When all rules
of a filter ask such operators, its dual asks the other of each pair and joins its groups the other
way. The dual answers the opposite, and about a record that has no answer it has the same fault: the
two decide the matter at the same child.

Results:
* `Operand.build?_opposite`: the operators of a pair make the same operand.
* `Operator.test?_opposite`: they answer the opposite of each other.
* `Node.dual_verdict`, `Group.dual_answers_opposite`: a dual tree answers the opposite of the tree.
* `Group.dual_dual`: the dual of the dual is the filter.
-/

namespace ShelfRules

/-! ## Pairs of operators -/

namespace Operator

/-- The other operator of a pair; an operator without one is kept. -/
def opposite : Operator → Operator
  | .equals => .notEquals
  | .notEquals => .equals
  | .contains => .doesNotContain
  | .doesNotContain => .contains
  | .isEmpty => .isNotEmpty
  | .isNotEmpty => .isEmpty
  | .includesAny => .excludesAll
  | .excludesAll => .includesAny
  | operator => operator

/-- The operator belongs to a pair. -/
def isPaired (operator : Operator) : Bool := operator.opposite != operator

theorem opposite_opposite (operator : Operator) : operator.opposite.opposite = operator := by
  cases operator <;> rfl

/-- The operators of a pair answer the opposite of each other, whatever the value and the operand
are. -/
theorem test?_opposite {operator : Operator} (h : operator.isPaired = true) (subject : Value)
    (operand : Operand) (set : Except Fault (List Value)) :
    operator.opposite.test? subject operand set = (operator.test? subject operand set).not := by
  cases operator with
  | equals => exact operand.differs?_eq subject
  | notEquals =>
    rw [test?, operand.differs?_eq, Verdict.not_not]
    rfl
  | contains => exact operand.relates?_negated _ subject
  | doesNotContain =>
    rw [test?, operand.relates?_negated, Verdict.not_not]
    rfl
  | isEmpty => exact congrArg Except.ok subject.isFilled_eq
  | isNotEmpty =>
    rw [test?, subject.isFilled_eq, Verdict.not, Bool.not_not]
    rfl
  | includesAny => exact operand.misses?_eq set
  | excludesAll =>
    rw [test?, operand.misses?_eq, Verdict.not_not]
    rfl
  | _ => cases h

end Operator

namespace OperatorName

/-- The other operator of a pair; any other name is kept. -/
def opposite : OperatorName → OperatorName
  | .known operator => .known operator.opposite
  | name => name

/-- The operator of a pair is named. -/
def isPaired : OperatorName → Bool
  | .known operator => operator.isPaired
  | .unknown .. => false

theorem opposite_opposite (name : OperatorName) : name.opposite.opposite = name := by
  cases name with
  | known operator => exact congrArg known operator.opposite_opposite
  | unknown raw fresh => rfl

theorem test?_opposite {name : OperatorName} (h : name.isPaired = true) (subject : Value)
    (operand : Operand) (set : Except Fault (List Value)) :
    name.opposite.test? subject operand set = (name.test? subject operand set).not := by
  cases name with
  | known operator => exact Operator.test?_opposite h subject operand set
  | unknown raw fresh => cases h

end OperatorName

theorem Operand.build?_opposite (name : OperatorName) (value start finish : Value) :
    build? name.opposite value start finish = build? name value start finish := by
  cases name with
  | known operator => cases operator <;> rfl
  | unknown raw fresh => rfl

/-! ## Dual rules -/

namespace Rule

/-- The rule that asks the other operator of a pair. -/
def dual (r : Rule) : Rule where
  __ := r
  operator := r.operator.opposite
  operand_eq := (Operand.build?_opposite r.operator _ _ _).trans r.operand_eq

theorem dual_dual (r : Rule) : r.dual.dual = r :=
  ext_values rfl r.operator.opposite_opposite rfl rfl rfl

/-- A rule and its dual read the same subject, and have the same fault when it cannot be read. -/
theorem dual_verdict {r : Rule} (h : r.operator.isPaired = true) (record : Record) :
    r.dual.verdict record = (r.verdict record).not := by
  simp only [verdict, dual]
  cases (record.subject? r.field).bind Value.normalize? with
  | error f => rfl
  | ok subject => exact OperatorName.test?_opposite h subject _ _

end Rule

/-! ## Dual trees -/

namespace Join

/-- The other join. -/
def dual : Join → Join
  | .all => .any
  | .any => .all

theorem dual_dual (join : Join) : join.dual.dual = join := by
  cases join <;> rfl

/-- The opposite answers combine to the opposite under the other join: the first answer that decides
the matter under one of them is the first to decide it under the other. -/
theorem dual_combine (join : Join) (vs : List Verdict) :
    join.dual.combine (vs.map Verdict.not) = (join.combine vs).not := by
  cases join with
  | all => exact (Verdict.not_all vs).symm
  | any => exact (Verdict.not_any vs).symm

end Join

namespace Node

mutual
/-- The tree with the other operator in every rule and the other join in every group. -/
def dual : Node → Node
  | rule r => rule r.dual
  | group name join children => group name join.dual (duals children)
/-- The dual trees of several. -/
def duals : List Node → List Node
  | [] => []
  | node :: rest => node.dual :: duals rest
end

mutual
theorem dual_dual : ∀ node : Node, node.dual.dual = node
  | rule r => congrArg rule r.dual_dual
  | group name join children => by
    rw [dual, dual, join.dual_dual, duals_duals children]
theorem duals_duals : ∀ nodes : List Node, duals (duals nodes) = nodes
  | [] => rfl
  | node :: rest => by
    rw [duals, duals, dual_dual node, duals_duals rest]
end

mutual
/-- The dual of a tree answers the opposite of the tree. -/
theorem dual_verdict (record : Record) : ∀ {node : Node},
    (∀ r ∈ node.rules, r.operator.isPaired = true) →
      node.dual.verdict record = (node.verdict record).not
  | rule r, h => by
    rw [dual, verdict, verdict, Rule.dual_verdict (h r (List.mem_singleton_self r))]
  | group name join children, h => by
    rw [dual, verdict, verdict, duals_verdicts record h, join.dual_combine]
theorem duals_verdicts (record : Record) : ∀ {nodes : List Node},
    (∀ r ∈ rulesOf nodes, r.operator.isPaired = true) →
      verdicts record (duals nodes) = (verdicts record nodes).map Verdict.not
  | [], _ => rfl
  | node :: rest, h => by
    have hnode := dual_verdict record fun r hr => h r (List.mem_append_left _ hr)
    have hrest := duals_verdicts record fun r hr => h r (List.mem_append_right _ hr)
    rw [duals, verdicts, verdicts, List.map_cons, hnode, hrest]
end

end Node

/-! ## Dual filters -/

namespace Group

/-- The filter with the other operator in every rule and the other join in every group. -/
def dual (g : Group) : Group := ⟨g.name, g.join.dual, Node.duals g.children⟩

theorem dual_dual (g : Group) : g.dual.dual = g := by
  obtain ⟨name, join, children⟩ := g
  simp only [dual, Join.dual_dual, Node.duals_duals]

/-- The dual of a filter answers the opposite of the filter, and has its fault when it has no
answer. -/
theorem dual_answers_opposite {g : Group} (h : ∀ r ∈ g.rules, r.operator.isPaired = true)
    (record : Record) : g.dual.verdict record = (g.verdict record).not :=
  Node.dual_verdict record h

/-- A filter for books whose title has a name and whose subtitle is not that name, for books with
one of two tags, and for books of unknown authors. -/
def namedOrTagged : Group := ⟨.text "Named or tagged", .any, [
  .group (.text "") .all [
    .rule ⟨.known .title, .known .contains, .text "Emma", .null, .null,
      .scalar (.text "Emma") (.text "emma"), rfl, rfl⟩,
    .rule ⟨.known .subtitle, .known .notEquals, .text "Emma", .null, .null,
      .scalar (.text "Emma") (.text "emma"), rfl, rfl⟩],
  .rule ⟨.known .tags, .known .includesAny, .tuple [.text "New", .bool true], .null, .null,
    .set [.text "new", .text "true"], rfl, rfl⟩,
  .rule ⟨.known .authors, .known .isEmpty, .text "", .null, .null, .scalar (.text "") (.text ""),
    rfl, rfl⟩]⟩

/-- The book of a title and of the authors that a value lists. -/
def titledBook (title : String) (authors : Value) : Record :=
  .book (.ofEntries [("metadata", .object [("title", .text title), ("authors", authors)])])

/-- Of a book with the title and of one whose authors are not listed the dual tells the opposite. -/
theorem namedOrTagged_dual : (∀ r ∈ namedOrTagged.rules, r.operator.isPaired = true) ∧
    namedOrTagged.dual.verdict (titledBook "Emma" (.list [])) = .ok false ∧
      namedOrTagged.dual.verdict (titledBook "Ulysses" (.bool true)) =
        .error (.notIterable "bool") := by
  have hpaired : ∀ r ∈ namedOrTagged.rules, r.operator.isPaired = true := by decide
  refine ⟨hpaired, ?_, ?_⟩
  · rw [dual_answers_opposite hpaired]
    decide +kernel
  · rw [dual_answers_opposite hpaired]
    decide +kernel

end Group

end ShelfRules
