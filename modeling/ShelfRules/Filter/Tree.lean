import ShelfRules.Filter.Rule
import ShelfRules.Notice
import ShelfRules.Value.Equality

/-!
# Filters

A filter is a tree: its leaves are rules, its inner nodes are groups, which ask all or any of their
children to hold.

Results:
* `Join.ofName?_name`: a join is found by its name.
* `Node.anyHasCompleteRule_eq_any`: one of the nodes has a complete rule.
-/

namespace ShelfRules

/-! ## Joins -/

/-- How many children of a group have to hold: all of them, or one. -/
inductive Join where
  | all
  | any
deriving DecidableEq, Repr

namespace Join

/-- The two joins, in the order in which they are listed. -/
def list : List Join := [.all, .any]

/-- The name of a join. -/
def name : Join → String
  | .all => "and"
  | .any => "or"

/-- The join with a name. -/
def ofName? (s : String) : Option Join := list.find? fun join => join.name == s

/-- All children are asked to hold, and the value that names no join is told. -/
def unknown (v : Value) : Report Join :=
  (Report.note .warning .filters s!"Unknown join {String.ofList v.literal}, using AND").bind
    fun _ => .ok .all

/-- The join that a value names in any case, null naming the first one. -/
def ofValue : Value → Report Join
  | .null => .ok .all
  | .text s =>
    match ofName? (Text.lowered s) with
    | some join => .ok join
    | none => unknown (.text s)
  | v => unknown v

theorem ofName?_name (join : Join) : ofName? join.name = some join := by
  cases join <;> rfl

end Join

/-! ## Trees -/

/-- A node of a filter. -/
inductive Node where
  | rule (r : Rule)
  | group (name : Value) (join : Join) (children : List Node)

/-- The root of a filter. -/
structure Group where
  name : Value
  join : Join
  children : List Node

namespace Group

/-- The group as a node. -/
def toNode (g : Group) : Node := .group g.name g.join g.children

/-- The group without a name that asks nothing. -/
def empty : Group := ⟨.text "", .all, []⟩

end Group

namespace Node

/-- The group that a node is. -/
def group? : Node → Option Group
  | rule _ => none
  | group name join children => some ⟨name, join, children⟩

mutual
/-- There is a rule with field and operator in the node. -/
def hasCompleteRule : Node → Bool
  | rule r => r.isComplete
  | group _ _ children => anyHasCompleteRule children
/-- There is such a rule in one of the nodes. -/
def anyHasCompleteRule : List Node → Bool
  | [] => false
  | node :: rest => node.hasCompleteRule || anyHasCompleteRule rest
end

mutual
/-- The two nodes are of one shape, with the same names and joins and the same values. -/
def same : Node → Node → Bool
  | rule r, rule s =>
    r.field == s.field && r.operator == s.operator && r.value.same s.value &&
      r.start.same s.start && r.finish.same s.finish
  | group name join children, group name' join' children' =>
    name.same name' && join == join' && sameAll children children'
  | _, _ => false
/-- The nodes of two lists are the same in the same order. -/
def sameAll : List Node → List Node → Bool
  | [], [] => true
  | a :: as, b :: bs => same a b && sameAll as bs
  | _, _ => false
end

theorem anyHasCompleteRule_eq_any (nodes : List Node) :
    anyHasCompleteRule nodes = nodes.any hasCompleteRule := by
  induction nodes with
  | nil => rfl
  | cons node rest ih => simp only [anyHasCompleteRule, List.any_cons, ih]

end Node

namespace Group

/-- There is a rule with field and operator in the tree. -/
def hasCompleteRule (g : Group) : Bool := Node.anyHasCompleteRule g.children

end Group

end ShelfRules
