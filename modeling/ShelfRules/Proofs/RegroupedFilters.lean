import Mathlib.Logic.Relation
import ShelfRules.Proofs.DualFilters

/-!
# Filters in another layout

A group asks its children from the left and stops at the first answer that decides the matter, be it a
fault. A group inside another one with its join stops at the same place as its children would in the
group around it, so it may be dissolved into them: the answer stays, and a fault too. When no rule of a
tree has a fault nothing hides behind the order, and the answer is that of a boolean formula, in which
the children of a group may be moved and repeated.

Results:
* `Join.combine_append_cons`: the answers of a group inside another one, or the answer of the group.
* `Node.verdict_of_dissolves`: dissolving groups keeps the answer, faults included.
* `Node.verdict_eq_holds`: without faults the answer is that of the formula.
* `Node.holds_of_rearranges`: the formula does not depend on the order and on repetitions.
* `Group.layout_kept`: all of it, for filters.
-/

namespace ShelfRules

open Relation (ReflTransGen)

/-! ## Combinations -/

namespace Join

theorem combine_append (join : Join) (vs ws : List Verdict) :
    join.combine (vs ++ ws) = join.combine (join.combine vs :: ws) := by
  cases join with
  | all => exact Verdict.all_append vs ws
  | any => exact Verdict.any_append vs ws

theorem combine_cons_congr (join : Join) (v : Verdict) {vs ws : List Verdict}
    (h : join.combine vs = join.combine ws) : join.combine (v :: vs) = join.combine (v :: ws) := by
  cases join with
  | all =>
    rcases v with f | _ | _
    · rfl
    · rfl
    · exact h
  | any =>
    rcases v with f | _ | _
    · rfl
    · exact h
    · rfl

/-- Behind answers that leave the matter open, the answers of a group count like its children's. -/
theorem combine_append_cons (join : Join) (vs us ws : List Verdict) :
    join.combine (vs ++ join.combine us :: ws) = join.combine (vs ++ (us ++ ws)) := by
  induction vs with
  | nil => exact (join.combine_append us ws).symm
  | cons v rest ih => exact join.combine_cons_congr v ih

/-- The truth of a formula: of a conjunction, or of a disjunction. -/
def holds : Join → List Bool → Bool
  | .all, bs => bs.all id
  | .any, bs => bs.any id

theorem combine_ok (join : Join) (bs : List Bool) :
    join.combine (bs.map .ok) = .ok (join.holds bs) := by
  cases join with
  | all => exact Verdict.all_ok bs
  | any => exact Verdict.any_ok bs

/-- The truth depends on which truths there are among the parts, not on their order and number. -/
theorem holds_congr (join : Join) {bs cs : List Bool} (h : ∀ b, b ∈ bs ↔ b ∈ cs) :
    join.holds bs = join.holds cs := by
  rw [Bool.eq_iff_iff]
  cases join with
  | all => simp only [holds, List.all_eq_true, h]
  | any => simp only [holds, List.any_eq_true, h]

end Join

namespace Node

/-! ## Dissolved groups -/

/-- In the second tree the children of one group, which has the join of the group around it, stand in
the place of that group. -/
inductive Dissolves : Node → Node → Prop
  | here {name inner : Value} {join : Join} {before children after : List Node} :
      Dissolves (group name join (before ++ group inner join children :: after))
        (group name join (before ++ (children ++ after)))
  | inside {name : Value} {join : Join} {before after : List Node} {node node' : Node} :
      Dissolves node node' →
      Dissolves (group name join (before ++ node :: after))
        (group name join (before ++ node' :: after))

theorem verdicts_append (record : Record) (nodes rest : List Node) :
    verdicts record (nodes ++ rest) = verdicts record nodes ++ verdicts record rest := by
  simp only [verdicts_eq_map, List.map_append]

theorem verdict_of_dissolves_step {node node' : Node} (h : Dissolves node node') (record : Record) :
    node'.verdict record = node.verdict record := by
  induction h with
  | here => simp only [verdict, verdicts_append, verdicts, Join.combine_append_cons]
  | inside _ ih => simp only [verdict, verdicts_append, verdicts, ih]

/-- Dissolving groups, as many as there are and wherever they stand, keeps the answer of a tree, and
its fault when it has no answer. -/
theorem verdict_of_dissolves {node node' : Node} (h : ReflTransGen Dissolves node node')
    (record : Record) : node'.verdict record = node.verdict record := by
  induction h with
  | refl => rfl
  | tail _ hstep ih => exact (verdict_of_dissolves_step hstep record).trans ih

/-! ## Formulas -/

mutual
/-- The boolean formula that a tree is, for given truths of its rules: a group is the conjunction of
its children, or their disjunction. -/
def holds (truth : Rule → Bool) : Node → Bool
  | rule r => truth r
  | group _ join children => join.holds (truths truth children)
/-- The truths of nodes. -/
def truths (truth : Rule → Bool) : List Node → List Bool
  | [] => []
  | node :: rest => node.holds truth :: truths truth rest
end

theorem truths_eq_map (truth : Rule → Bool) (nodes : List Node) :
    truths truth nodes = nodes.map (holds truth) := by
  induction nodes with
  | nil => rfl
  | cons node rest ih => rw [truths, List.map_cons, ih]

mutual
/-- A tree whose rules have answers has the answer of its formula. -/
theorem verdict_eq_holds {record : Record} {truth : Rule → Bool} : ∀ {node : Node},
    (∀ r ∈ node.rules, r.verdict record = .ok (truth r)) →
      node.verdict record = .ok (node.holds truth)
  | rule r, h => h r (List.mem_singleton_self r)
  | group name join children, h => by
    rw [verdict, verdicts_eq_truths h, holds, join.combine_ok]
theorem verdicts_eq_truths {record : Record} {truth : Rule → Bool} : ∀ {nodes : List Node},
    (∀ r ∈ rulesOf nodes, r.verdict record = .ok (truth r)) →
      verdicts record nodes = (truths truth nodes).map .ok
  | [], _ => rfl
  | node :: rest, h => by
    have hnode := verdict_eq_holds fun r hr => h r (List.mem_append_left _ hr)
    have hrest := verdicts_eq_truths fun r hr => h r (List.mem_append_right _ hr)
    rw [verdicts, truths, List.map_cons, hnode, hrest]
end

/-! ## Rearranged children -/

/-- In the second tree the children of one group stand in another order, or one of them is repeated. -/
inductive Rearranges : Node → Node → Prop
  | permuted {name : Value} {join : Join} {children nodes : List Node} : children.Perm nodes →
      Rearranges (group name join children) (group name join nodes)
  | repeated {name : Value} {join : Join} {before after : List Node} {node : Node} :
      node ∈ before ++ after →
      Rearranges (group name join (before ++ after)) (group name join (before ++ node :: after))
  | inside {name : Value} {join : Join} {before after : List Node} {node node' : Node} :
      Rearranges node node' →
      Rearranges (group name join (before ++ node :: after))
        (group name join (before ++ node' :: after))

/-- The children of a group that is permuted, or in which a child is repeated, are the same ones. -/
theorem mem_repeated {before after : List Node} {node : Node} (h : node ∈ before ++ after)
    (other : Node) : other ∈ before ++ node :: after ↔ other ∈ before ++ after := by
  rw [List.mem_append, List.mem_cons, List.mem_append]
  constructor
  · rintro (hother | rfl | hother)
    · exact .inl hother
    · exact List.mem_append.1 h
    · exact .inr hother
  · rintro (hother | hother)
    · exact .inl hother
    · exact .inr (.inr hother)

theorem holds_group_congr (truth : Rule → Bool) {name : Value} (join : Join)
    {children nodes : List Node} (h : ∀ node, node ∈ nodes ↔ node ∈ children) :
    (group name join nodes).holds truth = (group name join children).holds truth := by
  rw [holds, holds, truths_eq_map, truths_eq_map]
  refine join.holds_congr fun b => ?_
  simp only [List.mem_map, h]

theorem holds_of_rearranges_step {node node' : Node} (h : Rearranges node node')
    (truth : Rule → Bool) : node'.holds truth = node.holds truth := by
  induction h with
  | permuted hperm => exact holds_group_congr truth _ fun node => hperm.mem_iff.symm
  | repeated hmem => exact holds_group_congr truth _ (mem_repeated hmem)
  | inside _ ih => simp only [holds, truths_eq_map, List.map_append, List.map_cons, ih]

theorem mem_rulesOf {nodes : List Node} {r : Rule} :
    r ∈ rulesOf nodes ↔ ∃ node ∈ nodes, r ∈ node.rules := by
  induction nodes with
  | nil => simp [rulesOf]
  | cons node rest ih => simp [rulesOf, ih]

/-- Rearranging keeps the rules of a tree. -/
theorem mem_rules_of_rearranges_step {node node' : Node} (h : Rearranges node node') (r : Rule) :
    r ∈ node'.rules ↔ r ∈ node.rules := by
  induction h with
  | permuted hperm => simp only [rules, mem_rulesOf, hperm.mem_iff]
  | repeated hmem => simp only [rules, mem_rulesOf, mem_repeated hmem]
  | inside _ ih =>
    simp only [rules, mem_rulesOf, List.mem_append, List.mem_cons, or_and_right, exists_or,
      exists_eq_left, ih]

/-- Moving and repeating the children of groups keeps the formula of a tree and its rules. -/
theorem holds_of_rearranges {node node' : Node} (h : ReflTransGen Rearranges node node') :
    (∀ truth, node'.holds truth = node.holds truth) ∧ ∀ r, r ∈ node'.rules ↔ r ∈ node.rules := by
  induction h with
  | refl => exact ⟨fun _ => rfl, fun _ => Iff.rfl⟩
  | tail _ hstep ih =>
    obtain ⟨hholds, hrules⟩ := ih
    refine ⟨fun truth => ?_, fun r => ?_⟩
    · exact (holds_of_rearranges_step hstep truth).trans (hholds truth)
    · exact (mem_rules_of_rearranges_step hstep r).trans (hrules r)

end Node

/-! ## Filters -/

/-- The rule holds for the record. -/
def Rule.holdsFor (record : Record) (r : Rule) : Bool := decide (r.verdict record = .ok true)

theorem Rule.verdict_eq_holdsFor {record : Record} {r : Rule} (h : ¬Fails (r.verdict record)) :
    r.verdict record = .ok (r.holdsFor record) := by
  obtain ⟨answer, hanswer⟩ := not_fails_iff.1 h
  cases answer <;> simp [holdsFor, hanswer]

namespace Group

/-- Dissolving groups keeps the answer of a filter about a record, and its fault. When no rule of the
filter has a fault, the answer is that of its formula, and moving and repeating the children of groups
keeps it. -/
theorem layout_kept (g : Group) (record : Record) :
    (∀ g' : Group, ReflTransGen Node.Dissolves g.toNode g'.toNode →
      g'.verdict record = g.verdict record) ∧
    ((∀ r ∈ g.rules, ¬Fails (r.verdict record)) →
      (∀ g' : Group, ReflTransGen Node.Rearranges g.toNode g'.toNode →
        g'.verdict record = g.verdict record) ∧
      g.verdict record = .ok (g.toNode.holds (Rule.holdsFor record))) := by
  refine ⟨fun g' h => Node.verdict_of_dissolves h record, fun hanswered => ?_⟩
  have hformula : g.verdict record = .ok (g.toNode.holds (Rule.holdsFor record)) :=
    Node.verdict_eq_holds fun r hr => Rule.verdict_eq_holdsFor (hanswered r hr)
  refine ⟨fun g' h => ?_, hformula⟩
  obtain ⟨hholds, hrules⟩ := Node.holds_of_rearranges h
  have hother : g'.verdict record = .ok (g'.toNode.holds (Rule.holdsFor record)) :=
    Node.verdict_eq_holds fun r hr => Rule.verdict_eq_holdsFor (hanswered r ((hrules r).1 hr))
  rw [hother, hholds, hformula]

/-- The rule for books whose title has a name. -/
def namedSanditon : Rule := ⟨.known .title, .known .contains, .text "Sanditon", .null, .null,
  .scalar (.text "Sanditon") (.text "sanditon"), rfl, rfl⟩

/-- The rule for books of unknown authors. -/
def unsigned : Rule := ⟨.known .authors, .known .isEmpty, .text "Anonymous", .null, .null,
  .scalar (.text "Anonymous") (.text "anonymous"), rfl, rfl⟩

/-- The rule for books that are tagged as new. -/
def taggedNew : Rule := ⟨.known .tags, .known .includesAny, .text "New", .null, .null,
  .set [.text "new"], rfl, rfl⟩

/-- A filter for books that meet one of the three rules, two of which stand in a group of their own. -/
def nestedChoice : Group := ⟨.text "", .any, [
  .group (.text "Title or authors") .any [.rule namedSanditon, .rule unsigned], .rule taggedNew]⟩

/-- The filter without the inner group. -/
def plainChoice : Group := ⟨.text "", .any, [.rule namedSanditon, .rule unsigned, .rule taggedNew]⟩

/-- The filter with a rule that is asked twice, and with its inner group behind it. -/
def movedChoice : Group := ⟨.text "", .any, [
  .rule taggedNew, .group (.text "Title or authors") .any [.rule namedSanditon, .rule unsigned,
    .rule namedSanditon]]⟩

/-- The filter without its inner group meets the same fault, where the authors are no list; and where
they are listed the filter that is moved about has the answer of the formula. -/
theorem nestedChoice_layout_kept :
    ReflTransGen Node.Dissolves nestedChoice.toNode plainChoice.toNode ∧
    ReflTransGen Node.Rearranges nestedChoice.toNode movedChoice.toNode ∧
    (∀ r ∈ nestedChoice.rules, ¬Fails (r.verdict (titledBook "Ulysses" (.list [])))) ∧
    plainChoice.verdict (titledBook "Ulysses" (.bool true)) = .error (.notIterable "bool") ∧
    movedChoice.verdict (titledBook "Ulysses" (.list [])) = .ok true := by
  have hplain : ReflTransGen Node.Dissolves nestedChoice.toNode plainChoice.toNode :=
    .single (@Node.Dissolves.here _ _ _ [] [.rule namedSanditon, .rule unsigned] [.rule taggedNew])
  have hrepeated : Node.Rearranges (.group (.text "Title or authors") .any
        [.rule namedSanditon, .rule unsigned])
      (.group (.text "Title or authors") .any
        [.rule namedSanditon, .rule unsigned, .rule namedSanditon]) :=
    @Node.Rearranges.repeated _ _ [.rule namedSanditon, .rule unsigned] [] _ List.mem_cons_self
  have hmoved : ReflTransGen Node.Rearranges nestedChoice.toNode movedChoice.toNode :=
    .tail (.single (@Node.Rearranges.inside _ _ [] [.rule taggedNew] _ _ hrepeated))
      (.permuted (.swap _ _ []))
  have hanswered : ∀ r ∈ nestedChoice.rules,
      ¬Fails (r.verdict (titledBook "Ulysses" (.list []))) := by
    have hanswers : ∀ r ∈ nestedChoice.rules, r.verdict (titledBook "Ulysses" (.list [])) =
        .ok (r.holdsFor (titledBook "Ulysses" (.list []))) := by decide +kernel
    intro r hr hfails
    rw [hanswers r hr] at hfails
    exact fails_ok _ hfails
  refine ⟨hplain, hmoved, hanswered, ?_, ?_⟩
  · rw [(layout_kept nestedChoice _).1 plainChoice hplain]
    decide +kernel
  · rw [((layout_kept nestedChoice _).2 hanswered).1 movedChoice hmoved,
      ((layout_kept nestedChoice _).2 hanswered).2]
    decide +kernel

end Group

end ShelfRules
