import ShelfRules.Proofs.OrdinaryFilters
import ShelfRules.Proofs.ResavedFilters
import ShelfRules.Value.Part

/-!
# Saving keeps the skeleton of a filter

An operand may be a simple value of any kind, whatever its field holds: a null, a boolean, a number inside
of the range of doubles, a text, a date or a timestamp on any clock, or a list of these. Its stored form
is a document, so a rule with such operands is read back as a rule, of the same field and operator, and
a tree as a tree with the same skeleton.

Results:
* `Value.stored_isDocument`, `Rule.document_isDocument`: the stored forms of simple operands are documents.
* `Node.Again.skeleton_eq`: a tree that is read back keeps its skeleton.
* `Group.skeleton_kept`: so does a filter that is saved and loaded.
-/

namespace ShelfRules

/-! ## Simple operands -/

namespace Value

/-- The value is no container and no state of reading, and an integer is inside of the range of
doubles. -/
def isSimple : Value → Bool
  | .null | .bool _ | .float _ | .text _ | .date _ | .stamp _ => true
  | .int n => (Double.ofInt? n).isSome
  | .list _ | .tuple _ | .object _ | .status _ => false

/-- The value is simple, or a kept list of simple values. -/
def isSimpleOrItems : Value → Bool
  | .tuple items => items.all isSimple
  | v => v.isSimple

variable {v : Value}

theorem isOrdinary_of_isSimple (h : v.isSimple = true) : v.isOrdinary = true := by
  cases v with
  | int n => exact h
  | list | tuple | object | status => cases h
  | _ => rfl

theorem stored_isDocument_of_isSimple (type : Option FieldType) (h : v.isSimple = true) :
    (v.stored type).isDocument = true := by
  have hdate : ∀ t, (storedDate type t).isDocument = true := by
    intro t
    obtain ⟨s, hs⟩ := storedDate_eq_text type t
    rw [hs]
    rfl
  cases v with
  | int n =>
    show (isJson (int n) && !isLongInteger n) = true
    rw [isLongInteger_of_ofInt? h]
    rfl
  | date d => exact hdate (.naive (.ofDate d))
  | stamp t => exact hdate t
  | list | tuple | object | status => cases h
  | _ => rfl

theorem isSimpleOrItems_cases (h : v.isSimpleOrItems = true) :
    v.isSimple = true ∨ ∃ items, v = .tuple items ∧ ∀ w ∈ items, w.isSimple = true := by
  cases v with
  | tuple items => exact .inr ⟨items, rfl, List.all_eq_true.1 h⟩
  | _ => exact .inl h

theorem isOrdinary_of_isSimpleOrItems (h : v.isSimpleOrItems = true) : v.isOrdinary = true := by
  rcases isSimpleOrItems_cases h with hsimple | ⟨items, rfl, hitems⟩
  · exact isOrdinary_of_isSimple hsimple
  · exact isOrdinary_list.2 fun w hw => isOrdinary_of_isSimple (hitems w hw)

theorem storedItems_eq_map (type : Option FieldType) (items : List Value) :
    storedItems type items = items.map (stored type) := by
  induction items with
  | nil => rfl
  | cons v rest ih => rw [storedItems, List.map_cons, ih]

/-- The stored form of simple operands is a document. -/
theorem stored_isDocument (type : Option FieldType) (h : v.isSimpleOrItems = true) :
    (v.stored type).isDocument = true := by
  rcases isSimpleOrItems_cases h with hsimple | ⟨items, rfl, hitems⟩
  · exact stored_isDocument_of_isSimple type hsimple
  · rw [stored, isDocument_list, storedItems_eq_map]
    exact List.forall_mem_map.2 fun w hw => stored_isDocument_of_isSimple type (hitems w hw)

end Value

namespace Rule

/-- The operands of the rule are simple, the value being one or a list of them. -/
def isSimple (r : Rule) : Bool := r.value.isSimpleOrItems && r.start.isSimple && r.finish.isSimple

variable {r : Rule}

theorem isOrdinary_of_isSimple (h : r.isSimple = true) : r.isOrdinary = true := by
  simp only [isSimple, Bool.and_eq_true] at h
  obtain ⟨⟨hvalue, hstart⟩, hfinish⟩ := h
  rw [isOrdinary, Value.isOrdinary_of_isSimpleOrItems hvalue, Value.isOrdinary_of_isSimple hstart,
    Value.isOrdinary_of_isSimple hfinish]
  rfl

theorem document_isDocument (h : r.isSimple = true) : r.document.isDocument = true := by
  simp only [isSimple, Bool.and_eq_true] at h
  obtain ⟨⟨hvalue, hstart⟩, hfinish⟩ := h
  have hvalue := Value.stored_isDocument r.field.type hvalue
  have hstart := Value.stored_isDocument_of_isSimple r.field.type hstart
  have hfinish := Value.stored_isDocument_of_isSimple r.field.type hfinish
  simp only [Value.isDocument, Bool.and_eq_true, Bool.not_eq_true'] at hvalue hstart hfinish
  simp [document, Value.isDocument, Value.isJson, Value.entriesAreJson, Value.holdsLongInteger,
    Value.anyEntryHoldsLongInteger, hvalue, hstart, hfinish]

/-- A rule with simple operands is read back, with the same field and operator. -/
theorem ofEntries?_of_isSimple (h : r.isSimple = true) :
    ∃ r', ofEntries? r.storedEntries = .ok r' ∧ r.SameTest r' := by
  refine ofEntries?_of_isOrdinary (isOrdinary_of_isSimple h) ?_
  have hdocument := document_isDocument h
  rw [Value.isDocument_eq, Bool.and_eq_true, Bool.not_eq_true'] at hdocument
  exact Value.withoutNulls_isDocument hdocument.1 hdocument.2

end Rule

/-! ## Skeletons -/

/-- What is left of a tree without the operands of its rules. -/
inductive Skeleton where
  | rule (field : FieldName) (operator : OperatorName) (complete : Bool)
  | group (name : Value) (join : Join) (children : List Skeleton)

namespace Node

mutual
/-- The skeleton of a node. -/
def skeleton : Node → Skeleton
  | rule r => .rule r.field r.operator r.isComplete
  | group name join children => .group name join (skeletons children)
/-- The skeletons of nodes. -/
def skeletons : List Node → List Skeleton
  | [] => []
  | node :: rest => node.skeleton :: skeletons rest
end

mutual
/-- A tree that is read back keeps its skeleton when its groups are named by texts. -/
theorem Again.skeleton_eq : ∀ {node node' : Node}, Again Rule.SameTest node node' →
    node.isNamed = true → node'.skeleton = node.skeleton
  | rule r, _, h, _ => by
    cases h with
    | rule h => rw [skeleton, skeleton, h.isComplete, h.1, h.2]
  | group name join children, _, h, hnamed => by
    obtain ⟨⟨s, rfl⟩, hchildren⟩ := isNamed_group hnamed
    cases h with
    | group h => rw [nameAgain_text, skeleton, skeleton, AllAgain.skeletons_eq h hchildren]
theorem AllAgain.skeletons_eq : ∀ {nodes nodes' : List Node},
    AllAgain Rule.SameTest nodes nodes' → areNamed nodes = true → skeletons nodes' = skeletons nodes
  | [], _, h, _ => by
    cases h
    rfl
  | node :: rest, _, h, hnamed => by
    obtain ⟨hnode, hrest⟩ := Bool.and_eq_true_iff.1 hnamed
    cases h with
    | cons h hs =>
      rw [skeletons, skeletons, Again.skeleton_eq h hnode, AllAgain.skeletons_eq hs hrest]
end

end Node

/-! ## Filters -/

namespace Group

/-- A filter whose groups are named by texts and whose operands are simple is read back from its stored form
with the same skeleton: the same names, joins and children, and for each rule the same field, operator
and completeness, whatever operands do not fit. -/
theorem skeleton_kept {g : Group} (hnamed : g.toNode.isNamed = true)
    (hsimple : ∀ r ∈ g.rules, r.isSimple = true) :
    ∃ g', ofDocument g.document = .ok g' ∧ g'.toNode.skeleton = g.toNode.skeleton := by
  obtain ⟨g', hread, hagain⟩ := again_of_rules fun r hr => Rule.ofEntries?_of_isSimple (hsimple r hr)
  exact ⟨g', hread, hagain.skeleton_eq hnamed⟩

/-- The start of the year 1 on a clock five hours ahead of UTC, in which there is no such moment. -/
def firstMidnight : Timestamp := ⟨.ofDate .first, Offset.of? 18000000000⟩

/-- A filter whose operands fit nothing: tags with a null among them, no number and an infinite one for
dates, and rules for an unknown field and for none. -/
def misfitted : Group := ⟨.text "", .any, [
  .rule ⟨.known .tags, .known .includesAny, .tuple [.text "new", .null], .stamp firstMidnight, .bool true,
    .set [.text "new"], rfl, rfl⟩,
  .group (.text "Dates") .all [
    .rule ⟨.known .publishedDate, .known .inBetween, .float .nan, .float .nan, .float (.infinite true),
      .range (.float .nan) (.float (.infinite true)), rfl, rfl⟩,
    .group (.text "") .any []],
  .rule ⟨.unknown "shelfmark" (by decide), .unknown "near" (by decide), .int 7, .null, .null,
    .scalar (.int 7) (.int 7), rfl, rfl⟩,
  .rule ⟨.unknown "" (by decide), .blank, .bool false, .null, .null,
    .scalar (.bool false) (.bool false), rfl, rfl⟩]⟩

theorem misfitted_kept : misfitted.toNode.isNamed = true ∧ (∀ r ∈ misfitted.rules, r.isSimple = true) ∧
    ∃ g', ofDocument misfitted.document = .ok g' ∧ g'.toNode.skeleton = misfitted.toNode.skeleton := by
  have hsimple : ∀ r ∈ misfitted.rules, r.isSimple = true := by decide +kernel
  exact ⟨rfl, hsimple, skeleton_kept rfl hsimple⟩

end Group

end ShelfRules
