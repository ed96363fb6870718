import ShelfRules.Proofs.BrokenShelves

/-!
# Well-formed documents

A stored node is well-formed when each group in it, an object with the key `rules` or of the type of a
group, lists its children or has none; any other object is a rule, whatever its entries are. A document
of JSON whose integers are inside of the range of doubles is read as a filter exactly when it is a group
of well-formed nodes, and refused otherwise. The tree that is read mirrors the document, node by node.

Results:
* `Node.isGroup_iff`, `Join.result_ofValue`, `Node.childrenOf_eq`: what a group is, and its join and children.
* `Node.mirrors_of_read`: a node that is read mirrors its document.
* `Node.isRead_of_wellFormed`: a well-formed node is read.
* `Group.wellFormed_read`: a document is read exactly when it is a group of well-formed nodes.
-/

namespace ShelfRules

/-! ## Groups in documents -/

/-- The join that a value asks for: any when it is its name in any case, and all otherwise. -/
def Join.askedBy : Value → Join
  | .text s => if Text.lowered s = "or" then .any else .all
  | _ => .all

theorem Join.result_ofValue (v : Value) : (ofValue v).result = .ok (askedBy v) := by
  cases v with
  | text s =>
    rw [ofValue, askedBy]
    by_cases hor : Text.lowered s = "or"
    · rw [if_pos hor, hor]
      rfl
    · rw [if_neg hor]
      by_cases hand : Text.lowered s = "and"
      · rw [hand]
        rfl
      · have hnone : ofName? (Text.lowered s) = none := by
          simp [ofName?, list, name, Ne.symm hor, Ne.symm hand]
        rw [hnone]
        rfl
  | _ => rfl

namespace Node

/-- The entries are those of a group: there is the key of the children, or the type of a group. -/
def OfGroup (entries : Entries) : Prop :=
  entries.has "rules" = true ∨ entries.get "type" = .text "group"

theorem isGroup_iff {entries : Entries} : isGroup entries = true ↔ OfGroup entries := by
  rw [isGroup, OfGroup, Bool.or_eq_true]
  refine or_congr_right ?_
  cases entries.get "type" <;> simp

/-- The children in the entries of a group: those in its list, or none when there is no key. -/
def children? (entries : Entries) : Option (List Value) :=
  match entries.lookup "rules" with
  | none => some []
  | some (.list items) => some items
  | some _ => none

theorem children?_cons (k : String) (v : Value) (rest : Entries) : children? ((k, v) :: rest) =
    if k = "rules" then match v with | .list items => some items | _ => none else children? rest := by
  rw [children?, List.lookup_cons]
  by_cases h : k = "rules"
  · subst h
    simp only [BEq.rfl, if_true]
    cases v <;> rfl
  · rw [beq_false_of_ne (Ne.symm h), if_neg h]
    rfl

theorem get_rules {entries : Entries} {items : List Value} (h : children? entries = some items) :
    items = [] ∨ entries.get "rules" = .list items := by
  unfold children? at h
  rw [Entries.get]
  split at h
  · exact .inl (Option.some.inj h).symm
  · rename_i hrules
    rw [hrules, Option.some.inj h]
    exact .inr rfl
  · cases h

/-- The children of a group are the nodes of its list. -/
theorem childrenOf_eq {entries : Entries} {items : List Value} (h : children? entries = some items) :
    childrenOf entries = ofItems items := by
  induction entries with
  | nil =>
    obtain rfl := Option.some.inj h
    rfl
  | cons e rest ih =>
    obtain ⟨k, v⟩ := e
    rw [children?_cons] at h
    rw [childrenOf]
    split
    · rename_i hk
      rw [if_pos hk] at h
      cases v with
      | list =>
        obtain rfl := Option.some.inj h
        rfl
      | _ => cases h
    · rename_i hk
      rw [if_neg hk] at h
      exact ih h

theorem result_groupOf (entries : Entries) (children : List Node) :
    (groupOf entries children).result =
      .ok ⟨Group.nameOf entries, Join.askedBy (entries.get "join"), children⟩ := by
  rw [groupOf, Report.bind_result, Join.result_ofValue]
  rfl

/-! ## Well-formed nodes -/

/-- The stored node is an object, and each group in it lists its children or has none. -/
inductive IsWellFormed : Value → Prop
  | rule {entries : Entries} : ¬OfGroup entries → IsWellFormed (.object entries)
  | group {entries : Entries} {items : List Value} : OfGroup entries →
      children? entries = some items → (∀ v ∈ items, IsWellFormed v) → IsWellFormed (.object entries)

mutual
/-- The node is of the kind of the stored one: a rule for a rule, which it is read from, and a group for
a group, with a node for each child in order. -/
inductive Mirrors : Value → Node → Prop
  | rule {entries : Entries} {r : Rule} : ¬OfGroup entries → Rule.ofEntries? entries = .ok r →
      Mirrors (.object entries) (.rule r)
  | group {entries : Entries} {items : List Value} {nodes : List Node} : OfGroup entries →
      children? entries = some items → MirrorsAll items nodes →
      Mirrors (.object entries)
        (.group (Group.nameOf entries) (Join.askedBy (entries.get "join")) nodes)
/-- The nodes are of the kinds of the stored ones, one by one. -/
inductive MirrorsAll : List Value → List Node → Prop
  | nil : MirrorsAll [] []
  | cons {v : Value} {rest : List Value} {node : Node} {nodes : List Node} : Mirrors v node →
      MirrorsAll rest nodes → MirrorsAll (v :: rest) (node :: nodes)
end

mutual
theorem Mirrors.isWellFormed : ∀ {v : Value} {node : Node}, Mirrors v node → IsWellFormed v
  | _, _, .rule h _ => .rule h
  | _, _, .group h hitems hall => .group h hitems hall.areWellFormed
theorem MirrorsAll.areWellFormed : ∀ {items : List Value} {nodes : List Node},
    MirrorsAll items nodes → ∀ v ∈ items, IsWellFormed v
  | _, _, .nil => List.forall_mem_nil _
  | _, _, .cons h hall => List.forall_mem_cons.2 ⟨h.isWellFormed, hall.areWellFormed⟩
end

/-! ## Reading -/

mutual
/-- A node that is read mirrors its document. -/
theorem mirrors_of_read : ∀ {v : Value} {node : Node}, (ofDocument v).result = .ok node →
    Mirrors v node
  | .object entries, node, h => by
    rw [ofDocument] at h
    split at h
    · rename_i hgroup
      obtain ⟨nodes, hnodes, h⟩ := Report.bind_eq_ok h
      rw [Report.bind_result, result_groupOf] at h
      obtain ⟨items, hitems, hall⟩ := mirrorsAll_of_children hnodes
      cases h
      exact .group (isGroup_iff.1 hgroup) hitems hall
    · rename_i hrule
      obtain ⟨r, hr, h⟩ := Report.bind_eq_ok h
      cases h
      exact .rule (mt isGroup_iff.2 hrule) hr
  | .null, _, h | .bool _, _, h | .int _, _, h | .float _, _, h | .text _, _, h | .list _, _, h
  | .tuple _, _, h | .date _, _, h | .stamp _, _, h | .status _, _, h => nomatch h
theorem mirrorsAll_of_children : ∀ {entries : List (String × Value)} {nodes : List Node},
    (childrenOf entries).result = .ok nodes →
      ∃ items, children? entries = some items ∧ MirrorsAll items nodes
  | [], _, h => by
    cases h
    exact ⟨[], rfl, .nil⟩
  | (k, v) :: rest, nodes, h => by
    rw [childrenOf] at h
    rw [children?_cons]
    split at h
    · obtain ⟨items, rfl, hall⟩ := mirrorsAll_of_list h
      exact ⟨items, by simp [*], hall⟩
    · rename_i hk
      rw [if_neg hk]
      exact mirrorsAll_of_children h
theorem mirrorsAll_of_list : ∀ {v : Value} {nodes : List Node}, (ofList v).result = .ok nodes →
    ∃ items, v = .list items ∧ MirrorsAll items nodes
  | .list items, _, h => ⟨items, rfl, mirrorsAll_of_items h⟩
  | .null, _, h | .bool _, _, h | .int _, _, h | .float _, _, h | .text _, _, h | .object _, _, h
  | .tuple _, _, h | .date _, _, h | .stamp _, _, h | .status _, _, h => nomatch h
theorem mirrorsAll_of_items : ∀ {items : List Value} {nodes : List Node},
    (ofItems items).result = .ok nodes → MirrorsAll items nodes
  | [], _, h => by
    cases h
    exact .nil
  | v :: rest, _, h => by
    rw [ofItems] at h
    obtain ⟨node, hnode, h⟩ := Report.bind_eq_ok h
    obtain ⟨nodes, hnodes, h⟩ := Report.bind_eq_ok h
    cases h
    exact .cons (mirrors_of_read hnode) (mirrorsAll_of_items hnodes)
end

theorem exists_ofItems {items : List Value} (h : ∀ v ∈ items, IsRead v) :
    ∃ nodes, (ofItems items).result = .ok nodes := by
  induction items with
  | nil => exact ⟨[], rfl⟩
  | cons v rest ih =>
    obtain ⟨⟨node, hnode⟩, hrest⟩ := List.forall_mem_cons.1 h
    obtain ⟨nodes, hnodes⟩ := ih hrest
    refine ⟨node :: nodes, ?_⟩
    rw [ofItems, Report.bind_result, hnode, ok_bind, Report.bind_result, hnodes]
    rfl

/-- The children of an ordinary group are read when each of them is, as far as it is ordinary. -/
theorem exists_childrenOf {entries : Entries} {items : List Value} (hitems : children? entries = some items)
    (ho : (Value.object entries).isOrdinary = true) (hd : (Value.object entries).isDocument = true)
    (h : ∀ v ∈ items, v.isOrdinary = true → v.isDocument = true → IsRead v) :
    ∃ nodes, (childrenOf entries).result = .ok nodes := by
  rw [childrenOf_eq hitems]
  refine exists_ofItems fun v hv => ?_
  have hrules := (get_rules hitems).resolve_left (List.ne_nil_of_mem hv)
  obtain ⟨hchild, hchildd⟩ := Value.child_isOrdinary ho hd hrules v hv
  exact h v hv hchild hchildd

/-- A well-formed node is read when its integers are inside of the range of doubles. -/
theorem isRead_of_wellFormed {v : Value} (h : IsWellFormed v) (ho : v.isOrdinary = true)
    (hd : v.isDocument = true) : IsRead v := by
  induction h with
  | @rule entries hrule =>
    obtain ⟨r, hr⟩ := not_fails_iff.1 (mt Rule.ofEntries?_fails.1 (Rule.not_oversized ho hd))
    refine ⟨.rule r, ?_⟩
    rw [ofDocument, if_neg (mt isGroup_iff.1 hrule), Report.bind_result, Report.ofExcept, hr]
    rfl
  | @group entries items hgroup hitems _ ih =>
    obtain ⟨nodes, hnodes⟩ := exists_childrenOf hitems ho hd ih
    refine ⟨.group (Group.nameOf entries) (Join.askedBy (entries.get "join")) nodes, ?_⟩
    rw [ofDocument, if_pos (isGroup_iff.2 hgroup), Report.bind_result, hnodes, ok_bind,
      Report.bind_result, result_groupOf]
    rfl

end Node

/-! ## Filters -/

namespace Group

/-- The document is an object that lists well-formed nodes as its children, or has none. -/
def IsWellFormed (v : Value) : Prop :=
  ∃ (entries : Entries) (items : List Value), v = .object entries ∧
    Node.children? entries = some items ∧ ∀ w ∈ items, Node.IsWellFormed w

/-- The filter mirrors the document, node by node. -/
def Mirrors (v : Value) (g : Group) : Prop :=
  ∃ (entries : Entries) (items : List Value), v = .object entries ∧
    Node.children? entries = some items ∧ g.name = nameOf entries ∧
    g.join = Join.askedBy (entries.get "join") ∧ Node.MirrorsAll items g.children

theorem mirrors_of_read {v : Value} {g : Group} (h : (ofDocument v).result = .ok g) :
    Mirrors v g := by
  cases v with
  | object entries =>
    obtain ⟨nodes, hnodes, h⟩ := Report.bind_eq_ok h
    rw [Node.result_groupOf] at h
    obtain ⟨items, hitems, hall⟩ := Node.mirrorsAll_of_children hnodes
    cases h
    exact ⟨entries, items, rfl, hitems, rfl, rfl, hall⟩
  | _ => cases h

theorem Mirrors.isWellFormed {v : Value} {g : Group} (h : Mirrors v g) : IsWellFormed v := by
  obtain ⟨entries, items, hv, hitems, -, -, hall⟩ := h
  exact ⟨entries, items, hv, hitems, hall.areWellFormed⟩

theorem exists_of_wellFormed {v : Value} (h : IsWellFormed v) (ho : v.isOrdinary = true)
    (hd : v.isDocument = true) : ∃ g, (ofDocument v).result = .ok g := by
  obtain ⟨entries, items, rfl, hitems, hall⟩ := h
  obtain ⟨nodes, hnodes⟩ := Node.exists_childrenOf hitems ho hd fun v hv =>
    Node.isRead_of_wellFormed (hall v hv)
  refine ⟨⟨nameOf entries, Join.askedBy (entries.get "join"), nodes⟩, ?_⟩
  rw [ofDocument, Report.bind_result, hnodes, ok_bind, Node.result_groupOf]

/-- A document of JSON whose integers are inside of the range of doubles is read as a filter when it is a
group of well-formed nodes, and refused as a filter when it is not. The filter that is read mirrors it:
it has one node of the same kind for each object that is a node, in the same order, with the joins that
the groups ask for. -/
theorem wellFormed_read {v : Value} (hj : v.isJson = true) (ho : v.isOrdinary = true) :
    (IsWellFormed v → ∃ g, (ofDocument v).result = .ok g) ∧
    (¬IsWellFormed v → ∃ cause, (ofDocument v).result = .error (.filter cause)) ∧
    ∀ g, (ofDocument v).result = .ok g → Mirrors v g := by
  have hd : v.isDocument = true := by
    rw [Value.isDocument, hj, Value.holdsLongInteger_of_isOrdinary ho]
    rfl
  refine ⟨fun h => exists_of_wellFormed h ho hd, fun h => ?_, fun g => mirrors_of_read⟩
  refine (Report.not_escapes_iff.1 (mt ofDocument_escapes_iff.1 (not_oversized ho hd))).resolve_left ?_
  rintro ⟨g, hg⟩
  exact h (mirrors_of_read hg).isWellFormed

/-- A document with a group that has no key for its children and an unknown join, a rule whose entries
fit nothing, and an empty group of the type of a rule. -/
def oddDocument : Value := .object [("join", .text "OR"), ("owner", .bool true), ("rules", .list [
  .object [("type", .text "group"), ("join", .int 3), ("name", .list [])],
  .object [("field", .list [.null]), ("type", .text "Group"), ("value", .object [])],
  .object [("type", .text "rule"), ("rules", .list [])]])]

/-- The odd document is read, and one whose inner group lists no nodes but null is refused. -/
theorem oddDocument_read : (∃ g, (ofDocument oddDocument).result = .ok g ∧ Mirrors oddDocument g) ∧
    ∃ cause, (ofDocument (.object [("rules", .list [.object [("rules", .list [.null])]])])).result =
      .error (.filter cause) := by
  have hodd : IsWellFormed oddDocument := by
    refine ⟨_, _, rfl, rfl, ?_⟩
    simp only [List.forall_mem_cons, List.not_mem_nil, false_implies, implies_true, and_true]
    refine ⟨.group (.inr rfl) rfl (List.forall_mem_nil _), .rule ?_, .group (.inl rfl) rfl
      (List.forall_mem_nil _)⟩
    exact mt Node.isGroup_iff.2 (by decide)
  have hbroken : ¬IsWellFormed (.object [("rules", .list [.object [("rules", .list [.null])]])]) := by
    rintro ⟨_, _, h, hitems, hall⟩
    cases h
    cases hitems
    cases hall _ (List.mem_singleton_self _) with
    | rule hrule => exact hrule (.inl rfl)
    | group _ hitems hall =>
      cases hitems
      nomatch hall _ (List.mem_singleton_self _)
  obtain ⟨hread, -, hmirrors⟩ := wellFormed_read (v := oddDocument) (by decide +kernel)
    (by decide +kernel)
  obtain ⟨-, hrefused, -⟩ := wellFormed_read
    (v := .object [("rules", .list [.object [("rules", .list [.null])]])]) (by decide) (by decide)
  obtain ⟨g, hg⟩ := hread hodd
  exact ⟨⟨g, hg, hmirrors g hg⟩, hrefused hbroken⟩

end Group

end ShelfRules
