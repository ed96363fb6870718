import ShelfRules.Proofs.JsonLayout
import ShelfRules.Proofs.WrittenFilters

/-!
# Trees that are read back

The stored form of a tree is read rule by rule: when the rules are read back from their stored forms,
so is the tree. What is read has the joins of the first tree, and the names of its groups without the
nulls in them.

Results:
* `Rule.ofEntries?_of_typed?`: a rule is read back when the stored forms of its values are read.
* `Node.again_of_rules`, `Group.again_of_rules`: a tree is read back when its rules are.
* `Node.again_of_read`, `Group.again_of_read`: what is read from the stored form of a tree is that tree
  read back.
-/

namespace ShelfRules

/-! ## Rules -/

/-- A key of an object has the value that it had before the nulls were left out. -/
theorem Value.get_entriesWithoutNulls {entries : Entries} (h : (entries.map Prod.fst).Nodup)
    (key : String) :
    Entries.get (entriesWithoutNulls entries) key = (entries.get key).withoutNulls := by
  induction entries with
  | nil => rfl
  | cons e rest ih =>
    obtain ⟨k, v⟩ := e
    obtain ⟨hk, hrest⟩ := List.nodup_cons.1 h
    rw [entriesWithoutNulls_cons, Entries.get_cons]
    by_cases hv : v.isNull = true
    · obtain rfl := eq_null_of_isNull hv
      rw [if_pos hv, ih hrest]
      split
      · rename_i hkey
        subst hkey
        have hlookup : rest.lookup k = none := by
          refine List.lookup_eq_none_iff.2 fun e he => ?_
          have hmem : e.1 ∈ rest.map Prod.fst := List.mem_map_of_mem he
          have hne : k ≠ e.1 := fun hek => hk (hek.symm ▸ hmem)
          simpa using hne
        rw [Entries.get, hlookup]
        rfl
      · rfl
    · rw [if_neg hv, Entries.get_cons]
      split
      · rfl
      · exact ih hrest

namespace Rule

/-- The entries of the stored form of a rule. -/
def entries (r : Rule) : Entries := [
  ("field", .text r.field.text),
  ("operator", .text r.operator.text),
  ("value", r.value.stored r.field.type),
  ("valueStart", r.start.stored r.field.type),
  ("valueEnd", r.finish.stored r.field.type)]

/-- The entries of the stored form of a rule that are not null. -/
def storedEntries (r : Rule) : Entries := Value.entriesWithoutNulls r.entries

variable {r : Rule}

theorem withoutNulls_document : r.document.withoutNulls = .object r.storedEntries := rfl

theorem get_storedEntries (key : String) :
    r.storedEntries.get key = (r.entries.get key).withoutNulls :=
  have hkeys : ["field", "operator", "value", "valueStart", "valueEnd"].Nodup := by decide
  Value.get_entriesWithoutNulls (show (r.entries.map Prod.fst).Nodup from hkeys) key

/-- The stored form of a rule is not taken for a group. -/
theorem isGroup_storedEntries : Node.isGroup r.storedEntries = false := by
  have hrules : r.storedEntries.has "rules" = false := Value.has_entriesWithoutNulls rfl
  have htype : r.storedEntries.has "type" = false := Value.has_entriesWithoutNulls rfl
  rw [Entries.has, Option.isSome_eq_false_iff, Option.isNone_iff_eq_none] at htype
  rw [Node.isGroup, hrules, Entries.get, htype]
  rfl

/-- A rule is read from its stored form with the same field and operator when the stored forms of its
values are read and hold no integer that is too long. -/
theorem ofEntries?_of_typed? {value start finish : Value}
    (hvalue : (r.value.stored r.field.type).withoutNulls.typed? r.field.type = .ok value)
    (hstart : (r.start.stored r.field.type).withoutNulls.typed? r.field.type = .ok start)
    (hfinish : (r.finish.stored r.field.type).withoutNulls.typed? r.field.type = .ok finish)
    (hlong : value.holdsLongInteger = false ∧ start.holdsLongInteger = false ∧
      finish.holdsLongInteger = false) :
    ∃ r', ofEntries? r.storedEntries = .ok r' ∧ r'.field = r.field ∧ r'.operator = r.operator ∧
      r'.value = value.asTuple ∧ r'.start = start ∧ r'.finish = finish := by
  have hfield : FieldName.ofValue? (r.storedEntries.get "field") = .ok r.field := by
    rw [get_storedEntries]
    exact congrArg Except.ok r.field.ofText_text
  have hoperator : OperatorName.ofValue? (r.storedEntries.get "operator") = .ok r.operator := by
    rw [get_storedEntries]
    exact congrArg Except.ok r.operator.ofText_text
  have hread : ∀ {key : String} {v w : Value}, r.entries.get key = v.stored r.field.type →
      (v.stored r.field.type).withoutNulls.typed? r.field.type = .ok w →
      (r.storedEntries.get key).typed? r.field.type = .ok w := fun hkey h => by
    rw [get_storedEntries, hkey, h]
  have hsize : Operand.isOversized r.operator value start finish = false :=
    Operand.isOversized_of_not_long hlong.1 hlong.2.1 hlong.2.2
  obtain ⟨r', hr'⟩ := not_fails_iff.1 (mt of?_fails.1 (Bool.eq_false_iff.1 hsize) :
    ¬Fails (of? r.field r.operator value start finish))
  refine ⟨r', ?_, of?_eq_ok hr'⟩
  rw [ofEntries?_eq, hfield, ok_bind, hread rfl hvalue, ok_bind, hread rfl hstart, ok_bind,
    hread rfl hfinish, ok_bind, hoperator, ok_bind, hr']

end Rule

/-! ## Trees -/

theorem Join.ofValue_name (join : Join) : ofValue (.text join.name) = .ok join := by
  have hname : ofName? (Text.lowered join.name) = some join := by
    cases join <;> decide +kernel
  simp only [ofValue, hname]

namespace Node

/-- The name of a group as it is read back: what its nulls leave of it, and a blank one when that
counts as nothing. -/
def nameAgain (name : Value) : Value := name.withoutNulls.orElse (.text "")

theorem nameAgain_text (s : String) : nameAgain (.text s) = .text s := by
  by_cases h : s = ""
  · subst h; rfl
  · exact Value.orElse_text h _

variable (R : Rule → Rule → Prop)

mutual
/-- The second tree is the first one read back: rules that stand in a relation in the places of the
rules, and the joins and the names of the groups as they are read back. -/
inductive Again : Node → Node → Prop
  | rule {r r' : Rule} : R r r' → Again (.rule r) (.rule r')
  | group {name : Value} {join : Join} {children nodes : List Node} : AllAgain children nodes →
      Again (.group name join children) (.group (nameAgain name) join nodes)
/-- The nodes of the second list are those of the first one read back. -/
inductive AllAgain : List Node → List Node → Prop
  | nil : AllAgain [] []
  | cons {node node' : Node} {rest nodes : List Node} : Again node node' → AllAgain rest nodes →
      AllAgain (node :: rest) (node' :: nodes)
end

variable {R}

/-- No node has null for its stored form. -/
theorem itemsWithoutNulls_documents_cons (node : Node) (rest : List Node) :
    Value.itemsWithoutNulls (documents (node :: rest)) =
      node.document.withoutNulls :: Value.itemsWithoutNulls (documents rest) := by
  have hobject : node.document.isNull = false := by cases node <;> rfl
  rw [documents, Value.itemsWithoutNulls_cons, hobject, if_neg Bool.false_ne_true]

/-- The stored form of a group is one of a group, with its children and its join, and its name as it is
read back. -/
theorem group_document (name : Value) (join : Join) (children : List Node) :
    ∃ entries, (group name join children).document.withoutNulls = .object entries ∧
      isGroup entries = true ∧
      childrenOf entries = ofItems (Value.itemsWithoutNulls (documents children)) ∧
      ∀ nodes, groupOf entries nodes = .ok ⟨nameAgain name, join, nodes⟩ := by
  have hgroup : ∀ entries : Entries, Group.nameOf entries = nameAgain name →
      entries.get "join" = .text join.name →
      ∀ nodes, groupOf entries nodes = .ok ⟨nameAgain name, join, nodes⟩ := by
    intro entries hname hjoin nodes
    rw [groupOf, hjoin, Join.ofValue_name, hname]
    rfl
  refine ⟨_, rfl, ?_⟩
  rw [Value.entriesWithoutNulls_cons]
  split
  · rename_i hnull
    obtain rfl := Value.eq_null_of_isNull hnull
    exact ⟨rfl, rfl, hgroup _ rfl rfl⟩
  · exact ⟨rfl, rfl, hgroup _ rfl rfl⟩

mutual
/-- A tree is read back from its stored form when its rules are. -/
theorem again_of_rules : ∀ {node : Node},
    (∀ r ∈ node.rules, ∃ r', Rule.ofEntries? r.storedEntries = .ok r' ∧ R r r') →
    ∃ node', ofDocument node.document.withoutNulls = .ok node' ∧ Again R node node'
  | rule r, h => by
    obtain ⟨r', hr', hR⟩ := h r (List.mem_singleton_self r)
    refine ⟨rule r', ?_, .rule hR⟩
    rw [document, Rule.withoutNulls_document, ofDocument, Rule.isGroup_storedEntries,
      if_neg Bool.false_ne_true, hr']
    rfl
  | group name join children, h => by
    obtain ⟨nodes, hnodes, hagain⟩ := allAgain_of_rules h
    obtain ⟨entries, hdocument, hgroup, hchildren, hread⟩ := group_document name join children
    refine ⟨group (nameAgain name) join nodes, ?_, .group hagain⟩
    rw [hdocument, ofDocument, if_pos hgroup, hchildren, hnodes]
    show (groupOf entries nodes).bind _ = _
    rw [hread]
    rfl
theorem allAgain_of_rules : ∀ {nodes : List Node},
    (∀ r ∈ rulesOf nodes, ∃ r', Rule.ofEntries? r.storedEntries = .ok r' ∧ R r r') →
    ∃ nodes', ofItems (Value.itemsWithoutNulls (documents nodes)) = .ok nodes' ∧
      AllAgain R nodes nodes'
  | [], _ => ⟨[], rfl, .nil⟩
  | node :: rest, h => by
    obtain ⟨hnode, hrest⟩ := List.forall_mem_append.1 h
    obtain ⟨node', hread, hagain⟩ := again_of_rules hnode
    obtain ⟨nodes, hreads, hagains⟩ := allAgain_of_rules hrest
    refine ⟨node' :: nodes, ?_, .cons hagain hagains⟩
    rw [itemsWithoutNulls_documents_cons, ofItems, hread]
    show (ofItems _).bind _ = _
    rw [hreads]
    rfl
end

mutual
/-- A tree that is read from the stored form of another one is the other one read back, in any relation
in which the rules stand to those that are read from them. -/
theorem again_of_read : ∀ {node node' : Node},
    (∀ r ∈ node.rules, ∀ r', Rule.ofEntries? r.storedEntries = .ok r' → R r r') →
    (ofDocument node.document.withoutNulls).result = .ok node' → Again R node node'
  | rule r, _, h, hread => by
    rw [document, Rule.withoutNulls_document, ofDocument, Rule.isGroup_storedEntries,
      if_neg Bool.false_ne_true] at hread
    obtain ⟨r', hr', hnode⟩ := Report.bind_eq_ok hread
    cases hnode
    exact .rule (h r (List.mem_singleton_self r) r' hr')
  | group name join children, _, h, hread => by
    obtain ⟨entries, hdocument, hgroup, hchildren, hname⟩ := group_document name join children
    rw [hdocument, ofDocument, if_pos hgroup, hchildren] at hread
    obtain ⟨nodes, hnodes, hread⟩ := Report.bind_eq_ok hread
    obtain ⟨g, hg, hnode⟩ := Report.bind_eq_ok hread
    rw [hname] at hg
    cases hg
    cases hnode
    exact .group (allAgain_of_read h hnodes)
theorem allAgain_of_read : ∀ {nodes nodes' : List Node},
    (∀ r ∈ rulesOf nodes, ∀ r', Rule.ofEntries? r.storedEntries = .ok r' → R r r') →
    (ofItems (Value.itemsWithoutNulls (documents nodes))).result = .ok nodes' →
      AllAgain R nodes nodes'
  | [], _, _, hread => by
    cases hread
    exact .nil
  | node :: rest, _, h, hread => by
    obtain ⟨hnode, hrest⟩ := List.forall_mem_append.1 h
    rw [itemsWithoutNulls_documents_cons, ofItems] at hread
    obtain ⟨node', hnode', hread⟩ := Report.bind_eq_ok hread
    obtain ⟨nodes, hnodes, hread⟩ := Report.bind_eq_ok hread
    cases hread
    exact .cons (again_of_read hnode hnode') (allAgain_of_read hrest hnodes)
end

end Node

/-! ## Filters -/

namespace Group

/-- A filter is read back from its document when its rules are. -/
theorem again_of_rules {R : Rule → Rule → Prop} {g : Group}
    (h : ∀ r ∈ g.rules, ∃ r', Rule.ofEntries? r.storedEntries = .ok r' ∧ R r r') :
    ∃ g', ofDocument g.document = .ok g' ∧ Node.Again R g.toNode g'.toNode := by
  obtain ⟨name, join, children⟩ := g
  obtain ⟨nodes, hnodes, hagain⟩ := Node.allAgain_of_rules h
  obtain ⟨entries, hdocument, -, hchildren, hread⟩ := Node.group_document name join children
  refine ⟨⟨Node.nameAgain name, join, nodes⟩, ?_, .group hagain⟩
  have hgroup : document ⟨name, join, children⟩ = .object entries := hdocument
  rw [hgroup, ofDocument, hchildren, hnodes]
  exact hread nodes

/-- A filter that is read from the document of another one is the other one read back. -/
theorem again_of_read {R : Rule → Rule → Prop} {g g' : Group}
    (h : ∀ r ∈ g.rules, ∀ r', Rule.ofEntries? r.storedEntries = .ok r' → R r r')
    (hread : (ofDocument g.document).result = .ok g') : Node.Again R g.toNode g'.toNode := by
  obtain ⟨name, join, children⟩ := g
  obtain ⟨entries, hdocument, -, hchildren, hname⟩ := Node.group_document name join children
  have hgroup : document ⟨name, join, children⟩ = .object entries := hdocument
  rw [hgroup, ofDocument, hchildren] at hread
  obtain ⟨nodes, hnodes, hread⟩ := Report.bind_eq_ok hread
  rw [hname] at hread
  cases hread
  exact .group (Node.allAgain_of_read h hnodes)

/-- The text of a filter is read as its document when that is one of JSON. -/
theorem ofText_of_isDocument {g : Group} {s : String} (hd : g.document.isDocument = true)
    (h : g.text? = .ok s) : ofText s = ofDocument g.document := by
  obtain ⟨-, rfl⟩ := Json.encode?_eq_ok.1 h
  rw [ofText, String.toList_ofList, Json.parse_compact hd]

end Group

end ShelfRules
