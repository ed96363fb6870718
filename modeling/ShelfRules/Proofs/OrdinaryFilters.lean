import ShelfRules.Proofs.DoubleIntegers
import ShelfRules.Proofs.RereadTrees

/-!
# Filters with operands of any kind

An operand may be a value of any kind, whatever its field holds. When the filter has a text, the text is
read as a filter of the same shape, with rules for the same fields and operators, as long as no integer
is past the largest double: an operand that does not fit its field is lost, but never the rule.

Results:
* `Value.withoutNulls_isJson`: what can be written of a value is a value of JSON.
* `Rule.ofEntries?_of_isOrdinary`: a rule that can be written is read back.
* `Group.ofText_again`: so is the text of a filter.
* `Node.Again.hasCompleteRule`: a tree that is read back has a complete rule when the first one has.
-/

namespace ShelfRules

/-! ## Values -/

namespace Value

mutual
/-- The integers in the value are inside of the range of doubles, and the keys of each object in it
differ. -/
def isOrdinary : Value → Bool
  | .int n => (Double.ofInt? n).isSome
  | .list items => areOrdinary items
  | .tuple items => areOrdinary items
  | .object entries => entriesAreOrdinary entries
  | _ => true
/-- The values are ordinary. -/
def areOrdinary : List Value → Bool
  | [] => true
  | v :: rest => v.isOrdinary && areOrdinary rest
/-- The values of the entries are ordinary, and the keys differ. -/
def entriesAreOrdinary : List (String × Value) → Bool
  | [] => true
  | (k, v) :: rest => !Entries.has rest k && v.isOrdinary && entriesAreOrdinary rest
end

theorem isOrdinary_list {items : List Value} :
    (list items).isOrdinary = true ↔ ∀ v ∈ items, v.isOrdinary = true := by
  rw [isOrdinary]
  induction items with
  | nil => simp [areOrdinary]
  | cons v rest ih => rw [areOrdinary, Bool.and_eq_true, ih, List.forall_mem_cons]

theorem get_isOrdinary {entries : Entries} (h : (object entries).isOrdinary = true) (key : String) :
    (entries.get key).isOrdinary = true := by
  induction entries with
  | nil => rfl
  | cons e rest ih =>
    obtain ⟨k, v⟩ := e
    simp only [isOrdinary, entriesAreOrdinary, Bool.and_eq_true] at h ih
    rw [Entries.get_cons]
    split
    · exact h.1.2
    · exact ih h.2

mutual
theorem withoutNulls_isOrdinary : ∀ {v : Value}, v.isOrdinary = true →
    v.withoutNulls.isOrdinary = true
  | .null, _ | .bool _, _ | .float _, _ | .text _, _ | .date _, _ | .stamp _, _ | .status _, _ => rfl
  | .int _, h => h
  | .list _, h | .tuple _, h => itemsWithoutNulls_areOrdinary h
  | .object _, h => entriesWithoutNulls_areOrdinary h
theorem itemsWithoutNulls_areOrdinary : ∀ {items : List Value}, areOrdinary items = true →
    areOrdinary (itemsWithoutNulls items) = true
  | [], _ => rfl
  | v :: rest, h => by
    obtain ⟨hv, hrest⟩ := Bool.and_eq_true_iff.1 h
    rw [itemsWithoutNulls_cons]
    split
    · exact itemsWithoutNulls_areOrdinary hrest
    · rw [areOrdinary, withoutNulls_isOrdinary hv, itemsWithoutNulls_areOrdinary hrest]
      rfl
theorem entriesWithoutNulls_areOrdinary : ∀ {entries : List (String × Value)},
    entriesAreOrdinary entries = true → entriesAreOrdinary (entriesWithoutNulls entries) = true
  | [], _ => rfl
  | (k, v) :: rest, h => by
    simp only [entriesAreOrdinary, Bool.and_eq_true, Bool.not_eq_true'] at h
    obtain ⟨⟨hk, hv⟩, hrest⟩ := h
    rw [entriesWithoutNulls_cons]
    split
    · exact entriesWithoutNulls_areOrdinary hrest
    · rw [entriesAreOrdinary, has_entriesWithoutNulls hk, withoutNulls_isOrdinary hv,
        entriesWithoutNulls_areOrdinary hrest]
      rfl
end

mutual
/-- What can be written of an ordinary value without its nulls is a value of JSON. -/
theorem withoutNulls_isJson : ∀ {v : Value}, v.isOrdinary = true →
    Json.obstacle? v.withoutNulls = none → v.withoutNulls.isJson = true
  | .null, _, _ | .bool _, _, _ | .int _, _, _ | .float _, _, _ | .text _, _, _ => rfl
  | .list _, h, ho | .tuple _, h, ho => itemsWithoutNulls_areJson h ho
  | .object _, h, ho => entriesWithoutNulls_areJson h ho
  | .date _, _, ho | .stamp _, _, ho | .status _, _, ho => nomatch ho
theorem itemsWithoutNulls_areJson : ∀ {items : List Value}, areOrdinary items = true →
    Json.itemObstacle? (itemsWithoutNulls items) = none →
      areJson (itemsWithoutNulls items) = true
  | [], _, _ => rfl
  | v :: rest, h, ho => by
    obtain ⟨hv, hrest⟩ := Bool.and_eq_true_iff.1 h
    rw [itemsWithoutNulls_cons] at ho ⊢
    split
    · rename_i hnull
      rw [if_pos hnull] at ho
      exact itemsWithoutNulls_areJson hrest ho
    · rename_i hnull
      rw [if_neg hnull, Json.itemObstacle?, Option.or_eq_none_iff] at ho
      rw [areJson, withoutNulls_isJson hv ho.1, itemsWithoutNulls_areJson hrest ho.2]
      rfl
theorem entriesWithoutNulls_areJson : ∀ {entries : List (String × Value)},
    entriesAreOrdinary entries = true →
      Json.entryObstacle? (entriesWithoutNulls entries) = none →
        entriesAreJson (entriesWithoutNulls entries) = true
  | [], _, _ => rfl
  | (k, v) :: rest, h, ho => by
    simp only [entriesAreOrdinary, Bool.and_eq_true, Bool.not_eq_true'] at h
    obtain ⟨⟨hk, hv⟩, hrest⟩ := h
    rw [entriesWithoutNulls_cons] at ho ⊢
    split
    · rename_i hnull
      rw [if_pos hnull] at ho
      exact entriesWithoutNulls_areJson hrest ho
    · rename_i hnull
      rw [if_neg hnull, Json.entryObstacle?, Option.or_eq_none_iff] at ho
      rw [entriesAreJson, has_entriesWithoutNulls hk, withoutNulls_isJson hv ho.1,
        entriesWithoutNulls_areJson hrest ho.2]
      rfl
end

mutual
/-- No integer of an ordinary value is too long to be written. -/
theorem holdsLongInteger_of_isOrdinary : ∀ {v : Value}, v.isOrdinary = true →
    v.holdsLongInteger = false
  | .null, _ | .bool _, _ | .float _, _ | .text _, _ | .date _, _ | .stamp _, _ | .status _, _ => rfl
  | .int _, h => isLongInteger_of_ofInt? h
  | .list _, h | .tuple _, h => anyHoldsLongInteger_of_areOrdinary h
  | .object _, h => anyEntryHoldsLongInteger_of_areOrdinary h
theorem anyHoldsLongInteger_of_areOrdinary : ∀ {items : List Value}, areOrdinary items = true →
    anyHoldsLongInteger items = false
  | [], _ => rfl
  | v :: rest, h => by
    obtain ⟨hv, hrest⟩ := Bool.and_eq_true_iff.1 h
    rw [anyHoldsLongInteger, holdsLongInteger_of_isOrdinary hv,
      anyHoldsLongInteger_of_areOrdinary hrest]
    rfl
theorem anyEntryHoldsLongInteger_of_areOrdinary : ∀ {entries : List (String × Value)},
    entriesAreOrdinary entries = true → anyEntryHoldsLongInteger entries = false
  | [], _ => rfl
  | (k, v) :: rest, h => by
    simp only [entriesAreOrdinary, Bool.and_eq_true] at h
    rw [anyEntryHoldsLongInteger, holdsLongInteger_of_isOrdinary h.1.2,
      anyEntryHoldsLongInteger_of_areOrdinary h.2]
    rfl
end

mutual
/-- An ordinary value of JSON has a number, or is none. -/
theorem defiesNumber_of_isOrdinary : ∀ {v : Value}, v.isOrdinary = true → v.isJson = true →
    v.defiesNumber = false
  | .null, _, _ | .bool _, _, _ | .float _, _, _ | .text _, _, _ | .object _, _, _ => rfl
  | .int n, h, _ => by
    rw [isOrdinary, Option.isSome_iff_ne_none] at h
    simpa [defiesNumber, Option.isNone_eq_false_iff, Option.isSome_iff_ne_none] using h
  | .list _, h, hj => anyDefiesNumber_of_areOrdinary h hj
theorem anyDefiesNumber_of_areOrdinary : ∀ {items : List Value}, areOrdinary items = true →
    areJson items = true → anyDefiesNumber items = false
  | [], _, _ => rfl
  | v :: rest, h, hj => by
    obtain ⟨hv, hrest⟩ := Bool.and_eq_true_iff.1 h
    obtain ⟨hvj, hrestj⟩ := Bool.and_eq_true_iff.1 hj
    rw [anyDefiesNumber, defiesNumber_of_isOrdinary hv hvj,
      anyDefiesNumber_of_areOrdinary hrest hrestj]
    rfl
end

variable {v : Value}

/-- What can be written of an ordinary value without its nulls is a document. -/
theorem withoutNulls_isDocument_of_isOrdinary (h : v.isOrdinary = true)
    (ho : Json.obstacle? v.withoutNulls = none) : v.withoutNulls.isDocument = true := by
  rw [isDocument, withoutNulls_isJson h ho,
    holdsLongInteger_of_isOrdinary (withoutNulls_isOrdinary h)]
  rfl

/-- An ordinary document is read by every type, and what is read holds no integer that is too long. -/
theorem typed?_of_isOrdinary (type : Option FieldType) (hd : v.isDocument = true)
    (h : v.isOrdinary = true) : ∃ w, typed? type v = .ok w ∧ w.holdsLongInteger = false := by
  have hread : ∃ w, typed? type v = .ok w := by
    cases type with
    | none => exact ⟨v, rfl⟩
    | some type =>
      have hnumber := defiesNumber_of_isOrdinary h (Bool.and_eq_true_iff.1 hd).1
      refine not_fails_iff.1 fun hfails => ?_
      rw [((typedAs?_fails type v).1 hfails).2] at hnumber
      cases hnumber
  obtain ⟨w, hw⟩ := hread
  exact ⟨w, hw, holdsLongInteger_of_isLoaded (typed?_isLoaded hd hw)⟩

theorem storedDate_isOrdinary (type : Option FieldType) (t : Timestamp) :
    (storedDate type t).isOrdinary = true := by
  obtain ⟨s, hs⟩ := storedDate_eq_text type t
  rw [hs]
  rfl

mutual
theorem stored_isOrdinary (type : Option FieldType) : ∀ {v : Value}, v.isOrdinary = true →
    (v.stored type).isOrdinary = true
  | .date d, _ => storedDate_isOrdinary type (.naive (.ofDate d))
  | .stamp t, _ => storedDate_isOrdinary type t
  | .tuple _, h => storedItems_areOrdinary type h
  | .null, h | .bool _, h | .int _, h | .float _, h | .text _, h | .list _, h | .object _, h
  | .status _, h => h
theorem storedItems_areOrdinary (type : Option FieldType) : ∀ {items : List Value},
    areOrdinary items = true → areOrdinary (storedItems type items) = true
  | [], _ => rfl
  | v :: rest, h => by
    obtain ⟨hv, hrest⟩ := Bool.and_eq_true_iff.1 h
    rw [storedItems, areOrdinary, stored_isOrdinary type hv, storedItems_areOrdinary type hrest]
    rfl
end

end Value

/-! ## Rules -/

namespace Rule

/-- The values of the rule are ordinary. -/
def isOrdinary (r : Rule) : Bool := r.value.isOrdinary && r.start.isOrdinary && r.finish.isOrdinary

/-- The second rule is for the same field and operator. -/
def SameTest (r r' : Rule) : Prop := r'.field = r.field ∧ r'.operator = r.operator

theorem SameTest.isComplete {r r' : Rule} (h : r.SameTest r') : r'.isComplete = r.isComplete := by
  rw [Rule.isComplete, h.1, h.2, Rule.isComplete]

theorem document_isOrdinary {r : Rule} (h : r.isOrdinary = true) :
    r.document.isOrdinary = true := by
  simp only [isOrdinary, Bool.and_eq_true] at h
  obtain ⟨⟨hv, hs⟩, hf⟩ := h
  simp [document, Value.isOrdinary, Value.entriesAreOrdinary, Value.stored_isOrdinary _ hv,
    Value.stored_isOrdinary _ hs, Value.stored_isOrdinary _ hf]

/-- A rule whose stored form is a document is read back, with the same field and operator. -/
theorem ofEntries?_of_isOrdinary {r : Rule} (h : r.isOrdinary = true)
    (hd : (Value.object r.storedEntries).isDocument = true) :
    ∃ r', ofEntries? r.storedEntries = .ok r' ∧ r.SameTest r' := by
  have hread : ∀ (key : String) {v : Value}, r.entries.get key = v.stored r.field.type →
      v.isOrdinary = true →
      ∃ w, (v.stored r.field.type).withoutNulls.typed? r.field.type = .ok w ∧
        w.holdsLongInteger = false := by
    intro key v hkey hv
    have hv := Value.withoutNulls_isOrdinary (Value.stored_isOrdinary r.field.type hv)
    refine Value.typed?_of_isOrdinary r.field.type ?_ hv
    rw [← hkey, ← get_storedEntries]
    exact Value.get_isDocument hd key
  simp only [isOrdinary, Bool.and_eq_true] at h
  obtain ⟨value, hvalue, hvl⟩ := hread "value" rfl h.1.1
  obtain ⟨start, hstart, hsl⟩ := hread "valueStart" rfl h.1.2
  obtain ⟨finish, hfinish, hfl⟩ := hread "valueEnd" rfl h.2
  obtain ⟨r', hr', hf, ho, -⟩ := ofEntries?_of_typed? hvalue hstart hfinish ⟨hvl, hsl, hfl⟩
  exact ⟨r', hr', hf, ho⟩

end Rule

/-! ## Trees -/

namespace Node

mutual
/-- The names of the groups and the values of the rules are ordinary. -/
def isOrdinary : Node → Bool
  | rule r => r.isOrdinary
  | group name _ children => name.isOrdinary && areOrdinary children
/-- The nodes are ordinary. -/
def areOrdinary : List Node → Bool
  | [] => true
  | node :: rest => node.isOrdinary && areOrdinary rest
end

mutual
theorem document_isOrdinary : ∀ {node : Node}, node.isOrdinary = true →
    node.document.isOrdinary = true
  | rule _, h => Rule.document_isOrdinary h
  | group name join children, h => by
    obtain ⟨hname, hchildren⟩ := Bool.and_eq_true_iff.1 h
    simp [document, Value.isOrdinary, Value.entriesAreOrdinary, hname,
      documents_areOrdinary hchildren]
theorem documents_areOrdinary : ∀ {nodes : List Node}, areOrdinary nodes = true →
    Value.areOrdinary (documents nodes) = true
  | [], _ => rfl
  | node :: rest, h => by
    obtain ⟨hnode, hrest⟩ := Bool.and_eq_true_iff.1 h
    rw [documents, Value.areOrdinary, document_isOrdinary hnode, documents_areOrdinary hrest]
    rfl
end

mutual
theorem rules_areOrdinary : ∀ {node : Node}, node.isOrdinary = true →
    ∀ r ∈ node.rules, r.isOrdinary = true
  | rule _, h => List.forall_mem_singleton.2 h
  | group .., h => rulesOf_areOrdinary (Bool.and_eq_true_iff.1 h).2
theorem rulesOf_areOrdinary : ∀ {nodes : List Node}, areOrdinary nodes = true →
    ∀ r ∈ rulesOf nodes, r.isOrdinary = true
  | [], _ => List.forall_mem_nil _
  | _ :: _, h => List.forall_mem_append.2 ⟨rules_areOrdinary (Bool.and_eq_true_iff.1 h).1,
      rulesOf_areOrdinary (Bool.and_eq_true_iff.1 h).2⟩
end

mutual
/-- The stored forms of the rules stand in that of the tree. -/
theorem rules_areDocuments : ∀ {node : Node}, node.document.withoutNulls.isDocument = true →
    ∀ r ∈ node.rules, (Value.object r.storedEntries).isDocument = true
  | rule _, h => List.forall_mem_singleton.2 h
  | group name join children, h => by
    have hrules : ("rules", Value.list (Value.itemsWithoutNulls (documents children))) ∈
        Value.entriesWithoutNulls [("name", name), ("type", .text "group"),
          ("join", .text join.name), ("rules", .list (documents children))] := by
      rw [Value.entriesWithoutNulls_cons]
      split <;> simp [Value.entriesWithoutNulls, Value.withoutNulls]
    exact rulesOf_areDocuments
      (Value.isDocument_list.1 (Value.isDocument_of_mem_entries h _ hrules))
theorem rulesOf_areDocuments : ∀ {nodes : List Node},
    (∀ v ∈ Value.itemsWithoutNulls (documents nodes), v.isDocument = true) →
      ∀ r ∈ rulesOf nodes, (Value.object r.storedEntries).isDocument = true
  | [], _ => List.forall_mem_nil _
  | node :: rest, h => by
    rw [itemsWithoutNulls_documents_cons] at h
    obtain ⟨hnode, hrest⟩ := List.forall_mem_cons.1 h
    exact List.forall_mem_append.2 ⟨rules_areDocuments hnode, rulesOf_areDocuments hrest⟩
end

mutual
/-- A tree that is read back has a complete rule when the first one has. -/
theorem Again.hasCompleteRule : ∀ {node node' : Node}, Again Rule.SameTest node node' →
    node'.hasCompleteRule = node.hasCompleteRule
  | rule _, _, h => by
    cases h with
    | rule h => exact h.isComplete
  | group .., _, h => by
    cases h with
    | group h => exact AllAgain.anyHasCompleteRule h
theorem AllAgain.anyHasCompleteRule : ∀ {nodes nodes' : List Node},
    AllAgain Rule.SameTest nodes nodes' → Node.anyHasCompleteRule nodes' =
      Node.anyHasCompleteRule nodes
  | [], _, h => by
    cases h
    rfl
  | _ :: _, _, h => by
    cases h with
    | cons h hrest =>
      rw [Node.anyHasCompleteRule, Again.hasCompleteRule h, AllAgain.anyHasCompleteRule hrest,
        Node.anyHasCompleteRule]
end

mutual
/-- A tree has a complete rule when one of its rules is complete. -/
theorem hasCompleteRule_eq : ∀ node : Node, node.hasCompleteRule = node.rules.any Rule.isComplete
  | rule r => by simp [hasCompleteRule, rules]
  | group _ _ children => anyHasCompleteRule_eq children
theorem anyHasCompleteRule_eq : ∀ nodes : List Node,
    anyHasCompleteRule nodes = (rulesOf nodes).any Rule.isComplete
  | [] => rfl
  | node :: rest => by
    rw [anyHasCompleteRule, rulesOf, List.any_append, hasCompleteRule_eq node,
      anyHasCompleteRule_eq rest]
end

end Node

/-! ## Filters -/

namespace Group

/-- A filter has a complete rule when one of its rules, at any depth, is complete. -/
theorem hasCompleteRule_iff {g : Group} :
    g.hasCompleteRule = true ↔ ∃ r ∈ g.rules, r.isComplete = true := by
  rw [hasCompleteRule, Node.anyHasCompleteRule_eq, List.any_eq_true]
  rfl

/-- The text of an ordinary filter is read as a filter of the same shape, with rules for the same fields
and operators. -/
theorem ofText_again {g : Group} {s : String} (hg : g.toNode.isOrdinary = true)
    (h : g.text? = .ok s) :
    ∃ g', ofText s = .ok g' ∧ Node.Again Rule.SameTest g.toNode g'.toNode := by
  have hdocument : g.document.isDocument = true :=
    Value.withoutNulls_isDocument_of_isOrdinary (Node.document_isOrdinary hg)
      (Json.encode?_eq_ok.1 h).1
  rw [ofText_of_isDocument hdocument h]
  exact again_of_rules fun r hr => Rule.ofEntries?_of_isOrdinary
    (Node.rules_areOrdinary hg r hr) (Node.rules_areDocuments hdocument r hr)

end Group

end ShelfRules
