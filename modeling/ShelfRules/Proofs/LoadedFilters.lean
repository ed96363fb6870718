import ShelfRules.Proofs.StoredReading

/-!
# Loaded filters

What is known of a filter that was read from a document: the names of its groups are values of JSON,
and the values of its rules are values of JSON in which timestamps may stand, a list being kept as a
tuple. None of them holds an integer that is too long to be written.

Results:
* `Rule.ofEntries?_isLoaded`, `Node.ofDocument_isLoaded`: rules and nodes that are read are loaded.
* `Group.ofText_isLoaded`: so is the filter of a text.
-/

namespace ShelfRules

theorem Report.bind_eq_ok {α β : Type} {r : Report α} {g : α → Report β} {b : β}
    (h : (r.bind g).result = .ok b) : ∃ a, r.result = .ok a ∧ (g a).result = .ok b := by
  rw [bind_result] at h
  exact except_bind_eq_ok h

/-! ## Documents -/

namespace Value

theorem get_isDocument {entries : Entries} (h : (object entries).isDocument = true) (key : String) :
    (entries.get key).isDocument = true := by
  induction entries with
  | nil => rfl
  | cons e rest ih =>
    obtain ⟨k, v⟩ := e
    rw [Entries.get_cons]
    split
    · exact isDocument_of_mem_entries h (k, v) List.mem_cons_self
    · refine ih ?_
      simp only [isDocument, isJson, entriesAreJson, holdsLongInteger, anyEntryHoldsLongInteger,
        Bool.and_eq_true, Bool.not_eq_true', Bool.or_eq_false_iff] at h ⊢
      exact ⟨h.1.2, h.2.2⟩

theorem isDocument_orElse {v other : Value} (hv : v.isDocument = true)
    (ho : other.isDocument = true) : (v.orElse other).isDocument = true := by
  unfold orElse
  split
  · exact hv
  · exact ho

end Value

/-! ## Rules -/

/-- The values of the rule are such as are read from a document. -/
def Rule.IsLoaded (r : Rule) : Prop :=
  (∃ v : Value, v.isLoaded = true ∧ r.value = v.asTuple) ∧ r.start.isLoaded = true ∧
    r.finish.isLoaded = true

theorem Rule.IsLoaded.not_long {r : Rule} (h : r.IsLoaded) : r.value.holdsLongInteger = false ∧
    r.start.holdsLongInteger = false ∧ r.finish.holdsLongInteger = false := by
  obtain ⟨⟨v, hv, hvalue⟩, hs, hf⟩ := h
  rw [hvalue, Value.holdsLongInteger_asTuple]
  exact ⟨Value.holdsLongInteger_of_isLoaded hv, Value.holdsLongInteger_of_isLoaded hs,
    Value.holdsLongInteger_of_isLoaded hf⟩

/-- A rule that is read from a document is loaded. -/
theorem Rule.ofEntries?_isLoaded {entries : Entries} {r : Rule}
    (he : (Value.object entries).isDocument = true) (h : ofEntries? entries = .ok r) :
    r.IsLoaded := by
  obtain ⟨-, -, ⟨value, hvalue, hv⟩, hstart, hfinish⟩ := ofEntries?_eq_ok h
  have hread : ∀ {key : String} {w : Value}, (entries.get key).typed? r.field.type = .ok w →
      w.isLoaded = true := fun h => Value.typed?_isLoaded (Value.get_isDocument he _) h
  exact ⟨⟨value, hread hvalue, hv⟩, hread hstart, hread hfinish⟩

/-! ## Trees -/

namespace Node

mutual
/-- The names of the groups are values of JSON, and the rules are loaded. -/
def IsLoaded : Node → Prop
  | rule r => r.IsLoaded
  | group name _ children => name.isDocument = true ∧ AreLoaded children
/-- The nodes are loaded. -/
def AreLoaded : List Node → Prop
  | [] => True
  | node :: rest => node.IsLoaded ∧ AreLoaded rest
end

theorem groupOf_isLoaded {entries : Entries} {children : List Node} {g : Group}
    (he : (Value.object entries).isDocument = true) (hc : AreLoaded children)
    (h : (groupOf entries children).result = .ok g) : g.toNode.IsLoaded := by
  obtain ⟨join, hgroup⟩ := groupOf_eq entries children
  cases hgroup.symm.trans h
  exact ⟨Value.isDocument_orElse (Value.get_isDocument he "name") rfl, hc⟩

mutual
/-- A node that is read from a document is loaded. -/
theorem ofDocument_isLoaded : ∀ {v : Value} {node : Node}, v.isDocument = true →
    (ofDocument v).result = .ok node → node.IsLoaded
  | .object entries, node, hv, h => by
    rw [ofDocument] at h
    split at h
    · obtain ⟨children, hchildren, h⟩ := Report.bind_eq_ok h
      obtain ⟨g, hg, h⟩ := Report.bind_eq_ok h
      cases h
      exact groupOf_isLoaded hv (childrenOf_areLoaded (Value.isDocument_of_mem_entries hv) hchildren)
        hg
    · obtain ⟨r, hr, h⟩ := Report.bind_eq_ok h
      cases h
      exact Rule.ofEntries?_isLoaded hv hr
  | .null, _, _, h | .bool _, _, _, h | .int _, _, _, h | .float _, _, _, h | .text _, _, _, h
  | .list _, _, _, h | .tuple _, _, _, h | .date _, _, _, h | .stamp _, _, _, h
  | .status _, _, _, h => nomatch h
theorem childrenOf_areLoaded : ∀ {entries : List (String × Value)} {children : List Node},
    (∀ e ∈ entries, e.2.isDocument = true) → (childrenOf entries).result = .ok children →
      AreLoaded children
  | [], _, _, h => by cases h; trivial
  | (key, v) :: rest, children, he, h => by
    obtain ⟨hv, hrest⟩ := List.forall_mem_cons.1 he
    rw [childrenOf] at h
    split at h
    · exact ofList_areLoaded hv h
    · exact childrenOf_areLoaded hrest h
theorem ofList_areLoaded : ∀ {v : Value} {children : List Node}, v.isDocument = true →
    (ofList v).result = .ok children → AreLoaded children
  | .list _, _, hv, h => ofItems_areLoaded (Value.isDocument_list.1 hv) h
  | .null, _, _, h | .bool _, _, _, h | .int _, _, _, h | .float _, _, _, h | .text _, _, _, h
  | .object _, _, _, h | .tuple _, _, _, h | .date _, _, _, h | .stamp _, _, _, h
  | .status _, _, _, h => nomatch h
theorem ofItems_areLoaded : ∀ {items : List Value} {nodes : List Node},
    (∀ v ∈ items, v.isDocument = true) → (ofItems items).result = .ok nodes → AreLoaded nodes
  | [], _, _, h => by cases h; trivial
  | v :: rest, nodes, hv, h => by
    obtain ⟨hv, hrest⟩ := List.forall_mem_cons.1 hv
    rw [ofItems] at h
    obtain ⟨node, hnode, h⟩ := Report.bind_eq_ok h
    obtain ⟨nodes', hnodes, h⟩ := Report.bind_eq_ok h
    cases h
    exact ⟨ofDocument_isLoaded hv hnode, ofItems_areLoaded hrest hnodes⟩
end

end Node

/-- The filter that is read from a text is loaded. -/
theorem Group.ofText_isLoaded {t : String} {g : Group} (h : (ofText t).result = .ok g) :
    g.toNode.IsLoaded := by
  unfold ofText at h
  split at h
  · rename_i v hv
    have hdocument := Json.parseWith_isDocument hv
    cases v with
    | object entries =>
      obtain ⟨children, hchildren, hg⟩ := Report.bind_eq_ok h
      exact Node.groupOf_isLoaded hdocument (Node.childrenOf_areLoaded
        (Value.isDocument_of_mem_entries hdocument) hchildren) hg
    | _ => cases h
  · cases h

end ShelfRules
