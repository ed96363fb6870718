import ShelfRules.Proofs.CanonicalFilters
import ShelfRules.Proofs.WrittenDocuments

/-!
# Letters of canonical filters

What is written of a canonical filter are the names of its groups, the fields and operators of its rules
and the texts among its operands, with words around them that are the same for every filter. A filter
that is the same has the same letters in these places, so that either both can be written or none.

Results:
* `Value.FitsValue.hasLetter_stored`: the letters of a stored operand are its own.
* `Node.hasLetter_document`: the letters of a stored tree are those of its names and operands.
* `Group.hasLetter_document_congr`: the same filters have the same letters.
-/

namespace ShelfRules

section Letters

variable {p : Char → Bool}

/-! ## Operands -/

namespace Value

theorem entryHasLetter_withoutNulls {entries : Entries}
    (hkeys : ∀ e ∈ entries, e.1.toList.any p = false) :
    entryHasLetter p (entriesWithoutNulls entries) = entries.any fun e => e.2.withoutNulls.hasLetter p := by
  induction entries with
  | nil => rfl
  | cons e rest ih =>
    obtain ⟨k, v⟩ := e
    obtain ⟨hk, hrest⟩ := List.forall_mem_cons.1 hkeys
    rw [entriesWithoutNulls_cons, List.any_cons, ← ih hrest]
    split
    · rename_i hnull
      rw [eq_null_of_isNull hnull]
      rfl
    · rw [entryHasLetter, hk, Bool.false_or]

variable {type : Option FieldType} {v w : Value}

/-- Operands that fit and are the same have the same letters. -/
theorem Fits.hasLetter_congr (hv : Fits type v) (hw : Fits type w) (h : w.same v = true) :
    w.hasLetter p = v.hasLetter p := by
  cases hv with
  | text s =>
    cases hw with
    | text t =>
      rw [same_text, beq_iff_eq] at h
      rw [h]
    | _ => simp [same] at h
  | _ => cases hw <;> first | rfl | simp [same] at h

theorem FitsValue.hasLetter_congr (hv : FitsValue type v) (hw : FitsValue type w) (h : w.same v = true) :
    w.hasLetter p = v.hasLetter p := by
  have hitems : ∀ {vs ws : List Value}, (∀ v ∈ vs, v ≠ .null ∧ Fits type v) →
      (∀ w ∈ ws, w ≠ .null ∧ Fits type w) → sameAll ws vs = true →
      anyHasLetter p ws = anyHasLetter p vs := by
    intro vs
    induction vs with
    | nil =>
      intro ws _ _ h
      cases ws with
      | nil => rfl
      | cons => cases h
    | cons v rest ih =>
      intro ws hvs hws h
      cases ws with
      | nil => cases h
      | cons w ws =>
        obtain ⟨hv, hrest⟩ := List.forall_mem_cons.1 hvs
        obtain ⟨hw, hws⟩ := List.forall_mem_cons.1 hws
        rw [sameAll, Bool.and_eq_true] at h
        rw [anyHasLetter, anyHasLetter, hv.2.hasLetter_congr hw.2 h.1, ih hrest hws h.2]
  cases hv with
  | single hv =>
    cases hw with
    | single hw => exact hv.hasLetter_congr hw h
    | tuple => cases hv <;> simp [same, moment] at h
  | tuple hvs =>
    cases hw with
    | single hw => cases hw <;> simp [same, moment] at h
    | tuple hws => exact hitems hvs hws h

section Stored

variable (hp : ∀ c, Json.isFrame c = true → p c = false)
include hp

theorem Fits.hasLetter_stored (h : Fits type v) : (v.stored type).hasLetter p = v.hasLetter p := by
  cases h with
  | @day d hyear =>
    have hpadded : ∀ n, (padded 2 n).all Json.isFrame = true := by
      intro n
      rw [padded, List.all_append, Json.toDigits_isFrame, List.all_replicate]
      split <;> decide
    have hday : d.shortChars.all Json.isFrame = true := by
      simp only [Date.shortChars, List.all_append, List.all_cons, Json.toDigits_isFrame, hpadded]
      decide
    have hstored : (Value.moment (.ofDate d)).stored (some .date) =
        .text (String.ofList d.shortChars) := rfl
    rw [hstored, hasLetter, String.toList_ofList, Json.any_of_isFrame hp hday]
    rfl
  | _ => rfl

/-- The letters of the stored form of an operand are its own. -/
theorem FitsValue.hasLetter_stored (h : FitsValue type v) :
    (v.stored type).withoutNulls.hasLetter p = v.hasLetter p := by
  cases h with
  | single h => rw [h.withoutNulls_stored.1, h.hasLetter_stored hp]
  | @tuple items hitems =>
    show anyHasLetter p (itemsWithoutNulls (storedItems type items)) = anyHasLetter p items
    rw [itemsWithoutNulls_stored hitems]
    induction items with
    | nil => rfl
    | cons v rest ih =>
      obtain ⟨hv, hrest⟩ := List.forall_mem_cons.1 hitems
      rw [storedItems, anyHasLetter, anyHasLetter, hv.2.hasLetter_stored hp, ih hrest]

end Stored

end Value

/-! ## Trees -/

/-- A character with a property stands in the name of the field or the operator, or in an operand. -/
def Rule.hasLetter (p : Char → Bool) (r : Rule) : Bool :=
  r.field.text.toList.any p || (r.operator.text.toList.any p || (r.value.hasLetter p ||
    (r.start.hasLetter p || r.finish.hasLetter p)))

namespace Node

mutual
/-- A character with a property stands in the name of a group or in a rule. -/
def hasLetter (p : Char → Bool) : Node → Bool
  | rule r => r.hasLetter p
  | group name _ children => name.hasLetter p || anyHasLetter p children
/-- Such a character stands in one of the nodes. -/
def anyHasLetter (p : Char → Bool) : List Node → Bool
  | [] => false
  | node :: rest => node.hasLetter p || anyHasLetter p rest
end

end Node

theorem Rule.hasLetter_congr {r s : Rule} (hr : r.IsCanonical) (hs : s.IsCanonical)
    (h : (Node.rule s).same (.rule r) = true) : s.hasLetter p = r.hasLetter p := by
  simp only [Node.same, Bool.and_eq_true, beq_iff_eq] at h
  obtain ⟨⟨⟨⟨hfield, hoperator⟩, hvalue⟩, hstart⟩, hfinish⟩ := h
  obtain ⟨hsv, hss, hsf⟩ := hs
  rw [hfield] at hsv hss hsf
  rw [Rule.hasLetter, Rule.hasLetter, hfield, hoperator, hr.value.hasLetter_congr hsv hvalue,
    hr.start.hasLetter_congr hss hstart, hr.finish.hasLetter_congr hsf hfinish]

mutual
/-- Canonical trees that are the same have the same letters. -/
theorem Node.hasLetter_congr : ∀ {a b : Node}, a.IsCanonical → b.IsCanonical → b.same a = true →
    b.hasLetter p = a.hasLetter p
  | .rule _, .rule _, ha, hb, h => Rule.hasLetter_congr ha hb h
  | .group _ _ as, .group _ _ bs, ⟨⟨s, hs⟩, ha⟩, ⟨⟨t, ht⟩, hb⟩, h => by
    subst hs ht
    rw [Node.same, Bool.and_eq_true, Bool.and_eq_true, Value.same_text, beq_iff_eq] at h
    rw [Node.hasLetter, Node.hasLetter, h.1.1, anyHasLetter_congr ha hb h.2]
  | .rule _, .group .., _, _, h | .group .., .rule _, _, _, h => nomatch h
theorem Node.anyHasLetter_congr : ∀ {as bs : List Node}, Node.AreCanonical as → Node.AreCanonical bs →
    Node.sameAll bs as = true → Node.anyHasLetter p bs = Node.anyHasLetter p as
  | [], [], _, _, _ => rfl
  | _ :: _, _ :: _, ha, hb, h => by
    rw [Node.sameAll, Bool.and_eq_true] at h
    rw [Node.anyHasLetter, Node.anyHasLetter, hasLetter_congr ha.1 hb.1 h.1,
      anyHasLetter_congr ha.2 hb.2 h.2]
  | [], _ :: _, _, _, h | _ :: _, [], _, _, h => nomatch h
end

theorem Rule.hasLetter_document (hp : ∀ c, Json.isFrame c = true → p c = false) {r : Rule}
    (hr : r.IsCanonical) : r.document.withoutNulls.hasLetter p = r.hasLetter p := by
  have hkeys : ∀ e ∈ r.entries, e.1.toList.any p = false := by
    intro e he
    have hkey : e.1 ∈ ["field", "operator", "value", "valueStart", "valueEnd"] := List.mem_map_of_mem he
    have hall : ∀ k ∈ ["field", "operator", "value", "valueStart", "valueEnd"],
        k.toList.all Json.isFrame = true := by decide
    exact Json.any_of_isFrame hp (hall _ hkey)
  rw [Rule.withoutNulls_document, Value.hasLetter, Rule.storedEntries,
    Value.entryHasLetter_withoutNulls hkeys, Rule.hasLetter, ← hr.value.hasLetter_stored hp,
    ← (Value.FitsValue.single hr.start).hasLetter_stored hp,
    ← (Value.FitsValue.single hr.finish).hasLetter_stored hp]
  simp [Rule.entries, Value.withoutNulls, Value.hasLetter]

mutual
/-- The letters of the stored form of a tree are those of its names and operands. -/
theorem Node.hasLetter_document (hp : ∀ c, Json.isFrame c = true → p c = false) :
    ∀ {node : Node}, node.IsCanonical → node.document.withoutNulls.hasLetter p = node.hasLetter p
  | .rule _, h => Rule.hasLetter_document hp h
  | .group _ join children, ⟨⟨s, hs⟩, hchildren⟩ => by
    subst hs
    have hjoin : join.name.toList.any p = false := by
      cases join <;> exact Json.any_of_isFrame hp (by decide)
    have htype : "group".toList.any p = false := Json.any_of_isFrame hp (by decide)
    have hkeys : ∀ k ∈ ["name", "type", "join", "rules"], k.toList.any p = false := by
      have hall : ∀ k ∈ ["name", "type", "join", "rules"], k.toList.all Json.isFrame = true := by decide
      exact fun k hk => Json.any_of_isFrame hp (hall k hk)
    show Value.entryHasLetter p (Value.entriesWithoutNulls _) = _
    rw [Value.entryHasLetter_withoutNulls fun e he => hkeys e.1 (List.mem_map_of_mem he)]
    have hchildren := Node.anyHasLetter_documents hp hchildren
    simp only [List.any_cons, List.any_nil, Value.withoutNulls, Value.hasLetter, hjoin, htype, hchildren,
      Bool.false_or, Bool.or_false, Node.hasLetter]
theorem Node.anyHasLetter_documents (hp : ∀ c, Json.isFrame c = true → p c = false) :
    ∀ {nodes : List Node}, Node.AreCanonical nodes →
      Value.anyHasLetter p (Value.itemsWithoutNulls (Node.documents nodes)) = Node.anyHasLetter p nodes
  | [], _ => rfl
  | _ :: _, h => by
    rw [Node.itemsWithoutNulls_documents_cons, Value.anyHasLetter, hasLetter_document hp h.1,
      anyHasLetter_documents hp h.2, Node.anyHasLetter]
end

/-- Canonical filters that are the same have the same letters in their stored forms. -/
theorem Group.hasLetter_document_congr (hp : ∀ c, Json.isFrame c = true → p c = false) {g g' : Group}
    (hg : g.IsCanonical) (hg' : g'.IsCanonical)
    (h : g'.toNode.same g.toNode = true) : g'.document.hasLetter p = g.document.hasLetter p := by
  rw [Group.document, Group.document, Node.hasLetter_document hp hg', Node.hasLetter_document hp hg,
    Node.hasLetter_congr hg hg' h]

end Letters

end ShelfRules
