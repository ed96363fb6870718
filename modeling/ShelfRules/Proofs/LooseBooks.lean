import ShelfRules.Proofs.MentionedFields

/-!
# Books as loose values

A mapping tells a book when it has under each name of a record what the book has there, and nothing under
any other name; the metadata are a mapping of their own, or null. A filter gives such a mapping the answer
that it gives the book, or the same fault, under every field and every unknown name. The two records may
differ in the order of their entries, and so in the mapping under the name of the metadata; but a rule
that asks for a mapping by an unknown name is told nothing of what is in it.

Results:
* `Operator.test?_object`: an operator does not look into a mapping.
* `Book.part_toValue`: the mapping of a book has the parts of the book.
* `Book.IsToldBy.subject?_cases`, `Book.IsToldBy.texts?_eq`: what a rule reads of a mapping that tells a book.
* `Group.toldBook_answered_alike`: a filter answers such a mapping as it answers the book.
-/

namespace ShelfRules

/-! ## Mappings as subjects -/

namespace Value

theorem equals_object (entries : Entries) (v : Value) : (object entries).equals v = false := by
  cases v <;> rfl

/-- A mapping is neither before nor behind a value. -/
theorem compare?_object (entries : Entries) (v : Value) :
    (object entries).compare? v = v.number?.map fun _ => none := by
  have hnumbers : (object entries).compare? v = (object entries).compareNumbers? v := by
    cases v <;> rfl
  have hnumber : (object entries).number? = .ok .nan := rfl
  have hnan : Double.nan.compare = fun _ => none := funext fun _ => rfl
  rw [hnumbers, compareNumbers?, hnumber, ok_bind, hnan]

theorem isBetween?_object (a b : Entries) (start finish : Value) :
    (object a).isBetween? start finish = (object b).isBetween? start finish := by
  cases start with
  | null => rfl
  | _ => cases finish <;> rfl

end Value

namespace Operand

variable (operand : Operand)

theorem matches?_object (entries : Entries) : operand.matches? (.object entries) = .ok false :=
  congrArg Except.ok (Value.equals_object entries operand.value)

theorem relates?_object (relation : List Char → List Char → Bool) (negated : Bool)
    (entries : Entries) : operand.relates? relation negated (.object entries) = .ok negated := by
  unfold relates?
  cases operand.value <;> rfl

theorem orders?_object (test : Ordering → Bool) (entries : Entries) :
    operand.orders? test (.object entries) = operand.value.number?.map fun _ => false := by
  rw [orders?, Value.compare?_object]
  cases operand.value.number? <;> rfl

end Operand

/-- An operator does not look into a mapping: any other one gives the same answer. -/
theorem Operator.test?_object (operator : Operator) (a b : Entries) (operand : Operand)
    (set : Except Fault (List Value)) :
    operator.test? (.object a) operand set = operator.test? (.object b) operand set := by
  cases operator with
  | equals => rw [test?, test?, operand.matches?_object, operand.matches?_object]
  | notEquals =>
    rw [test?, test?, operand.differs?_eq, operand.differs?_eq, operand.matches?_object,
      operand.matches?_object]
  | contains | doesNotContain | startsWith | endsWith =>
    rw [test?, test?, operand.relates?_object, operand.relates?_object]
  | greaterThan | greaterThanEqualTo | lessThan | lessThanEqualTo =>
    rw [test?, test?, operand.orders?_object, operand.orders?_object]
  | inBetween =>
    cases operand with
    | range start finish => exact Value.isBetween?_object a b start finish
    | _ => rfl
  | isEmpty | isNotEmpty | includesAny | excludesAll | includesAll => rfl

/-! ## The mapping of a book -/

/-- The value under a name in the entries made from keys is that of the key with the name. -/
theorem lookup_map_keys {κ : Type} (keys : List κ) (name : κ → String) (value : κ → Value)
    (s : String) :
    (keys.map fun key => (name key, value key)).lookup s =
      (keys.find? fun key => name key == s).map value := by
  induction keys with
  | nil => rfl
  | cons key rest ih =>
    rw [List.map_cons, List.lookup_cons, List.find?_cons, ih, Bool.beq_comm]
    cases name key == s <;> rfl

namespace Book

/-- The book as a mapping with the names of records. -/
def toValue (b : Book) : Value :=
  .object (BookKey.all.map (fun key => (key.name, b.value key)) ++
    [(metadataKey, (b.metadata.map Metadata.toValue).getD .null), (extraKey, b.extra)])

theorem name_ne_metadataKey (key : BookKey) : key.name ≠ metadataKey := by
  cases key <;> decide

/-- The mapping of a book has under every name what the book has there. -/
theorem part_toValue (b : Book) (name : String) : b.toValue.part name = (Record.book b).get name := by
  rw [toValue, Value.part_object, Entries.get, List.lookup_append, lookup_map_keys, Record.get]
  split
  · rename_i hname
    subst hname
    rfl
  · rename_i hmetadata
    split
    · rename_i hname
      subst hname
      rfl
    · rename_i hextra
      have hothers : List.lookup name [(metadataKey, (b.metadata.map Metadata.toValue).getD .null),
          (extraKey, b.extra)] = none := by
        simp [List.lookup_cons, beq_false_of_ne hmetadata, beq_false_of_ne hextra]
      rw [hothers, Option.or_none]
      rfl

end Book

theorem Record.subject?_unknown_congr {r s : Record} {raw : String} (fresh : Field.ofName? raw = none)
    (hraw : r.get raw = s.get raw) (hextra : r.get Book.extraKey = s.get Book.extraKey) :
    r.subject? (.unknown raw fresh) = s.subject? (.unknown raw fresh) := by
  rw [subject?, subject?, hraw, hextra]

/-! ## Mappings that tell a book -/

/-- The value is a mapping that has under each name of the metadata what they have there. -/
structure Metadata.IsToldBy (m : Metadata) (v : Value) : Prop where
  isObject : ∃ entries, v = .object entries
  part_eq : ∀ key : MetadataKey, v.part key.name = m.value key

/-- The value has under each name what the book has there, the metadata being a mapping in any order, or
null when there are none. -/
structure Book.IsToldBy (b : Book) (v : Value) : Prop where
  part_eq : ∀ name, name ≠ metadataKey → v.part name = (Record.book b).get name
  metadata_null : b.metadata = none → v.part metadataKey = .null
  metadata_told : ∀ m, b.metadata = some m → m.IsToldBy (v.part metadataKey)

namespace Book

/-- The mapping of a book tells it. -/
theorem isToldBy_toValue (b : Book) : b.IsToldBy b.toValue where
  part_eq name _ := b.part_toValue name
  metadata_null h := by
    rw [part_toValue, Record.get, if_pos rfl, h]
    rfl
  metadata_told m h := by
    rw [part_toValue, Record.get, if_pos rfl, h]
    exact ⟨⟨_, rfl⟩, m.part_toValue⟩

namespace IsToldBy

variable {b : Book} {v : Value} (h : b.IsToldBy v)

include h

/-- Each field is read from the same value. -/
theorem fieldValue_eq (field : Field) :
    (Record.loose v).fieldValue field = (Record.book b).fieldValue field := by
  unfold Record.fieldValue
  cases field.source with
  | ofBook key => exact h.part_eq _ (name_ne_metadataKey key)
  | ofMetadata key =>
    dsimp only
    rw [Record.metadata_book, Record.metadata, Record.get]
    cases hm : b.metadata with
    | none => rw [h.metadata_null hm]; rfl
    | some m => exact (h.metadata_told m hm).part_eq key

theorem texts?_eq (name : FieldName) :
    (Record.loose v).texts? name = (Record.book b).texts? name := by
  cases name with
  | known field => rw [Record.texts?, Record.texts?, h.fieldValue_eq]
  | unknown raw fresh => rfl

/-- An unknown field is looked up to the same value, but for the metadata, which are mappings in both. -/
theorem subject?_cases (name : FieldName) :
    (Record.loose v).subject? name = (Record.book b).subject? name ∨
      ∃ told own, (Record.loose v).subject? name = .ok (.object told) ∧
        (Record.book b).subject? name = .ok (.object own) := by
  cases name with
  | known field => exact .inl (by rw [Record.subject?_known, Record.subject?_known, h.fieldValue_eq])
  | unknown raw fresh =>
    have hextra : (Record.loose v).get extraKey = (Record.book b).get extraKey :=
      h.part_eq extraKey (by decide)
    by_cases hname : raw = metadataKey
    · subst hname
      cases hm : b.metadata with
      | none =>
        refine .inl (Record.subject?_unknown_congr fresh ?_ hextra)
        rw [Record.get, h.metadata_null hm, Record.get, if_pos rfl, hm]
        rfl
      | some m =>
        obtain ⟨told, htold⟩ := (h.metadata_told m hm).isObject
        refine .inr ⟨told, MetadataKey.all.map fun key => (key.name, m.value key), ?_, ?_⟩
        · rw [Record.subject?, if_neg (by decide), Record.get, htold]
        · rw [Record.subject?, if_neg (by decide), Record.get, if_pos rfl, hm]
          rfl
    · exact .inl (Record.subject?_unknown_congr fresh (h.part_eq raw hname) hextra)

/-- A rule answers a mapping that tells a book as it answers the book. -/
theorem rule_verdict_eq (r : Rule) : r.verdict (.loose v) = r.verdict (.book b) := by
  rcases h.subject?_cases r.field with hsubject | ⟨told, own, htold, hown⟩
  · exact Rule.verdict_eq_of_field hsubject (h.texts?_eq r.field)
  · rw [Rule.verdict, Rule.verdict, htold, hown, h.texts?_eq]
    cases r.operator with
    | known operator => exact operator.test?_object told own _ _
    | unknown raw fresh => rfl

end IsToldBy

end Book

/-- A filter gives the mapping of a book, and any other one that tells the book, the answer that it gives
the book, or the same fault. -/
theorem Group.toldBook_answered_alike (g : Group) (b : Book) :
    g.verdict (.loose b.toValue) = g.verdict (.book b) ∧
      ∀ v, b.IsToldBy v → g.verdict (.loose v) = g.verdict (.book b) := by
  have htold : ∀ v, b.IsToldBy v → g.verdict (.loose v) = g.verdict (.book b) := fun v h =>
    Node.verdict_eq_of_rules fun r _ => h.rule_verdict_eq r
  exact ⟨htold _ b.isToldBy_toValue, htold⟩

/-! ## A mapping in another order -/

/-- The book of a payload with a title, a boolean for its authors and a mark on the shelf. -/
def markedEmma : Book := .ofEntries [
  ("metadata", .object [("title", .text "Emma"), ("authors", .bool true)]), ("signature", .text "E 1")]

/-- Its metadata as a mapping, from the last name to the first. -/
def markedEmmaBackwards : Value :=
  .object (MetadataKey.all.reverse.map fun key =>
    (key.name, (markedEmma.metadata.map (·.value key)).getD .null))

/-- A filter for the books with metadata and a mark, which asks by names that are no fields. -/
def Group.marked : Group := ⟨.text "", .all, [
  .rule ⟨.unknown "metadata" (by decide), .known .isNotEmpty, .tuple [], .null, .null,
    .scalar (.tuple []) (.list []), rfl, rfl⟩,
  .rule ⟨.unknown "signature" (by decide), .known .startsWith, .text "E", .null, .null,
    .scalar (.text "E") (.text "e"), rfl, rfl⟩,
  .rule ⟨.unknown "extra" (by decide), .known .notEquals, .text "E", .null, .null,
    .scalar (.text "E") (.text "e"), rfl, rfl⟩]⟩

/-- The mapping of the book with the metadata in another order is answered as the book. -/
theorem Group.marked_answered_alike :
    markedEmma.IsToldBy (markedEmma.toValue.set Book.metadataKey markedEmmaBackwards) ∧
      marked.verdict (.loose (markedEmma.toValue.set Book.metadataKey markedEmmaBackwards)) =
        marked.verdict (.book markedEmma) ∧
      marked.verdict (.book markedEmma) = .ok true := by
  have htold : markedEmma.IsToldBy (markedEmma.toValue.set Book.metadataKey markedEmmaBackwards) := by
    refine ⟨fun name hname => ?_, nofun, fun m hm => ?_⟩
    · rw [← Book.part_toValue]
      exact congrArg (·.getD .null) (Entries.lookup_set_of_ne hname _ _)
    · cases hm
      exact ⟨⟨_, rfl⟩, fun key => by cases key <;> rfl⟩
  exact ⟨htold, (toldBook_answered_alike marked markedEmma).2 _ htold, by decide +kernel⟩

end ShelfRules
