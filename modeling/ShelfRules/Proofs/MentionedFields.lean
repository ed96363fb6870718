import ShelfRules.Proofs.WrittenFilters

/-!
# Filters ask for the fields they mention

The answer of a rule depends on a record through the value and the set of texts of its field alone, and
the answer of a tree through the answers of its rules. A known field is read from one key of a payload:
eight of them from a key of the book, the others from the key of their own name in the metadata. So two
payloads that agree under the keys of the fields that a filter mentions get the same answer, or the same
fault, whatever else they hold.

Results:
* `Rule.verdict_eq_of_field`, `Node.verdict_eq_of_rules`: what an answer depends on.
* `Field.fieldValue_ofPayload`: a known field is read from its key.
* `Group.verdict_of_agreeing`: payloads that agree under the keys of a filter get the same answer.
-/

namespace ShelfRules

/-! ## What an answer depends on -/

/-- Two records of which a rule reads the same get the same answer. -/
theorem Rule.verdict_eq_of_field {r : Rule} {a b : Record}
    (hsubject : a.subject? r.field = b.subject? r.field)
    (htexts : a.texts? r.field = b.texts? r.field) : r.verdict a = r.verdict b := by
  rw [verdict, verdict, hsubject, htexts]

namespace Node

mutual
/-- Two records to which the rules of a tree answer alike get the same answer of the tree. -/
theorem verdict_eq_of_rules {a b : Record} : ∀ {node : Node},
    (∀ r ∈ node.rules, r.verdict a = r.verdict b) → node.verdict a = node.verdict b
  | rule r, h => by
    rw [verdict, verdict, h r (List.mem_singleton_self r)]
  | group name join children, h => by
    rw [verdict, verdict, verdicts_eq_of_rules h]
theorem verdicts_eq_of_rules {a b : Record} : ∀ {nodes : List Node},
    (∀ r ∈ rulesOf nodes, r.verdict a = r.verdict b) → verdicts a nodes = verdicts b nodes
  | [], _ => rfl
  | node :: rest, h => by
    have hnode := verdict_eq_of_rules fun r hr => h r (List.mem_append_left _ hr)
    have hrest := verdicts_eq_of_rules fun r hr => h r (List.mem_append_right _ hr)
    rw [verdicts, verdicts, hnode, hrest]
end

end Node

/-! ## The keys of fields -/

namespace Field

/-- The key of a field among those of the book; none when it is read from the metadata. -/
def bookKey? : Field → Option String
  | .library => some "libraryId"
  | .fileType => some "fileName"
  | .fileSize => some "fileSizeKb"
  | .metadataScore => some "metadataMatchScore"
  | .readStatus => some "readStatus"
  | .personalRating => some "personalRating"
  | .dateFinished => some "dateFinished"
  | .lastReadTime => some "lastReadTime"
  | _ => none

/-- What a payload has under the key of a field, null when there is none: a key of the book, or the name
of the field in the metadata. Metadata that are no object have no keys. -/
def payloadValue (field : Field) (payload : Value) : Value :=
  match field.bookKey? with
  | some key => payload.get key
  | none => (payload.get Book.metadataKey).get field.name

/-- The attribute of a field is the one of its key. -/
theorem bookKey?_source (field : Field) :
    (∃ key, field.source = .ofBook key ∧ field.bookKey? = some key.payloadKey ∧ key.absent = .null) ∨
    ∃ key, field.source = .ofMetadata key ∧ field.bookKey? = none ∧ key.payloadKey = field.name := by
  cases field with
  | library | fileType | fileSize | metadataScore | readStatus | personalRating | dateFinished
  | lastReadTime => exact .inl ⟨_, rfl, rfl, rfl⟩
  | _ => exact .inr ⟨_, rfl, rfl, rfl⟩

end Field

namespace Record

theorem value_ofEntries (entries : Entries) {key : BookKey} (h : key.absent = .null) :
    (book (.ofEntries entries)).value key = entries.get key.payloadKey := by
  rw [value_book, Entries.get, ← h]
  rfl

theorem metadata_ofEntries (entries : Entries) (key : MetadataKey) :
    (book (.ofEntries entries)).metadata key =
      (entries.get Book.metadataKey).get key.payloadKey := by
  rw [metadata_book, Book.ofEntries]
  cases entries.get Book.metadataKey <;> rfl

end Record

/-- The book of a payload has under a field what the payload has under its key. -/
theorem Field.fieldValue_ofPayload (field : Field) {payload : Value} {b : Book}
    (h : Book.ofPayload? payload = some b) :
    (Record.book b).fieldValue field = field.payloadValue payload := by
  cases payload with
  | object entries =>
    cases h
    rw [Record.fieldValue, payloadValue]
    rcases field.bookKey?_source with ⟨key, hsource, hkey, habsent⟩ | ⟨key, hsource, hkey, hname⟩
    · rw [hsource, hkey]
      exact Record.value_ofEntries entries habsent
    · rw [hsource, hkey, ← hname]
      exact Record.metadata_ofEntries entries key
  | _ => cases h

/-! ## Filters -/

/-- One of the rules tests the field. -/
def Group.Mentions (g : Group) (field : Field) : Prop := ∃ r ∈ g.rules, r.field = .known field

/-- Two payloads that agree under the key of every field that a filter of known fields mentions get the
same answer from it, or the same fault. -/
theorem Group.verdict_of_agreeing {g : Group} (hknown : ∀ r ∈ g.rules, ∃ field, r.field = .known field)
    {p q : Value} {b c : Book} (hb : Book.ofPayload? p = some b) (hc : Book.ofPayload? q = some c)
    (hagree : ∀ field, g.Mentions field → field.payloadValue p = field.payloadValue q) :
    g.verdict (.book b) = g.verdict (.book c) := by
  refine Node.verdict_eq_of_rules fun r hr => ?_
  obtain ⟨field, hfield⟩ := hknown r hr
  have hvalue : (Record.book b).fieldValue field = (Record.book c).fieldValue field := by
    rw [field.fieldValue_ofPayload hb, field.fieldValue_ofPayload hc, hagree field ⟨r, hr, hfield⟩]
  refine Rule.verdict_eq_of_field ?_ ?_
  · rw [hfield, Record.subject?_known, Record.subject?_known, hvalue]
  · rw [hfield, Record.texts?, Record.texts?, hvalue]

/-- A filter for the books of a title that are not begun, or whose extension is not known. -/
def Group.untouchedEmma : Group := ⟨.text "", .all, [
  .rule ⟨.known .title, .known .contains, .text "EMMA", .null, .null,
    .scalar (.text "EMMA") (.text "emma"), rfl, rfl⟩,
  .group (.text "") .any [
    .rule ⟨.known .readStatus, .known .includesAny, .tuple [.text "Unread", .text "Unset"], .null, .null,
      .set [.text "unread", .text "unset"], rfl, rfl⟩,
    .rule ⟨.known .fileType, .known .isEmpty, .int 0, .null, .null, .scalar (.int 0) (.int 0),
      rfl, rfl⟩]]⟩

/-- The payload of a book with a title, whose authors are no list. -/
def emmaUnlisted : Entries := [
  ("metadata", .object [("authors", .bool true), ("title", .text "EMMA, Vol. 1")]),
  ("libraryId", .int 1), ("readStatus", .null)]

/-- The payload of a book with the same title, whose authors are listed. -/
def emmaListed : Entries := [
  ("fileName", .null), ("shelfmark", .text "E 1"),
  ("metadata", .object [("title", .text "EMMA, Vol. 1"), ("authors", .list [.text "Jane Austen"])])]

/-- The two payloads tell the same title and neither a status nor a file, one of them by nulls; so they
get the same answer, although they agree under no other key. -/
theorem Group.untouchedEmma_agreeing :
    untouchedEmma.verdict (.book (.ofEntries emmaUnlisted)) =
        untouchedEmma.verdict (.book (.ofEntries emmaListed)) ∧
      untouchedEmma.verdict (.book (.ofEntries emmaListed)) = .ok true := by
  have hrules : ∀ r ∈ untouchedEmma.rules, r.field = .known .title ∨ r.field = .known .readStatus ∨
      r.field = .known .fileType := by decide +kernel
  have hknown : ∀ r ∈ untouchedEmma.rules, ∃ field, r.field = .known field := by
    intro r hr
    rcases hrules r hr with h | h | h <;> exact ⟨_, h⟩
  refine ⟨verdict_of_agreeing (p := .object emmaUnlisted) (q := .object emmaListed) hknown rfl rfl ?_,
    by decide +kernel⟩
  rintro field ⟨r, hr, hfield⟩
  have hmentioned := hrules r hr
  rw [hfield] at hmentioned
  rcases hmentioned with h | h | h <;> cases h <;> rfl

end ShelfRules
