import ShelfRules.Proofs.JsonDocuments
import ShelfRules.Proofs.LoadedFilters

/-!
# Loaded filters that are written again

The stored form of a rule turns a timestamp into text when it is an operand, or an item of the operand
of an operator on several values. A timestamp that stands deeper, in a list that is a bound of a range
or an item of an operand, is left as it is and has no form in JSON.

Results:
* `Value.stored_isLoaded`: what is left of the timestamps of an operand.
* `Node.document_isLoaded`: what is left of the timestamps of a tree.
* `Group.text?_of_isLoaded`: when a loaded filter is written.
-/

namespace ShelfRules

/-! ## Leaving out nulls -/

namespace Value

theorem itemsWithoutNulls_cons (v : Value) (rest : List Value) : itemsWithoutNulls (v :: rest) =
    if v.isNull then itemsWithoutNulls rest else withoutNulls v :: itemsWithoutNulls rest := by
  cases v <;> rfl

theorem entriesWithoutNulls_cons (k : String) (v : Value) (rest : Entries) :
    entriesWithoutNulls ((k, v) :: rest) =
      if v.isNull then entriesWithoutNulls rest
      else (k, withoutNulls v) :: entriesWithoutNulls rest := by
  cases v <;> rfl

theorem eq_null_of_isNull {v : Value} (h : v.isNull = true) : v = .null := by
  cases v with
  | null => rfl
  | _ => cases h

theorem has_entriesWithoutNulls {entries : Entries} {key : String} (h : entries.has key = false) :
    Entries.has (entriesWithoutNulls entries) key = false := by
  induction entries with
  | nil => rfl
  | cons e rest ih =>
    obtain ⟨k, v⟩ := e
    rw [Entries.has_cons, Bool.or_eq_false_iff] at h
    rw [entriesWithoutNulls_cons]
    split
    · exact ih h.2
    · rw [Entries.has_cons, h.1, ih h.2, Bool.or_false]

mutual
theorem withoutNulls_isDatedJson : ∀ {v : Value}, v.isDatedJson = true →
    v.withoutNulls.isDatedJson = true
  | .null, _ | .bool _, _ | .int _, _ | .float _, _ | .text _, _ | .stamp _, _ => rfl
  | .list _, h => itemsWithoutNulls_areDatedJson h
  | .object _, h => entriesWithoutNulls_areDatedJson h
theorem itemsWithoutNulls_areDatedJson : ∀ {items : List Value}, areDatedJson items = true →
    areDatedJson (itemsWithoutNulls items) = true
  | [], _ => rfl
  | v :: rest, h => by
    rw [areDatedJson, Bool.and_eq_true] at h
    rw [itemsWithoutNulls_cons]
    split
    · exact itemsWithoutNulls_areDatedJson h.2
    · rw [areDatedJson, withoutNulls_isDatedJson h.1, itemsWithoutNulls_areDatedJson h.2,
        Bool.and_self]
theorem entriesWithoutNulls_areDatedJson : ∀ {entries : List (String × Value)},
    entriesAreDatedJson entries = true → entriesAreDatedJson (entriesWithoutNulls entries) = true
  | [], _ => rfl
  | (k, v) :: rest, h => by
    simp only [entriesAreDatedJson, Bool.and_eq_true, Bool.not_eq_true'] at h
    rw [entriesWithoutNulls_cons]
    split
    · exact entriesWithoutNulls_areDatedJson h.2
    · simp only [entriesAreDatedJson, has_entriesWithoutNulls h.1.1, withoutNulls_isDatedJson h.1.2,
        entriesWithoutNulls_areDatedJson h.2, Bool.not_false, Bool.and_self]
end

mutual
/-- Nulls hold neither a timestamp nor an integer that is too long. -/
theorem withoutNulls_holds : ∀ v : Value, v.withoutNulls.holdsStamp = v.holdsStamp ∧
    v.withoutNulls.holdsLongInteger = v.holdsLongInteger
  | .null | .bool _ | .int _ | .float _ | .text _ | .date _ | .stamp _ | .status _ => ⟨rfl, rfl⟩
  | .list items | .tuple items => itemsWithoutNulls_hold items
  | .object entries => entriesWithoutNulls_hold entries
theorem itemsWithoutNulls_hold : ∀ items : List Value,
    anyHoldsStamp (itemsWithoutNulls items) = anyHoldsStamp items ∧
      anyHoldsLongInteger (itemsWithoutNulls items) = anyHoldsLongInteger items
  | [] => ⟨rfl, rfl⟩
  | v :: rest => by
    obtain ⟨hs, hl⟩ := withoutNulls_holds v
    obtain ⟨hss, hls⟩ := itemsWithoutNulls_hold rest
    rw [itemsWithoutNulls_cons]
    split
    · rename_i h
      obtain rfl := eq_null_of_isNull h
      exact ⟨hss, hls⟩
    · simp only [anyHoldsStamp, anyHoldsLongInteger, hs, hl, hss, hls, and_self]
theorem entriesWithoutNulls_hold : ∀ entries : List (String × Value),
    anyEntryHoldsStamp (entriesWithoutNulls entries) = anyEntryHoldsStamp entries ∧
      anyEntryHoldsLongInteger (entriesWithoutNulls entries) = anyEntryHoldsLongInteger entries
  | [] => ⟨rfl, rfl⟩
  | (k, v) :: rest => by
    obtain ⟨hs, hl⟩ := withoutNulls_holds v
    obtain ⟨hss, hls⟩ := entriesWithoutNulls_hold rest
    rw [entriesWithoutNulls_cons]
    split
    · rename_i h
      obtain rfl := eq_null_of_isNull h
      exact ⟨hss, hls⟩
    · simp only [anyEntryHoldsStamp, anyEntryHoldsLongInteger, hs, hl, hss, hls, and_self]
end

theorem withoutNulls_isLoaded {v : Value} (h : v.isLoaded = true) :
    v.withoutNulls.isLoaded = true := by
  rw [isLoaded, Bool.and_eq_true] at h ⊢
  rw [(withoutNulls_holds v).2]
  exact ⟨withoutNulls_isDatedJson h.1, h.2⟩

end Value

/-! ## Writing -/

namespace Json

mutual
/-- Only a timestamp stands in the way of writing a loaded value. -/
theorem obstacle?_of_isLoaded : ∀ {v : Value}, v.isLoaded = true →
    obstacle? v = if v.holdsStamp then some (.notEncodable "datetime") else none
  | .null, _ | .bool _, _ | .float _, _ | .text _, _ | .stamp _, _ => rfl
  | .int n, h => by
    have hn : isLongInteger n = false := by
      simpa [Value.isLoaded, Value.isDatedJson, Value.holdsLongInteger] using h
    simp [obstacle?, hn, Value.holdsStamp]
  | .list items, h => itemObstacle?_of_areLoaded h
  | .object entries, h => entryObstacle?_of_areLoaded h
theorem itemObstacle?_of_areLoaded : ∀ {items : List Value}, (Value.list items).isLoaded = true →
    itemObstacle? items =
      if Value.anyHoldsStamp items then some (.notEncodable "datetime") else none
  | [], _ => rfl
  | v :: rest, h => by
    rw [Value.isLoaded_list_cons, Bool.and_eq_true] at h
    rw [itemObstacle?, obstacle?_of_isLoaded h.1, itemObstacle?_of_areLoaded h.2,
      Value.anyHoldsStamp]
    cases v.holdsStamp <;> rfl
theorem entryObstacle?_of_areLoaded : ∀ {entries : Entries},
    (Value.object entries).isLoaded = true → entryObstacle? entries =
      if Value.anyEntryHoldsStamp entries then some (.notEncodable "datetime") else none
  | [], _ => rfl
  | (k, v) :: rest, h => by
    simp only [Value.isLoaded_object_cons, Bool.and_eq_true] at h
    obtain ⟨⟨_, hv⟩, hrest⟩ := h
    rw [entryObstacle?, obstacle?_of_isLoaded hv, entryObstacle?_of_areLoaded hrest,
      Value.anyEntryHoldsStamp]
    cases v.holdsStamp <;> rfl
end

/-- A loaded value is written unless a timestamp stands in it. -/
theorem encode?_of_isLoaded {v : Value} (h : v.isLoaded = true) :
    encode? v = if v.holdsStamp then .error (.notEncodable "datetime")
      else .ok (String.ofList (compact v)) := by
  rw [encode?, obstacle?_of_isLoaded h]
  cases v.holdsStamp <;> rfl

end Json

/-! ## Stored forms -/

namespace Value

mutual
/-- A timestamp stands in the value where no operand is stored: inside of a list that is an operand, or
an item of one. -/
def hidesStamp : Value → Bool
  | .stamp _ => false
  | .tuple items => anyHidesStamp items
  | v => v.holdsStamp
/-- One of the values hides a timestamp. -/
def anyHidesStamp : List Value → Bool
  | [] => false
  | v :: rest => v.hidesStamp || anyHidesStamp rest
end

variable (type : Option FieldType)

theorem storedDate_eq_text (t : Timestamp) : ∃ s, storedDate type t = .text s := by
  unfold storedDate
  split
  · exact ⟨_, rfl⟩
  · split <;> exact ⟨_, rfl⟩

/-- A loaded value that is stored is loaded; what timestamps it keeps are hidden in it. -/
theorem stored_isLoaded {v : Value} (h : v.isLoaded = true) :
    (v.stored type).isLoaded = true ∧ (v.stored type).holdsStamp = v.hidesStamp := by
  cases v with
  | stamp t =>
    obtain ⟨s, hs⟩ := storedDate_eq_text type t
    rw [stored, hs]
    exact ⟨rfl, rfl⟩
  | tuple | date | status => cases h
  | _ => exact ⟨h, rfl⟩

theorem storedItems_areLoaded {items : List Value} (h : (list items).isLoaded = true) :
    (list (storedItems type items)).isLoaded = true ∧
      anyHoldsStamp (storedItems type items) = anyHidesStamp items := by
  induction items with
  | nil => exact ⟨rfl, rfl⟩
  | cons v rest ih =>
    rw [isLoaded_list_cons, Bool.and_eq_true] at h
    obtain ⟨hv, hvs⟩ := stored_isLoaded type h.1
    obtain ⟨hrest, hrests⟩ := ih h.2
    rw [storedItems, isLoaded_list_cons, hv, hrest, anyHoldsStamp, hvs, hrests, anyHidesStamp]
    exact ⟨rfl, rfl⟩

/-- The same holds for the operand of a rule, of which the items are stored one by one. -/
theorem stored_asTuple_isLoaded {v : Value} (h : v.isLoaded = true) :
    (v.asTuple.stored type).isLoaded = true ∧
      (v.asTuple.stored type).holdsStamp = v.asTuple.hidesStamp := by
  cases v with
  | list items => exact storedItems_areLoaded type h
  | tuple | date | status => cases h
  | _ => exact stored_isLoaded type h

end Value

/-- A timestamp is hidden in the value or in a bound of the rule. -/
def Rule.hidesStamp (r : Rule) : Bool :=
  r.value.hidesStamp || r.start.hidesStamp || r.finish.hidesStamp

/-! ## Trees -/

theorem Rule.document_isLoaded {r : Rule} (h : r.IsLoaded) :
    r.document.isLoaded = true ∧ r.document.holdsStamp = r.hidesStamp := by
  obtain ⟨⟨v, hv, hvalue⟩, hstart, hfinish⟩ := h
  obtain ⟨hv, hvs⟩ := Value.stored_asTuple_isLoaded r.field.type hv
  obtain ⟨hs, hss⟩ := Value.stored_isLoaded r.field.type hstart
  obtain ⟨hf, hfs⟩ := Value.stored_isLoaded r.field.type hfinish
  rw [← hvalue] at hv hvs
  rw [document, Value.holdsStamp, hidesStamp]
  simp only [Value.isLoaded_object_cons, Value.anyEntryHoldsStamp, hv, hvs, hs, hss, hf, hfs]
  simp [Value.isLoaded, Value.isDatedJson, Value.entriesAreDatedJson, Value.holdsLongInteger,
    Value.anyEntryHoldsLongInteger, Value.holdsStamp, Bool.or_assoc]

namespace Node

mutual
/-- The rules of a node, from the left. -/
def rules : Node → List Rule
  | rule r => [r]
  | group _ _ children => rulesOf children
/-- The rules of nodes, from the left. -/
def rulesOf : List Node → List Rule
  | [] => []
  | node :: rest => node.rules ++ rulesOf rest
end

mutual
/-- The stored form of a loaded tree keeps the timestamps that its rules hide. -/
theorem document_isLoaded : ∀ {node : Node}, node.IsLoaded →
    node.document.isLoaded = true ∧ node.document.holdsStamp = node.rules.any Rule.hidesStamp
  | rule r, h => by
    rw [document, rules, List.any_cons, List.any_nil, Bool.or_false]
    exact Rule.document_isLoaded h
  | group name join children, h => by
    obtain ⟨hc, hcs⟩ := documents_areLoaded h.2
    obtain ⟨hname, hnames⟩ := Bool.and_eq_true_iff.1 ((Value.isDocument_eq name).symm.trans h.1)
    rw [Bool.not_eq_true'] at hnames
    rw [document, rules, ← hcs, Value.holdsStamp]
    simp only [Value.isLoaded_object_cons, Value.anyEntryHoldsStamp, hc, hname, hnames]
    simp [Value.isLoaded, Value.isDatedJson, Value.entriesAreDatedJson, Value.holdsLongInteger,
      Value.anyEntryHoldsLongInteger, Value.holdsStamp]
theorem documents_areLoaded : ∀ {nodes : List Node}, AreLoaded nodes →
    (Value.list (documents nodes)).isLoaded = true ∧
      Value.anyHoldsStamp (documents nodes) = (rulesOf nodes).any Rule.hidesStamp
  | [], _ => ⟨rfl, rfl⟩
  | node :: rest, h => by
    obtain ⟨hn, hns⟩ := document_isLoaded h.1
    obtain ⟨hr, hrs⟩ := documents_areLoaded h.2
    rw [documents, Value.isLoaded_list_cons, hn, hr, Value.anyHoldsStamp, hns, hrs, rulesOf,
      List.any_append]
    exact ⟨rfl, rfl⟩
end

end Node

namespace Group

/-- The rules of a filter, from the left. -/
def rules (g : Group) : List Rule := g.toNode.rules

theorem document_isLoaded {g : Group} (h : g.toNode.IsLoaded) :
    g.document.isLoaded = true ∧ g.document.holdsStamp = g.rules.any Rule.hidesStamp := by
  obtain ⟨hd, hs⟩ := Node.document_isLoaded h
  exact ⟨Value.withoutNulls_isLoaded hd, (Value.withoutNulls_holds _).1.trans hs⟩

/-- A loaded filter is written unless one of its rules hides a timestamp. -/
theorem text?_of_isLoaded {g : Group} (h : g.toNode.IsLoaded) :
    g.text? = if g.rules.any Rule.hidesStamp then .error (.notEncodable "datetime")
      else .ok (String.ofList (Json.compact g.document)) := by
  obtain ⟨hd, hs⟩ := document_isLoaded h
  rw [text?, Json.encode?_of_isLoaded hd, hs]

/-- The filter of a text is written again, and its stored form is one of JSON, exactly when none of its
rules hides a timestamp. -/
theorem written_again_iff {t : String} {g : Group} (h : (ofText t).result = .ok g) :
    ((∃ s, g.text? = .ok s) ↔ ∀ r ∈ g.rules, r.hidesStamp = false) ∧
    (g.document.isJson = true ↔ ∀ r ∈ g.rules, r.hidesStamp = false) := by
  have hg := ofText_isLoaded h
  obtain ⟨hd, hs⟩ := document_isLoaded hg
  have hnone : g.rules.any Rule.hidesStamp = false ↔ ∀ r ∈ g.rules, r.hidesStamp = false := by
    simp
  rw [← hnone, text?_of_isLoaded hg, Value.isJson_eq, hs, (Bool.and_eq_true_iff.1 hd).1]
  cases g.rules.any Rule.hidesStamp <;> simp

/-- The text of a filter whose one rule has a lower bound for the day of publication. -/
def publishedSince (bound : String) : String :=
  "\x7b\"rules\": [\x7b\"field\": \"publishedDate\", \"operator\": \"in_between\", " ++
    "\"valueStart\": " ++ bound ++ "\x7d]\x7d"

/-- A day as a bound of a range is written again. -/
theorem written_again_day : ∃ g s,
    (ofText (publishedSince "\"2020-05-01\"")).result = .ok g ∧ g.text? = .ok s := by
  have hday : (match (ofText (publishedSince "\"2020-05-01\"")).result with
    | .ok g => g.rules.all fun r => !r.hidesStamp
    | .error _ => false) = true := by decide +kernel
  split at hday
  · rename_i g hg
    obtain ⟨s, hs⟩ := (written_again_iff hg).1.2 (by simpa using hday)
    exact ⟨g, s, hg, hs⟩
  · cases hday

/-- A day in a list that is a bound of a range is loaded and not written again. -/
theorem listed_day_not_written : ∃ g,
    (ofText (publishedSince "[\"2020-05-01\"]")).result = .ok g ∧
      g.text? = .error (.notEncodable "datetime") := by
  have hday : (match (ofText (publishedSince "[\"2020-05-01\"]")).result with
    | .ok g => g.rules.any Rule.hidesStamp
    | .error _ => false) = true := by decide +kernel
  split at hday
  · rename_i g hg
    refine ⟨g, hg, ?_⟩
    rw [text?_of_isLoaded (ofText_isLoaded hg), hday, if_pos rfl]
  · cases hday

end Group

end ShelfRules
