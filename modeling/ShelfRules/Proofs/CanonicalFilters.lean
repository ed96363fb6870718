import ShelfRules.Proofs.AlikeOperands
import ShelfRules.Proofs.JsonLayout
import ShelfRules.Proofs.RereadTrees
import ShelfRules.Proofs.WrittenDays

/-!
# Canonical filters are read back

A filter is canonical when its groups are named by texts and the operands of its rules fit their
fields. Its text is read as the same filter: an integer of a decimal field becomes a double, and an
integral double of a field of numbers an integer, but neither equality nor evaluation tells them apart.

Results:
* `Value.typed?_stored`, `Value.typed?_storedValue`: fitting operands are read back.
* `Rule.ofEntries?_storedEntries`: canonical rules are read back.
* `Group.ofDocument_document`: so are canonical filters, without a notice.
-/

namespace ShelfRules

/-! ## Fitting operands -/

namespace Value

/-- The value is an operand of a field of the type: null, and for a field of numbers an integer that is
a double and a double that is no NaN, for a field of dates the start of a day with a year of four
digits, for a field without a type a boolean, an integer that is not too long, a double that is no NaN
and a text. -/
inductive Fits : Option FieldType → Value → Prop
  | null (type : Option FieldType) : Fits type .null
  | bool (b : Bool) : Fits none (.bool b)
  | text (s : String) : Fits none (.text s)
  | integer {n : Int} : isLongInteger n = false → Fits none (.int n)
  | number {type : FieldType} {n : Int} {d : Double} : type.isNumeric = true →
      d.toInt? = some n → Fits (some type) (.int n)
  | double {type : Option FieldType} {d : Double} : type ≠ some .date → d.isNaN = false →
      Fits type (.float d)
  | day {d : Date} : 1000 ≤ d.year → Fits (some .date) (.moment (.ofDate d))

/-- The value is an operand of a field of the type, or keeps a list of such operands without nulls. -/
inductive FitsValue (type : Option FieldType) : Value → Prop
  | single {v : Value} : Fits type v → FitsValue type v
  | tuple {items : List Value} : (∀ v ∈ items, v ≠ .null ∧ Fits type v) →
      FitsValue type (.tuple items)

variable {type : Option FieldType} {v : Value}

theorem Fits.isLoaded (h : Fits type v) : v.isLoaded = true ∧ v.hidesStamp = false := by
  cases h with
  | null | bool | text | double | day => exact ⟨rfl, rfl⟩
  | integer hn => exact ⟨by simp [Value.isLoaded, isDatedJson, holdsLongInteger, hn], rfl⟩
  | number _ hd =>
    exact ⟨by simp [Value.isLoaded, isDatedJson, holdsLongInteger, isLongInteger_of_toInt? hd], rfl⟩

/-- An operand that fits is no list, and no null stands in its stored form. -/
theorem Fits.withoutNulls_stored (h : Fits type v) :
    (v.stored type).withoutNulls = v.stored type ∧ ((v.stored type).isNull = true → v = .null) := by
  cases h with
  | null => exact ⟨rfl, fun _ => rfl⟩
  | bool | text | integer | number | double => exact ⟨rfl, fun h => nomatch h⟩
  | day => exact ⟨rfl, fun h => nomatch h⟩

theorem typedItem?_numeric {type : FieldType} (h : type.isNumeric = true) : ∃ integral,
    ∀ v, (∀ b, v ≠ .bool b) → typedItem? type v = v.number?.map (ofDouble integral) := by
  have hnumber : ∀ integral v, (∀ b, v ≠ .bool b) →
      typedNumber? integral v = v.number?.map (ofDouble integral) := by
    intro integral v hv
    cases v with
    | bool b => exact absurd rfl (hv b)
    | _ => rfl
  cases type with
  | number => exact ⟨true, hnumber true⟩
  | decimal => exact ⟨false, hnumber false⟩
  | date => cases h

/-- What is made of a double stands for the number that it is. -/
theorem ofDouble_sameNumber (integral : Bool) {d : Double} (hd : d.isNaN = false) :
    (ofDouble integral d).SameNumber (.float d) := by
  rw [ofDouble, hd, if_neg Bool.false_ne_true]
  cases integral with
  | false => exact .refl _
  | true =>
    rw [if_pos rfl]
    cases hint : d.toInt? with
    | none => exact .refl _
    | some n => exact .intDouble hint

theorem ofDouble_sameNumber_int (integral : Bool) {d : Double} {n : Int} (hd : d.toInt? = some n) :
    (ofDouble integral d).SameNumber (.int n) := by
  rw [ofDouble, Double.isNaN_of_toInt? hd, hd, if_neg Bool.false_ne_true]
  cases integral with
  | false => exact .doubleInt hd
  | true => exact .refl _

/-- An operand that fits is read back from its stored form as the number or the value that it is. -/
theorem typed?_stored (h : Fits type v) :
    ∃ w, typed? type (v.stored type) = .ok w ∧ w.SameNumber v := by
  cases h with
  | null => exact ⟨.null, typed?_null type, .refl _⟩
  | bool | text | integer => exact ⟨_, rfl, .refl _⟩
  | @number type n d ht hd =>
    obtain ⟨integral, hread⟩ := typedItem?_numeric ht
    obtain ⟨e, he, heInt⟩ := Double.ofInt?_of_toInt? hd
    refine ⟨ofDouble integral e, ?_, ofDouble_sameNumber_int integral heInt⟩
    have hint : typed? (some type) (.int n) = _ := hread (.int n) (by simp)
    rw [number?, he] at hint
    exact hint
  | @double type d ht hd =>
    cases type with
    | none => exact ⟨_, rfl, .refl _⟩
    | some type =>
      have hnumeric : type.isNumeric = true := by
        cases type with
        | date => exact absurd rfl ht
        | _ => rfl
      obtain ⟨integral, hread⟩ := typedItem?_numeric hnumeric
      refine ⟨ofDouble integral d, ?_, ofDouble_sameNumber integral hd⟩
      exact hread (.float d) (by simp)
  | @day d hyear =>
    refine ⟨.moment (.ofDate d), ?_, .refl _⟩
    have hstored : (Value.moment (.ofDate d)).stored (some .date) =
        .text (String.ofList d.shortChars) := rfl
    have hread : dateOfText (.text (String.ofList d.shortChars)) = .moment (.ofDate d) := by
      rw [dateOfText, Moment.ofText?_shortChars hyear]
      rfl
    rw [hstored, ← hread]
    rfl

/-- An operand that fits is the same as what stands for the same number. -/
theorem SameNumber.same {w : Value} (h : SameNumber w v) (hv : Fits type v) : w.same v = true := by
  cases h with
  | intDouble h | doubleInt h => simp [Value.same, Double.eqInt, h]
  | refl =>
    cases hv with
    | null => rfl
    | bool | text | integer | number => simp [Value.same]
    | @double _ d _ hd =>
      cases d with
      | nan => cases hd
      | infinite negative => cases negative <;> simp [Value.same, Double.eq, Double.place]
      | finite negative units fits => simp [Value.same, Double.eq, Double.place]
    | day => simp [Value.same, moment, Timestamp.same]

/-- What stands for the same number as an operand that fits is one that fits. -/
theorem SameNumber.fits {w : Value} (h : SameNumber w v) (hv : Fits type v) : Fits type w := by
  cases h with
  | refl => exact hv
  | intDouble hd =>
    cases hv with
    | @double type _ ht _ =>
      cases type with
      | none => exact .integer (isLongInteger_of_toInt? hd)
      | some type =>
        cases type with
        | date => exact absurd rfl ht
        | _ => exact .number rfl hd
  | doubleInt hd =>
    cases hv with
    | integer => exact .double nofun (Double.isNaN_of_toInt? hd)
    | @number type _ _ ht =>
      refine .double ?_ (Double.isNaN_of_toInt? hd)
      rintro ⟨⟩
      cases ht

/-! ## Lists of operands -/

variable {items : List Value}

theorem itemsWithoutNulls_stored (h : ∀ v ∈ items, v ≠ .null ∧ Fits type v) :
    itemsWithoutNulls (storedItems type items) = storedItems type items := by
  induction items with
  | nil => rfl
  | cons v rest ih =>
    obtain ⟨⟨hnull, hv⟩, hrest⟩ := List.forall_mem_cons.1 h
    obtain ⟨hwithout, hstored⟩ := hv.withoutNulls_stored
    rw [storedItems, itemsWithoutNulls_cons, if_neg (mt hstored hnull), hwithout, ih hrest]

theorem typed?_list_cons {rest ws : List Value} {w : Value} (hv : typed? type v = .ok w)
    (hrest : typed? type (.list rest) = .ok (.list ws)) :
    typed? type (.list (v :: rest)) = .ok (.list (w :: ws)) := by
  cases type with
  | none =>
    cases hv
    cases hrest
    rfl
  | some type =>
    obtain ⟨ws', hws, h⟩ := Json.except_map_eq_ok hrest
    cases h
    rw [typed?] at hv
    rw [typed?, typedAs?, typedItems?, hv, ok_bind, hws]
    rfl

/-- A list of operands that fit is read back item by item. -/
theorem typed?_storedItems (h : ∀ v ∈ items, v ≠ .null ∧ Fits type v) :
    ∃ ws, typed? type (.list (storedItems type items)) = .ok (.list ws) ∧
      List.Forall₂ SameNumber ws items := by
  induction items with
  | nil => exact ⟨[], by cases type <;> rfl, .nil⟩
  | cons v rest ih =>
    obtain ⟨hv, hrest⟩ := List.forall_mem_cons.1 h
    obtain ⟨w, hw, hsame⟩ := typed?_stored hv.2
    obtain ⟨ws, hws, hsames⟩ := ih hrest
    exact ⟨w :: ws, typed?_list_cons hw hws, .cons hsame hsames⟩

theorem sameAll_of_forall₂ {ws : List Value} (h : List.Forall₂ SameNumber ws items)
    (hitems : ∀ v ∈ items, v ≠ .null ∧ Fits type v) : sameAll ws items = true := by
  induction h with
  | nil => rfl
  | cons hv _ ih =>
    obtain ⟨hfits, hrest⟩ := List.forall_mem_cons.1 hitems
    rw [sameAll, hv.same hfits.2, ih hrest]
    rfl

theorem SameNumber.holdsLongInteger {w : Value} (h : SameNumber w v) :
    v.holdsLongInteger = w.holdsLongInteger :=
  (h.congr fun hd => isLongInteger_of_toInt? hd).symm

theorem Alike.holdsLongInteger {w : Value} (h : Alike w v) :
    v.holdsLongInteger = w.holdsLongInteger := by
  cases h with
  | single h => exact h.holdsLongInteger
  | tuple h =>
    simp only [Value.holdsLongInteger]
    induction h with
    | nil => rfl
    | cons hv _ ih => rw [anyHoldsLongInteger, anyHoldsLongInteger, hv.holdsLongInteger, ih]

/-- What is alike to a value that fits is one that fits. -/
theorem Alike.fitsValue {w : Value} (h : Alike w v) (hv : FitsValue type v) : FitsValue type w := by
  cases h with
  | single hsame =>
    cases hv with
    | single hv => exact .single (hsame.fits hv)
    | tuple hitems =>
      cases hsame
      exact .tuple hitems
  | @tuple items items' hsames =>
    have hfits : ∀ {ws vs : List Value}, List.Forall₂ SameNumber ws vs →
        (∀ v ∈ vs, v ≠ .null ∧ Fits type v) → ∀ w ∈ ws, w ≠ .null ∧ Fits type w := by
      intro ws vs hsames
      induction hsames with
      | nil => exact fun h => h
      | cons hsame _ ih =>
        intro hvs
        obtain ⟨⟨hnull, hv⟩, hrest⟩ := List.forall_mem_cons.1 hvs
        refine List.forall_mem_cons.2 ⟨⟨?_, hsame.fits hv⟩, ih hrest⟩
        rintro rfl
        cases hsame
        exact hnull rfl
    cases hv with
    | single hv => cases hv
    | tuple hitems => exact .tuple (hfits hsames hitems)

/-- The value of a canonical rule is such as is read from a document, and hides no timestamp. -/
theorem FitsValue.isLoaded (h : FitsValue type v) :
    (∃ w : Value, w.isLoaded = true ∧ v = w.asTuple) ∧ v.hidesStamp = false := by
  cases h with
  | single h =>
    refine ⟨⟨v, h.isLoaded.1, ?_⟩, h.isLoaded.2⟩
    cases h <;> rfl
  | @tuple items hitems =>
    have hloaded : (list items).isLoaded = true ∧ anyHidesStamp items = false := by
      induction items with
      | nil => exact ⟨rfl, rfl⟩
      | cons v rest ih =>
        obtain ⟨hv, hrest⟩ := List.forall_mem_cons.1 hitems
        obtain ⟨hloaded, hhides⟩ := hv.2.isLoaded
        rw [isLoaded_list_cons, anyHidesStamp, hloaded, hhides, (ih hrest).1, (ih hrest).2]
        exact ⟨rfl, rfl⟩
    exact ⟨⟨.list items, hloaded.1, rfl⟩, hloaded.2⟩

/-- The value of a canonical rule is read back. -/
theorem typed?_storedValue (h : FitsValue type v) :
    ∃ w, typed? type (v.stored type).withoutNulls = .ok w ∧ w.asTuple.Alike v ∧
      w.asTuple.same v = true := by
  cases h with
  | single h =>
    obtain ⟨w, hw, hsame⟩ := typed?_stored h
    have hsingle : w.asTuple = w := by
      cases hsame with
      | refl => cases h <;> rfl
      | intDouble | doubleInt => rfl
    exact ⟨w, h.withoutNulls_stored.1.symm ▸ hw, hsingle.symm ▸ .single hsame,
      hsingle.symm ▸ hsame.same h⟩
  | @tuple items hitems =>
    obtain ⟨ws, hws, hsames⟩ := typed?_storedItems hitems
    refine ⟨.list ws, ?_, .tuple hsames, sameAll_of_forall₂ hsames hitems⟩
    rw [stored, withoutNulls, itemsWithoutNulls_stored hitems, hws]

end Value

/-! ## Rules -/

namespace Rule

/-- The operands of the rule fit its field. -/
structure IsCanonical (r : Rule) : Prop where
  value : r.value.FitsValue r.field.type
  start : r.start.Fits r.field.type
  finish : r.finish.Fits r.field.type

theorem IsCanonical.isLoaded {r : Rule} (hr : r.IsCanonical) : r.IsLoaded :=
  ⟨hr.value.isLoaded.1, hr.start.isLoaded.1, hr.finish.isLoaded.1⟩

theorem IsCanonical.hidesStamp {r : Rule} (hr : r.IsCanonical) : r.hidesStamp = false := by
  rw [Rule.hidesStamp, hr.value.isLoaded.2, hr.start.isLoaded.2, hr.finish.isLoaded.2]
  rfl

/-- The second rule is the first one read back: it is the same rule with the same answers, and its
operands fit its field. -/
structure IsReadBack (r r' : Rule) : Prop where
  same : (Node.rule r').same (.rule r) = true
  verdict : ∀ record, r'.verdict record = r.verdict record
  isCanonical : r'.IsCanonical

/-- A canonical rule is read back from its stored form. -/
theorem ofEntries?_storedEntries {r : Rule} (hr : r.IsCanonical) :
    ∃ r', ofEntries? r.storedEntries = .ok r' ∧ r.IsReadBack r' := by
  obtain ⟨value, hvalue, halike, hsame⟩ := Value.typed?_storedValue hr.value
  obtain ⟨start, hstart, hs⟩ := Value.typed?_stored hr.start
  obtain ⟨finish, hfinish, he⟩ := Value.typed?_stored hr.finish
  rw [← hr.start.withoutNulls_stored.1] at hstart
  rw [← hr.finish.withoutNulls_stored.1] at hfinish
  obtain ⟨hvl, hsl, hfl⟩ := hr.isLoaded.not_long
  rw [halike.holdsLongInteger, Value.holdsLongInteger_asTuple] at hvl
  rw [hs.holdsLongInteger] at hsl
  rw [he.holdsLongInteger] at hfl
  obtain ⟨r', hr', hf', ho', hv', hs', he'⟩ :=
    ofEntries?_of_typed? hvalue hstart hfinish ⟨hvl, hsl, hfl⟩
  refine ⟨r', hr', ?_, fun record => ?_, ?_⟩
  · rw [Node.same, hf', ho', hv', hs', he', hsame, hs.same hr.start, he.same hr.finish]
    simp
  · exact verdict_congr hf' ho' (hv' ▸ halike) (hs' ▸ hs) (he' ▸ he) record
  · refine ⟨?_, ?_, ?_⟩
    · rw [hf', hv']
      exact halike.fitsValue hr.value
    · rw [hf', hs']
      exact hs.fits hr.start
    · rw [hf', he']
      exact he.fits hr.finish

end Rule

/-! ## Trees -/

namespace Node

mutual
/-- The names of the groups are texts, and the operands of the rules fit their fields. -/
def IsCanonical : Node → Prop
  | rule r => r.IsCanonical
  | group name _ children => (∃ s, name = .text s) ∧ AreCanonical children
/-- The nodes are canonical. -/
def AreCanonical : List Node → Prop
  | [] => True
  | node :: rest => node.IsCanonical ∧ AreCanonical rest
end

mutual
theorem IsCanonical.isLoaded : ∀ {node : Node}, node.IsCanonical →
    node.IsLoaded ∧ node.rules.any Rule.hidesStamp = false
  | rule r, h => by
    rw [rules, List.any_cons, h.hidesStamp]
    exact ⟨Rule.IsCanonical.isLoaded h, rfl⟩
  | group name join children, ⟨⟨s, hname⟩, hchildren⟩ => by
    obtain ⟨hloaded, hhides⟩ := AreCanonical.areLoaded hchildren
    subst hname
    exact ⟨⟨rfl, hloaded⟩, hhides⟩
theorem AreCanonical.areLoaded : ∀ {nodes : List Node}, AreCanonical nodes →
    AreLoaded nodes ∧ (rulesOf nodes).any Rule.hidesStamp = false
  | [], _ => ⟨trivial, rfl⟩
  | node :: rest, h => by
    obtain ⟨hnode, hhides⟩ := IsCanonical.isLoaded h.1
    obtain ⟨hrest, hrests⟩ := AreCanonical.areLoaded h.2
    rw [rulesOf, List.any_append, hhides, hrests]
    exact ⟨⟨hnode, hrest⟩, rfl⟩
end

mutual
theorem IsCanonical.rules : ∀ {node : Node}, node.IsCanonical → ∀ r ∈ node.rules, r.IsCanonical
  | rule _, h => List.forall_mem_singleton.2 h
  | group .., h => AreCanonical.rulesOf h.2
theorem AreCanonical.rulesOf : ∀ {nodes : List Node}, AreCanonical nodes →
    ∀ r ∈ Node.rulesOf nodes, r.IsCanonical
  | [], _ => List.forall_mem_nil _
  | _ :: _, h => List.forall_mem_append.2 ⟨IsCanonical.rules h.1, AreCanonical.rulesOf h.2⟩
end

mutual
/-- A canonical tree of which the rules are read back is read back as the same tree with the same
answers, which is canonical. -/
theorem Again.isReadBack : ∀ {node node' : Node}, Again Rule.IsReadBack node node' →
    node.IsCanonical → node'.same node = true ∧
      (∀ record, node'.verdict record = node.verdict record) ∧ node'.IsCanonical
  | rule _, _, h, _ => by
    cases h with
    | rule h => exact ⟨h.same, h.verdict, h.isCanonical⟩
  | group name join children, _, h, ⟨⟨s, hname⟩, hchildren⟩ => by
    cases h with
    | group h =>
      obtain ⟨hsame, hverdicts, hcanonical⟩ := AllAgain.areReadBack h hchildren
      subst hname
      rw [nameAgain_text]
      refine ⟨by simp [same, hsame, Value.same], fun record => ?_, ⟨_, rfl⟩, hcanonical⟩
      rw [verdict, verdict, hverdicts]
theorem AllAgain.areReadBack : ∀ {nodes nodes' : List Node},
    AllAgain Rule.IsReadBack nodes nodes' → AreCanonical nodes → sameAll nodes' nodes = true ∧
      (∀ record, verdicts record nodes' = verdicts record nodes) ∧ AreCanonical nodes'
  | [], _, h, _ => by
    cases h
    exact ⟨rfl, fun _ => rfl, trivial⟩
  | _ :: _, _, h, hc => by
    cases h with
    | cons h hrest =>
      obtain ⟨hsame, hverdict, hcanonical⟩ := Again.isReadBack h hc.1
      obtain ⟨hsames, hverdicts, hcanonicals⟩ := AllAgain.areReadBack hrest hc.2
      refine ⟨?_, fun record => ?_, hcanonical, hcanonicals⟩
      · rw [sameAll, hsame, hsames]
        rfl
      · rw [verdicts, verdicts, hverdict, hverdicts]
end

end Node

/-! ## Filters -/

namespace Group

/-- The text of a loaded filter is read as its document. -/
theorem ofText_of_text? {g : Group} {s : String} (hg : g.toNode.IsLoaded) (h : g.text? = .ok s) :
    ofText s = ofDocument g.document := by
  obtain ⟨hd, -⟩ := document_isLoaded hg
  have hobstacle := (Json.encode?_eq_ok.1 h).1
  rw [Json.obstacle?_of_isLoaded hd] at hobstacle
  have hstamp : g.document.holdsStamp = false := by simpa using hobstacle
  have hdocument : g.document.isDocument = true := by
    rw [Value.isDocument_eq, hd, hstamp]
    rfl
  exact ofText_of_isDocument hdocument h

/-- The names of the groups are texts, and the operands of the rules fit their fields. -/
def IsCanonical (g : Group) : Prop := g.toNode.IsCanonical

/-- The document of a canonical filter is one of JSON. -/
theorem IsCanonical.isDocument {g : Group} (hg : g.IsCanonical) : g.document.isDocument = true := by
  obtain ⟨hloaded, hhides⟩ := Node.IsCanonical.isLoaded hg
  obtain ⟨hd, hs⟩ := document_isLoaded hloaded
  rw [Value.isDocument_eq, hd, hs, rules, hhides]
  rfl

/-- A canonical filter is read back from its document as the same filter with the same answers, which is
canonical. -/
theorem ofDocument_document {g : Group} (hg : g.IsCanonical) : ∃ g',
    ofDocument g.document = .ok g' ∧ g'.toNode.same g.toNode = true ∧
      (∀ record, g'.verdict record = g.verdict record) ∧ g'.IsCanonical := by
  have hrules : ∀ r ∈ g.rules, ∃ r', Rule.ofEntries? r.storedEntries = .ok r' ∧ r.IsReadBack r' :=
    fun r hr => Rule.ofEntries?_storedEntries (Node.IsCanonical.rules hg r hr)
  obtain ⟨g', hg', hagain⟩ := again_of_rules hrules
  exact ⟨g', hg', hagain.isReadBack hg⟩

/-- The text of a canonical filter is read as the same filter, which has the same answers. -/
theorem canonical_read_back {g : Group} (hg : g.IsCanonical) : ∃ s g', g.text? = .ok s ∧
    ofText s = .ok g' ∧ g'.toNode.same g.toNode = true ∧
      ∀ record, g'.verdict record = g.verdict record := by
  obtain ⟨hloaded, hhides⟩ := Node.IsCanonical.isLoaded hg
  obtain ⟨hd, hs⟩ := document_isLoaded hloaded
  have hdocument : g.document.isDocument = true := by
    rw [Value.isDocument_eq, hd, hs, rules, hhides]
    rfl
  obtain ⟨g', hg', hsame, hverdict, -⟩ := ofDocument_document hg
  refine ⟨String.ofList (Json.compact g.document), g', ?_, ?_, hsame, hverdict⟩
  · rw [text?_of_isLoaded hloaded, rules, hhides, if_neg Bool.false_ne_true]
  · rw [ofText, String.toList_ofList, Json.parse_compact hdocument]
    exact hg'

/-- A filter for books of one page, which asks for a double, and for new books since a day of 2020. -/
def shortOrRecent : Group := ⟨.text "Short or recent", .any, [
  .rule ⟨.known .pageCount, .known .equals, .float .unit, .null, .null,
    .scalar (.float .unit) (.float .unit), rfl, rfl⟩,
  .group (.text "") .all [
    .rule ⟨.known .publishedDate, .known .inBetween, .null, .moment (.ofDate ⟨2020, 5, 1, by decide⟩),
      .null, .range (.moment (.ofDate ⟨2020, 5, 1, by decide⟩)) .null, rfl, rfl⟩,
    .rule ⟨.known .tags, .known .includesAny, .tuple [.text "new", .bool true], .null, .null,
      .set [.text "new", .text "true"], rfl, rfl⟩]]⟩

theorem shortOrRecent_isCanonical : shortOrRecent.IsCanonical := by
  have hday : Value.Fits (some .date) (.moment (.ofDate ⟨2020, 5, 1, by decide⟩)) := .day (by decide)
  have htags : ∀ v ∈ [Value.text "new", .bool true], v ≠ .null ∧ Value.Fits none v := by
    intro v hv
    rcases List.mem_pair.1 hv with rfl | rfl
    · exact ⟨nofun, .text _⟩
    · exact ⟨nofun, .bool _⟩
  exact ⟨⟨_, rfl⟩, ⟨.single (.double nofun rfl), .null _, .null _⟩,
    ⟨⟨_, rfl⟩, ⟨.single (.null _), hday, .null _⟩, ⟨.tuple htags, .null _, .null _⟩, trivial⟩, trivial⟩

theorem shortOrRecent_read_back : shortOrRecent.IsCanonical ∧ ∃ s g',
    shortOrRecent.text? = .ok s ∧ ofText s = .ok g' ∧
      g'.toNode.same shortOrRecent.toNode = true ∧
        ∀ record, g'.verdict record = shortOrRecent.verdict record :=
  ⟨shortOrRecent_isCanonical, canonical_read_back shortOrRecent_isCanonical⟩

end Group

end ShelfRules
