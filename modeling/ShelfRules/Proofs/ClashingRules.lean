import ShelfRules.Filter.Evaluation
import ShelfRules.Proofs.AlikeOperands
import ShelfRules.Proofs.LoadedFilters

/-!
# Rules that clash with a record

A rule has no answer about a record when the attribute of its field is of a kind that the field is not
read from, when the attribute holds an integer that is too long where its text is needed, or when the
rule compares an integer past the largest double. The rules of a loaded filter have no other faults.

Results:
* `FieldReading.value?_fails`, `FieldReading.texts?_fails`: when a field is not read.
* `Operator.test?_fails`: when an operator has no answer.
* `Rule.verdict_fails`: when a loaded rule has none.
-/

namespace ShelfRules

/-! ## Fields -/

namespace Value

/-- The value has no items: it is neither a text, nor a list, nor an object. -/
def isAtom : Value → Bool
  | .text _ | .list _ | .tuple _ | .object _ => false
  | _ => true

/-- The value is a text. -/
def isText : Value → Bool
  | .text _ => true
  | _ => false

/-- The value is an integer past the largest double. -/
def isHuge : Value → Bool
  | .int n => (Double.ofInt? n).isNone
  | _ => false

end Value

namespace FieldReading

/-- The value is none that a field is read from: it is a boolean or a number where texts are listed, it
is no text where a file is named, or it lists an integer that is too long, or holds one where a date is
written. What counts as nothing is read as nothing. -/
def refuses (reading : FieldReading) (v : Value) : Bool :=
  match reading with
  | .number | .identifier | .status => v.listsLongInteger
  | .text => false
  | .items => v.truthy && v.isAtom || v.listsLongInteger
  | .date => v.holdsLongInteger
  | .fileType => v.truthy && !v.isText

/-- A field has no set of texts for the value. -/
def refusesSet (reading : FieldReading) (v : Value) : Bool :=
  match reading with
  | .number | .date => false
  | .identifier | .text | .status => v.holdsLongInteger
  | .items | .fileType => reading.refuses v

theorem itemTexts?_fails {v : Value} : Fails v.itemTexts? ↔ items.refuses v = true := by
  unfold Value.itemTexts?
  cases v with
  | list items | tuple items =>
    cases items with
    | nil => simp [Value.truthy, refuses, Value.listsLongInteger, Value.anyHoldsLongInteger]
    | cons v rest =>
      simp [Value.truthy, refuses, Value.isAtom, Value.listsLongInteger, Value.lowerItems?_fails]
  | text s | object entries =>
    dsimp only
    split <;> simp [refuses, Value.isAtom, Value.listsLongInteger]
  | null | bool | int | float | date | stamp | status =>
    dsimp only
    split <;> rename_i h <;> simp [refuses, Value.isAtom, Value.listsLongInteger, h]

theorem fileExtension?_fails {v : Value} : Fails (fileExtension? v) ↔ fileType.refuses v = true := by
  unfold fileExtension?
  cases v with
  | text s =>
    dsimp only
    split <;> simp [refuses, Value.isText]
  | _ =>
    dsimp only
    split <;> rename_i h <;> simp [refuses, Value.isText, h]

theorem dateRead?_fails {v : Value} : Fails v.dateRead? ↔ date.refuses v = true := by
  have hread := v.truthyText?_fails (fun s => ((Moment.ofText? s).map Value.moment).getD .null) .null
  cases v with
  | stamp t => simp [Value.dateRead?, refuses, Value.holdsLongInteger]
  | _ => exact hread

theorem single?_fails {v : Value} : Fails v.single? ↔ v.holdsLongInteger = true := by
  have hread : Fails (v.webText?.map fun s => [Text.lowered s]) ↔ v.holdsLongInteger = true :=
    fails_map.trans Value.webText?_fails
  cases v with
  | null => simp [Value.single?, Value.holdsLongInteger]
  | _ => exact hread

theorem statusRead_holds (v : Value) : v.statusRead.holdsLongInteger = v.holdsLongInteger ∧
    v.statusRead.listsLongInteger = v.listsLongInteger := by
  cases v <;> exact ⟨rfl, rfl⟩

theorem texts_listsLongInteger (ss : List String) : (Value.texts ss).listsLongInteger = false := by
  induction ss with
  | nil => rfl
  | cons s rest ih => exact ih

/-- What is read from a list, a date or a file name lists no integer that is too long. -/
theorem value?_listsLongInteger {reading : FieldReading} {v w : Value}
    (h : reading = .items ∨ reading = .date ∨ reading = .fileType) (hw : reading.value? v = .ok w) :
    w.listsLongInteger = false := by
  rcases h with rfl | rfl | rfl
  · obtain ⟨ss, -, rfl⟩ := Json.except_map_eq_ok hw
    exact texts_listsLongInteger ss
  · have hread : (if v.truthy then v.webText?.map fun s => ((Moment.ofText? s).map Value.moment).getD
        .null else .ok .null) = .ok w → w.listsLongInteger = false := by
      intro hw
      split at hw
      · obtain ⟨s, -, rfl⟩ := Json.except_map_eq_ok hw
        cases Moment.ofText? s <;> rfl
      · cases hw
        rfl
    cases v with
    | stamp t => cases hw; rfl
    | _ => exact hread hw
  · obtain ⟨ext, -, rfl⟩ := Json.except_map_eq_ok hw
    cases ext <;> rfl

/-- When the value of a field is not read, or has no normal shape. -/
theorem value?_fails (reading : FieldReading) (v : Value) :
    Fails ((reading.value? v).bind Value.normalize?) ↔ reading.refuses v = true := by
  have hread : reading = .items ∨ reading = .date ∨ reading = .fileType →
      (Fails ((reading.value? v).bind Value.normalize?) ↔ Fails (reading.value? v)) := by
    intro h
    rw [fails_bind]
    refine or_iff_left fun ⟨w, hw, hf⟩ => ?_
    rw [Value.normalize?_fails, value?_listsLongInteger h hw] at hf
    cases hf
  cases reading with
  | number | identifier => exact Value.normalize?_fails
  | status => exact Value.normalize?_fails.trans (by rw [(statusRead_holds v).2]; rfl)
  | text => exact Value.normalize?_fails.trans (by cases v <;> simp [Value.loweredText,
      Value.listsLongInteger, refuses])
  | items => exact (hread (.inl rfl)).trans (fails_map.trans itemTexts?_fails)
  | date => exact (hread (.inr (.inl rfl))).trans dateRead?_fails
  | fileType => exact (hread (.inr (.inr rfl))).trans (fails_map.trans fileExtension?_fails)

/-- When the set of texts of a field is not read. -/
theorem texts?_fails (reading : FieldReading) (v : Value) :
    Fails (reading.texts? v) ↔ reading.refusesSet v = true := by
  cases reading with
  | number | date => simp [texts?, refusesSet]
  | identifier | text => exact single?_fails
  | status => exact single?_fails.trans (by rw [(statusRead_holds v).1]; rfl)
  | items => exact itemTexts?_fails
  | fileType => exact fails_map.trans fileExtension?_fails

end FieldReading

/-! ## Operators -/

theorem Verdict.fails_not (v : Verdict) : Fails v.not ↔ Fails v := by
  cases v <;> simp [not]

theorem Verdict.fails_and {a b : Verdict} : Fails (a.and b) ↔ Fails a ∨ a = .ok true ∧ Fails b := by
  rcases a with f | _ | _
  · simp [and, all]
  · simp [and, all]
  · rcases b with f | _ | _ <;> simp [and, all]

namespace Value

/-- The value is neither a timestamp nor a list. -/
def isPlain : Value → Bool
  | .stamp _ | .list _ | .tuple _ => false
  | _ => true

/-- The value is in normal shape: a timestamp does not tell its offset, and the items of a list are
texts. -/
inductive IsNormal : Value → Prop
  | moment (m : Moment) : IsNormal (.moment m)
  | texts (ss : List String) : IsNormal (.texts ss)
  | plain {v : Value} : v.isPlain = true → IsNormal v

theorem normalize?_isNormal {v w : Value} (h : v.normalize? = .ok w) : w.IsNormal := by
  cases v with
  | date d => cases h; exact .moment _
  | stamp t =>
    cases ht : t.toUtc? with
    | none => simp only [normalize?, ht] at h; cases h; exact .plain rfl
    | some m => simp only [normalize?, ht] at h; cases h; exact .moment m
  | text s =>
    cases hs : Moment.ofText? s with
    | none => simp only [normalize?, hs] at h; cases h; exact .plain rfl
    | some m => simp only [normalize?, hs] at h; cases h; exact .moment m
  | list items | tuple items =>
    obtain ⟨ss, -, rfl⟩ := Json.except_map_eq_ok h
    exact .texts ss
  | null | bool | int | float | object | status => cases h; exact .plain rfl

theorem IsNormal.eq_naive {t : Timestamp} (h : (stamp t).IsNormal) : ∃ m, t = .naive m := by
  generalize hv : stamp t = v at h
  cases h with
  | moment m => exact ⟨m, stamp.inj hv⟩
  | texts ss => cases hv
  | plain hplain =>
    subst hv
    cases hplain

/-- A value in normal shape has a number unless it is an integer past the largest double. -/
theorem IsNormal.number?_fails {v : Value} (h : v.IsNormal) : Fails v.number? ↔ v.isHuge = true := by
  cases h with
  | moment m => exact iff_of_false (fails_ok m.epochMillis) Bool.false_ne_true
  | texts ss => exact iff_of_false (fails_ok Double.nan) Bool.false_ne_true
  | plain hplain =>
    cases v with
    | int n => simp [number?, isHuge, Fault.ifNone_fails]
    | stamp | list | tuple => cases hplain
    | null | bool | float | text | object | date | status => simp [number?, isHuge]

theorem compareNumbers?_fails {v w : Value} (hv : v.IsNormal) (hw : w.IsNormal) :
    Fails (v.compareNumbers? w) ↔ v.isHuge = true ∨ w.isHuge = true := by
  rw [compareNumbers?, fails_bind, hv.number?_fails]
  simp only [fails_map, hw.number?_fails]
  constructor
  · rintro (h | ⟨_, -, h⟩)
    · exact .inl h
    · exact .inr h
  · intro h
    by_cases hhuge : v.isHuge = true
    · exact .inl hhuge
    · obtain ⟨x, hx⟩ := not_fails_iff.1 (mt hv.number?_fails.1 hhuge)
      exact .inr ⟨x, hx, h.resolve_left hhuge⟩

/-- Two values in normal shape are compared unless one is an integer past the largest double. -/
theorem compare?_fails {v w : Value} (hv : v.IsNormal) (hw : w.IsNormal) :
    Fails (v.compare? w) ↔ v.isHuge = true ∨ w.isHuge = true := by
  have hnumbers := compareNumbers?_fails hv hw
  cases hv with
  | moment a =>
    cases hw with
    | moment b => simp [compare?, moment, Timestamp.compare?, Timestamp.naive, isHuge]
    | texts => exact hnumbers
    | plain hplain =>
      cases w with
      | stamp t => cases hplain
      | _ => exact hnumbers
  | texts => exact hnumbers
  | plain hplain =>
    cases v with
    | stamp t => cases hplain
    | _ => exact hnumbers

/-- Values in normal shape that are not null lie in a range or beyond it unless an integer past the
largest double is compared. -/
theorem isBetween?_fails {v start finish : Value} (hv : v.IsNormal) (hs : start.IsNormal)
    (hf : finish.IsNormal) (hnull : v ≠ .null ∧ start ≠ .null ∧ finish ≠ .null) :
    Fails (v.isBetween? start finish) ↔ v.isHuge = true ∨ start.isHuge = true ∨
      finish.isHuge = true ∧ ∃ x y, start.number? = .ok x ∧ v.number? = .ok y ∧ x.le y = true := by
  rw [← hv.number?_fails, ← hs.number?_fails, ← hf.number?_fails]
  by_cases hstamps : ∃ a b c, v = .stamp a ∧ start = .stamp b ∧ finish = .stamp c
  · obtain ⟨_, _, _, rfl, rfl, rfl⟩ := hstamps
    obtain ⟨a, rfl⟩ := hv.eq_naive
    obtain ⟨b, rfl⟩ := hs.eq_naive
    obtain ⟨c, rfl⟩ := hf.eq_naive
    have hle : ∀ m n, Timestamp.le? (.naive m) (.naive n) =
        .ok (Ord.compare (Timestamp.naive m).utcMicros (Timestamp.naive n).utcMicros).isLE :=
      fun _ _ => rfl
    have hnumber : ∀ m, ¬Fails (Value.stamp (.naive m)).number? := fun m => fails_ok m.epochMillis
    rw [isBetween?, Verdict.fails_and, hle, hle]
    simp [hnumber]
  · rw [isBetween?_of_numbers hnull.1 hnull.2.1 hnull.2.2 fun a b c h => hstamps ⟨a, b, c, h⟩,
      fails_bind]
    simp only [Verdict.fails_and, fails_map]
    cases v.number? with
    | error f => simp
    | ok y =>
      cases start.number? with
      | error f => simp
      | ok x => simp [Except.map, and_comm]

end Value

namespace Operand

/-- The values of the operand are in normal shape, and its items have texts. -/
inductive IsNormal : Operand → Prop
  | scalar {raw value : Value} : raw.holdsLongInteger = false → value.IsNormal →
      IsNormal (.scalar raw value)
  | range {start finish : Value} : start.IsNormal → finish.IsNormal → IsNormal (.range start finish)
  | set (values : List Value) : IsNormal (.set values)

theorem build?_isNormal {name : OperatorName} {value start finish : Value} {operand : Operand}
    (hv : value.holdsLongInteger = false) (h : build? name value start finish = .ok operand) :
    operand.IsNormal := by
  have hscalar : value.normalize?.map (scalar value) = .ok operand → operand.IsNormal := fun h => by
    obtain ⟨w, hw, rfl⟩ := Json.except_map_eq_ok h
    exact .scalar hv (Value.normalize?_isNormal hw)
  have hset : value.lowerList?.map ofTexts = .ok operand → operand.IsNormal := fun h => by
    obtain ⟨ss, -, rfl⟩ := Json.except_map_eq_ok h
    exact .set _
  cases name with
  | unknown raw fresh => exact hscalar h
  | known operator =>
    cases operator with
    | includesAny | excludesAll | includesAll => exact hset h
    | inBetween =>
      obtain ⟨a, b, ha, hb, rfl⟩ := build?_range h
      exact .range (Value.normalize?_isNormal ha) (Value.normalize?_isNormal hb)
    | _ => exact hscalar h

end Operand

/-- The operator compares a number that is past the largest double: for a comparison one of its two
sides, and for a range, of which no part is null, the value or the lower bound, or the upper bound when
the lower one is not above the value. -/
def Operator.Overflows (operator : Operator) (subject : Value) (operand : Operand) : Prop :=
  match operator, operand with
  | .greaterThan, _ | .greaterThanEqualTo, _ | .lessThan, _ | .lessThanEqualTo, _ =>
    subject.isHuge = true ∨ operand.value.isHuge = true
  | .inBetween, .range start finish =>
    subject ≠ .null ∧ start ≠ .null ∧ finish ≠ .null ∧
      (subject.isHuge = true ∨ start.isHuge = true ∨
        finish.isHuge = true ∧ ∃ x y, start.number? = .ok x ∧ subject.number? = .ok y ∧
          x.le y = true)
  | _, _ => False

namespace Operand

variable {subject : Value} {operand : Operand}

theorem IsNormal.value_isNormal (h : operand.IsNormal) : operand.value.IsNormal := by
  cases h with
  | scalar _ h => exact h
  | range | set => exact .plain rfl

theorem not_fails_matches? (h : operand.IsNormal) : ¬Fails (operand.matches? subject) := by
  cases subject with
  | list items =>
    rw [matches?, fails_map]
    cases h with
    | scalar hraw => rw [values?, fails_map, Value.lowerList?_fails, hraw]; exact Bool.false_ne_true
    | range | set => exact fails_ok _
  | _ => exact fails_ok _

theorem not_fails_relates? (hs : subject.IsNormal) (relation : List Char → List Char → Bool)
    (negated : Bool) : ¬Fails (operand.relates? relation negated subject) := by
  have hplain : ¬Fails (operand.relates? relation false subject) := by
    unfold relates?
    split
    · rename_i target items htarget
      cases hs with
      | texts ss =>
        have hitems : (ss.map Value.text).map (fun v =>
            v.text?.map fun s => relation target.toList s.toList) =
            (ss.map fun s => relation target.toList s.toList).map .ok := by
          simp [Value.text?_text, Except.map]
        rw [hitems, Verdict.any_ok]
        exact fails_ok _
      | plain h => cases h
    · exact fails_ok _
    · exact fails_ok _
  cases negated with
  | false => exact hplain
  | true => rwa [relates?_negated, Verdict.fails_not]

theorem orders?_fails (h : operand.IsNormal) (hs : subject.IsNormal) (test : Ordering → Bool) :
    Fails (operand.orders? test subject) ↔ subject.isHuge = true ∨ operand.value.isHuge = true := by
  rw [orders?, fails_map, Value.compare?_fails hs h.value_isNormal]

theorem surrounds?_fails (h : operand.IsNormal) (hs : subject.IsNormal) :
    Fails (operand.surrounds? subject) ↔ Operator.inBetween.Overflows subject operand := by
  cases h with
  | scalar | set => exact iff_of_false (fails_ok _) id
  | @range start finish hstart hfinish =>
    by_cases hnull : subject = .null ∨ start = .null ∨ finish = .null
    · rw [surrounds?, Value.isBetween?_of_null hnull]
      refine iff_of_false (fails_ok _) ?_
      rintro ⟨hv, hs, hf, -⟩
      rcases hnull with h | h | h
      · exact hv h
      · exact hs h
      · exact hf h
    · have hnull : subject ≠ .null ∧ start ≠ .null ∧ finish ≠ .null := by simpa using hnull
      rw [surrounds?, Value.isBetween?_fails hs hstart hfinish hnull]
      simp [Operator.Overflows, hnull]

end Operand

/-- An operator has no answer when it needs the set of texts and there is none, or when it compares a
number past the largest double. -/
theorem Operator.test?_fails (operator : Operator) {subject : Value} {operand : Operand}
    (set : Except Fault (List Value)) (hs : subject.IsNormal) (ho : operand.IsNormal) :
    Fails (operator.test? subject operand set) ↔
      operator.takesSet = true ∧ Fails set ∨ operator.Overflows subject operand := by
  cases operator with
  | equals =>
    simpa [test?, takesSet, family, Overflows] using Operand.not_fails_matches? ho
  | notEquals =>
    simpa [test?, Operand.differs?_eq, Verdict.fails_not, takesSet, family, Overflows] using
      Operand.not_fails_matches? ho
  | contains | doesNotContain | startsWith | endsWith =>
    simpa [test?, takesSet, family, Overflows] using Operand.not_fails_relates? hs _ _
  | greaterThan | greaterThanEqualTo | lessThan | lessThanEqualTo =>
    simpa [test?, takesSet, family, Overflows] using Operand.orders?_fails ho hs _
  | inBetween =>
    simpa [test?, takesSet, family] using Operand.surrounds?_fails ho hs
  | isEmpty | isNotEmpty => simp [test?, takesSet, family, Overflows]
  | includesAny => simp [test?, Operand.meets?, takesSet, family, Overflows]
  | excludesAll => simp [test?, Operand.misses?, takesSet, family, Overflows]
  | includesAll => simp [test?, Operand.within?, takesSet, family, Overflows]

/-! ## Rules -/

namespace Record

/-- The record has no value for the field: the field is not read from its attribute, or the value that
the record has under an unknown name lists an integer that is too long. -/
def Refuses (record : Record) : FieldName → Prop
  | .known field => field.reading.refuses (record.fieldValue field) = true
  | name => ∃ v, record.subject? name = .ok v ∧ v.listsLongInteger = true

/-- The record has no set of texts for the field. -/
def RefusesSet (record : Record) : FieldName → Prop
  | .known field => field.reading.refusesSet (record.fieldValue field) = true
  | .unknown .. => False

theorem subject?_fails (record : Record) (name : FieldName) :
    Fails ((record.subject? name).bind Value.normalize?) ↔ record.Refuses name := by
  cases name with
  | known field => exact field.reading.value?_fails _
  | unknown raw fresh =>
    have hread : ∃ v, record.subject? (.unknown raw fresh) = .ok v := by
      unfold subject?
      dsimp only
      split
      · exact ⟨_, rfl⟩
      · split <;> exact ⟨_, rfl⟩
    obtain ⟨v, hv⟩ := hread
    rw [Refuses, hv, ok_bind, Value.normalize?_fails]
    · simp
    · exact nofun

theorem texts?_fails (record : Record) (name : FieldName) :
    Fails (record.texts? name) ↔ record.RefusesSet name := by
  cases name with
  | known field => exact field.reading.texts?_fails _
  | unknown raw fresh => exact iff_of_false (fails_ok _) id

end Record

namespace Rule

/-- The rule has no answer about the record: the record has no value for the field, or the operator
needs a set of texts and the record has none, or the operator compares a number that is too large. -/
def Clashes (r : Rule) (record : Record) : Prop :=
  record.Refuses r.field ∨ ∃ operator, r.operator = .known operator ∧
    (operator.takesSet = true ∧ record.RefusesSet r.field ∨
      ∃ subject, (record.subject? r.field).bind Value.normalize? = .ok subject ∧
        operator.Overflows subject r.operand)

/-- A loaded rule has no answer about a record exactly when it clashes with it. -/
theorem verdict_fails {r : Rule} (hr : r.IsLoaded) (record : Record) :
    Fails (r.verdict record) ↔ r.Clashes record := by
  have hoperand : r.operand.IsNormal := Operand.build?_isNormal hr.not_long.1 r.operand_eq
  rw [verdict, fails_bind, record.subject?_fails, Clashes]
  refine or_congr_right' fun href => ?_
  obtain ⟨subject, hsubject⟩ := not_fails_iff.1 (mt (record.subject?_fails r.field).1 href)
  obtain ⟨w, hw, hnormal⟩ := except_bind_eq_ok hsubject
  have hsubjectNormal := Value.normalize?_isNormal hnormal
  simp only [hsubject, Except.ok.injEq, exists_eq_left']
  cases r.operator with
  | unknown raw fresh => simp [OperatorName.test?]
  | known operator =>
    simp [OperatorName.test?, operator.test?_fails _ hsubjectNormal hoperand,
      record.texts?_fails]

end Rule

end ShelfRules
