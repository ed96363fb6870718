import ShelfRules.Filter.Evaluation
import ShelfRules.Proofs.AlikeOperands
import ShelfRules.Proofs.WrittenTimes

/-!
# Spellings of an instant

A moment in UTC is spelled by its text, with or without the marker of UTC behind it, by the text of
what a clock with an offset shows, and by timestamps on such clocks. All of them have one normal shape.
A rule for a field of dates depends on the attribute of the field and on its operand through the moments
that they stand for alone, so that one spelling is as good as another.

Results:
* `Value.Spells.moment?`: a spelling of a moment stands for the moment.
* `Operator.test?_of_date`: what the test of a date depends on.
* `Rule.exists_alikeDates`: with values that stand for the same moments a rule answers alike.
* `Moment.spellings_interchangeable`: spellings of one instant are interchangeable.
-/

namespace ShelfRules

/-! ## Spellings -/

namespace Value

/-- The spellings of a moment: its text, with or without the marker of UTC, the text of what a clock
shows whose offset is of whole seconds, and the timestamps that show it. -/
inductive Spells (m : Moment) : Value → Prop
  | plain : Spells m (.text (String.ofList m.isoChars))
  | utc : Spells m (.text (String.ofList (m.isoChars ++ ['Z'])))
  | shifted {wall : Moment} {o : Offset} : o.IsWhole → (wall.micros : Int) = m.micros + o.micros →
      Spells m (.text (String.ofList (Timestamp.isoChars ⟨wall, some o⟩)))
  | naive : Spells m (.moment m)
  | aware {wall : Moment} {o : Offset} : (wall.micros : Int) = m.micros + o.micros →
      Spells m (.stamp ⟨wall, some o⟩)

/-- The moment in UTC that a text or a timestamp stands for. -/
def moment? : Value → Option Moment
  | .text s => Moment.ofText? s
  | .stamp t => t.toUtc?
  | _ => none

variable {m : Moment} {v w : Value}

/-- A spelling of a moment stands for the moment. -/
theorem Spells.moment? (h : Spells m v) : v.moment? = some m := by
  cases h with
  | plain => exact m.ofText?_isoChars
  | utc => exact m.ofText?_utc
  | shifted ho hwall => exact Moment.ofText?_shifted ho hwall
  | naive => rfl
  | aware hwall => exact Timestamp.toUtc?_shifted hwall

/-- The normal shape of what stands for a moment is the moment. -/
theorem normalize?_of_moment? (h : v.moment? = some m) : v.normalize? = .ok (.moment m) := by
  cases v with
  | text s =>
    have hread : Moment.ofText? s = some m := h
    simp only [normalize?, hread]
  | stamp t =>
    have hutc : t.toUtc? = some m := h
    simp only [normalize?, hutc]
  | _ => cases h

theorem truthy_of_moment? (h : v.moment? = some m) : v.truthy = true := by
  cases v with
  | text s =>
    have hne : s ≠ "" := by
      rintro rfl
      cases (Moment.ofText?_of_blank rfl).symm.trans h
    simpa [truthy] using hne
  | stamp t => rfl
  | _ => cases h

/-- As a set, what stands for a moment is one text. -/
theorem lowerList?_of_moment? (h : v.moment? = some m) : ∃ s, v.lowerList? = .ok [s] := by
  have htruthy := truthy_of_moment? h
  cases v with
  | text s =>
    show ∃ t, (if (text s).truthy then (text s).webText?.map fun s => [Text.lowered s] else .ok []) =
      .ok [t]
    rw [if_pos htruthy, webText?_text]
    exact ⟨Text.lowered s, rfl⟩
  | stamp t => exact ⟨_, rfl⟩
  | _ => cases h

theorem dateRead?_of_not_stamp (h : ∀ t, v ≠ .stamp t) : v.dateRead? =
    if v.truthy then v.webText?.map fun s => ((Moment.ofText? s).map moment).getD .null
    else .ok .null := by
  cases v with
  | stamp t => exact absurd rfl (h t)
  | _ => rfl

/-- As an attribute of a field of dates, what stands for a moment is read as the moment. -/
theorem dateRead?_of_moment? (h : v.moment? = some m) :
    v.dateRead?.bind normalize? = .ok (.moment m) := by
  have htruthy := truthy_of_moment? h
  cases v with
  | text s =>
    have hread : Moment.ofText? s = some m := h
    have hstamp : ∀ t, text s ≠ .stamp t := fun t => Value.noConfusion
    rw [dateRead?_of_not_stamp hstamp, if_pos htruthy, webText?_text]
    show normalize? (((Moment.ofText? s).map moment).getD .null) = _
    rw [hread]
    rfl
  | stamp t => exact normalize?_of_moment? h
  | _ => cases h

/-- What an attribute of a field of dates is read as, in its normal shape, is null or a moment. -/
theorem dateRead?_normal (h : v.dateRead?.bind normalize? = .ok w) :
    w = .null ∨ ∃ m, w = .moment m := by
  have hoption : ∀ o : Option Moment, ((o.map moment).getD .null).normalize? = .ok w →
      w = .null ∨ ∃ m, w = .moment m := by
    intro o ho
    cases o with
    | none => exact .inl (Except.ok.inj ho).symm
    | some m => exact .inr ⟨m, (Except.ok.inj ho).symm⟩
  by_cases hstamp : ∃ t, v = .stamp t
  · obtain ⟨t, rfl⟩ := hstamp
    have hutc : ((t.toUtc?.map moment).getD .null).normalize? = (stamp t).normalize? := by
      simp only [normalize?]
      cases t.toUtc? <;> rfl
    exact hoption t.toUtc? (hutc.trans h)
  · rw [dateRead?_of_not_stamp fun t ht => hstamp ⟨t, ht⟩] at h
    split at h
    · obtain ⟨u, hu, h⟩ := except_bind_eq_ok h
      obtain ⟨s, -, rfl⟩ := Json.except_map_eq_ok hu
      exact hoption _ h
    · exact .inl (Except.ok.inj h).symm

/-- The values are equal, or stand for one moment. -/
def AlikeDates (v w : Value) : Prop := v = w ∨ ∃ m, v.moment? = some m ∧ w.moment? = some m

theorem AlikeDates.normalize?_eq (h : AlikeDates v w) : v.normalize? = w.normalize? := by
  rcases h with rfl | ⟨m, hv, hw⟩
  · rfl
  · rw [normalize?_of_moment? hv, normalize?_of_moment? hw]

theorem AlikeDates.dateRead?_eq (h : AlikeDates v w) :
    v.dateRead?.bind normalize? = w.dateRead?.bind normalize? := by
  rcases h with rfl | ⟨m, hv, hw⟩
  · rfl
  · rw [dateRead?_of_moment? hv, dateRead?_of_moment? hw]

/-- Sets of alike values are both empty, or both not. -/
theorem AlikeDates.exists_lowerList? (h : AlikeDates v w) {ss : List String}
    (hss : v.lowerList? = .ok ss) : ∃ ts, w.lowerList? = .ok ts ∧ ss.isEmpty = ts.isEmpty := by
  rcases h with rfl | ⟨m, hv, hw⟩
  · exact ⟨ss, hss, rfl⟩
  · obtain ⟨s, hs⟩ := lowerList?_of_moment? hv
    obtain ⟨t, ht⟩ := lowerList?_of_moment? hw
    cases hss.symm.trans hs
    exact ⟨[t], ht, rfl⟩

/-- A value like one that is kept is kept as it is. -/
theorem AlikeDates.asTuple (h : AlikeDates v w) (hv : v.asTuple = v) : w.asTuple = w := by
  rcases h with rfl | ⟨m, -, hw⟩
  · exact hv
  · cases w with
    | list items => cases hw
    | _ => rfl

end Value

/-! ## Operands -/

namespace Operand

/-- The operands are alike to the test of a date: they have the same single value, the same dates lie
between their bounds, and their sets are both empty or both not. -/
structure AlikeToDates (operand operand' : Operand) : Prop where
  value : operand.value = operand'.value
  bounds : operand.surrounds? = operand'.surrounds?
  isEmpty : operand.setValues.isEmpty = operand'.setValues.isEmpty

/-- Of values that stand for the same moments an operator makes operands that are alike to dates. -/
theorem build?_alikeToDates {name : OperatorName} {v w s s' e e' : Value} {operand : Operand}
    (hv : v.AlikeDates w) (hs : s.AlikeDates s') (he : e.AlikeDates e')
    (h : build? name v s e = .ok operand) :
    ∃ operand', build? name w s' e' = .ok operand' ∧ operand.AlikeToDates operand' := by
  have hscalar : v.normalize?.map (scalar v) = .ok operand →
      ∃ operand', w.normalize?.map (scalar w) = .ok operand' ∧ operand.AlikeToDates operand' := by
    intro h
    obtain ⟨value, hvalue, rfl⟩ := Json.except_map_eq_ok h
    rw [← hv.normalize?_eq, hvalue]
    exact ⟨scalar w value, rfl, rfl, rfl, rfl⟩
  have hset : v.lowerList?.map ofTexts = .ok operand →
      ∃ operand', w.lowerList?.map ofTexts = .ok operand' ∧ operand.AlikeToDates operand' := by
    intro h
    obtain ⟨ss, hss, rfl⟩ := Json.except_map_eq_ok h
    obtain ⟨ts, hts, hempty⟩ := hv.exists_lowerList? hss
    rw [hts]
    exact ⟨ofTexts ts, rfl, rfl, rfl, by simpa [ofTexts, setValues] using hempty⟩
  cases name with
  | unknown raw fresh => exact hscalar h
  | known operator =>
    cases operator with
    | includesAny | excludesAll | includesAll => exact hset h
    | inBetween =>
      obtain ⟨start, finish, hstart, hfinish, rfl⟩ := build?_range h
      rw [build?_inBetween, ← hs.normalize?_eq, ← he.normalize?_eq, hstart, hfinish]
      exact ⟨range start finish, rfl, rfl, rfl, rfl⟩
    | _ => exact hscalar h

end Operand

/-! ## Tests -/

namespace Operand

/-- No value of an operand is among none. -/
theorem meets?_nil (operand : Operand) : operand.meets? (.ok []) = .ok false := by
  have hnone : ∀ values : List Value, values.any (Value.isAmong []) = false := fun values =>
    List.any_eq_false.2 fun _ _ => Bool.false_ne_true
  exact congrArg Except.ok (hnone operand.setValues)

/-- All values of an operand are among none when there are none. -/
theorem within?_nil (operand : Operand) :
    operand.within? (.ok []) = .ok operand.setValues.isEmpty := by
  have hnone : ∀ values : List Value, values.all (Value.isAmong []) = values.isEmpty := by
    intro values
    cases values <;> rfl
  exact congrArg Except.ok (hnone operand.setValues)

end Operand

/-- The test of a date, or of none, with no set of texts, depends on nothing else of its operand. -/
theorem Operator.test?_of_date (operator : Operator) {operand operand' : Operand}
    (h : operand.AlikeToDates operand') {subject : Value}
    (hsubject : subject = .null ∨ ∃ m, subject = .moment m) :
    operator.test? subject operand (.ok []) = operator.test? subject operand' (.ok []) := by
  have hmatches : operand.matches? subject = operand'.matches? subject := by
    rcases hsubject with rfl | ⟨m, rfl⟩
    · simp only [Operand.matches?, h.value]
    · simp only [Operand.matches?, Value.moment, h.value]
  have hrelates : ∀ relation negated,
      operand.relates? relation negated subject = operand'.relates? relation negated subject := by
    intro relation negated
    simp only [Operand.relates?, h.value]
  have horders : ∀ test, operand.orders? test subject = operand'.orders? test subject := by
    intro test
    simp only [Operand.orders?, h.value]
  cases operator with
  | equals => exact hmatches
  | notEquals => simp only [test?, Operand.differs?_eq, hmatches]
  | contains | doesNotContain | startsWith | endsWith => exact hrelates _ _
  | greaterThan | greaterThanEqualTo | lessThan | lessThanEqualTo => exact horders _
  | inBetween => exact congrFun h.bounds subject
  | isEmpty | isNotEmpty => rfl
  | includesAny => simp only [test?, Operand.meets?_nil]
  | excludesAll => simp only [test?, Operand.misses?_eq, Operand.meets?_nil]
  | includesAll => simp only [test?, Operand.within?_nil, h.isEmpty]

/-! ## Rules -/

namespace Rule

variable {r : Rule} {field : Field} {a b : Record} {value start finish : Value}

/-- A rule for a field of dates asks its operator about what the attribute of the field is read as. -/
theorem verdict_of_dates (hfield : r.field = .known field) (hreading : field.reading = .date)
    (record : Record) : r.verdict record =
      ((record.fieldValue field).dateRead?.bind Value.normalize?).bind fun subject =>
        r.operator.test? subject r.operand (.ok []) := by
  rw [verdict, hfield, Record.subject?_known, Record.texts?, hreading]
  rfl

/-- With values that stand for the same moments a rule for a field of dates can be made, and answers
alike about a record whose attribute does. -/
theorem exists_alikeDates (hfield : r.field = .known field) (hreading : field.reading = .date)
    (hvalue : r.value.AlikeDates value) (hstart : r.start.AlikeDates start)
    (hfinish : r.finish.AlikeDates finish)
    (hrecords : (a.fieldValue field).AlikeDates (b.fieldValue field)) :
    ∃ s, of? r.field r.operator value start finish = .ok s ∧ s.verdict b = r.verdict a := by
  obtain ⟨operand, hbuild, halike⟩ := Operand.build?_alikeToDates hvalue hstart hfinish r.operand_eq
  have hkept : value.asTuple = value := hvalue.asTuple r.value_kept
  obtain ⟨s, hs⟩ : ∃ s, of? r.field r.operator value start finish = .ok s := by
    refine not_fails_iff.1 fun ⟨f, hf⟩ => ?_
    have herror := of?_eq_error hf
    rw [hkept, hbuild] at herror
    cases herror
  obtain ⟨hf, ho, hv, hst, hfi⟩ := of?_eq_ok hs
  have hoperand : s.operand = operand := by
    have hown := s.operand_eq
    rw [ho, hv, hkept, hst, hfi, hbuild] at hown
    exact (Except.ok.inj hown).symm
  refine ⟨s, hs, ?_⟩
  rw [verdict_of_dates (hf.trans hfield) hreading, verdict_of_dates hfield hreading,
    hrecords.dateRead?_eq, ho, hoperand]
  cases hsubject : (b.fieldValue field).dateRead?.bind Value.normalize? with
  | error f => rfl
  | ok subject =>
    show r.operator.test? subject operand (.ok []) = r.operator.test? subject r.operand (.ok [])
    cases r.operator with
    | unknown raw fresh => rfl
    | known operator => exact (operator.test?_of_date halike (Value.dateRead?_normal hsubject)).symm

end Rule

/-! ## Spellings of an instant -/

/-- The values are equal, or spellings of one moment. -/
def Value.Respelled (v w : Value) : Prop := v = w ∨ ∃ m, Spells m v ∧ Spells m w

theorem Value.Respelled.alikeDates {v w : Value} (h : v.Respelled w) : v.AlikeDates w :=
  h.imp_right fun ⟨m, hv, hw⟩ => ⟨m, hv.moment?, hw.moment?⟩

/-- Spellings of one instant are interchangeable. A moment in UTC is read from its text, with or without
the marker of UTC, and from the text of what a clock shows whose offset is of whole seconds; and it is
the normal shape of a timestamp on any clock that shows it. A rule for a field of dates can be made with
other spellings of its operands, and gives the same answer, or the same fault, about a record with
another spelling of the attribute. -/
theorem Moment.spellings_interchangeable :
    (∀ m : Moment, ofText? (String.ofList m.isoChars) = some m ∧
      ofText? (String.ofList (m.isoChars ++ ['Z'])) = some m ∧
      ∀ (wall : Moment) (o : Offset), (wall.micros : Int) = m.micros + o.micros →
        (o.IsWhole → ofText? (String.ofList (Timestamp.isoChars ⟨wall, some o⟩)) = some m) ∧
        Value.normalize? (.stamp ⟨wall, some o⟩) = .ok (.moment m)) ∧
    ∀ (r : Rule) (field : Field) (a b : Record) (value start finish : Value),
      field ∈ [.publishedDate, .dateFinished, .lastReadTime] → r.field = .known field →
      r.value.Respelled value → r.start.Respelled start → r.finish.Respelled finish →
      (a.fieldValue field).Respelled (b.fieldValue field) →
      ∃ s, Rule.of? r.field r.operator value start finish = .ok s ∧ s.verdict b = r.verdict a := by
  constructor
  · intro m
    refine ⟨m.ofText?_isoChars, m.ofText?_utc, fun wall o hwall => ?_⟩
    have hnormal : Value.normalize? (.stamp ⟨wall, some o⟩) = .ok (.moment m) :=
      Value.normalize?_of_moment? (Timestamp.toUtc?_shifted hwall)
    exact ⟨fun ho => ofText?_shifted ho hwall, hnormal⟩
  · intro r field a b value start finish hdates hfield hvalue hstart hfinish hrecords
    have hreading : ∀ field ∈ [Field.publishedDate, .dateFinished, .lastReadTime],
        field.reading = .date := by decide
    exact Rule.exists_alikeDates hfield (hreading field hdates) hvalue.alikeDates hstart.alikeDates
      hfinish.alikeDates hrecords.alikeDates

namespace Rule

/-- Half past midnight, on the first of March of a leap year. -/
def leapNight : Moment := ⟨⟨2024, 3, 1, by decide⟩, ⟨0, 30, 0, 0, by decide⟩⟩

/-- What a clock shows then that is an hour behind UTC. -/
def leapEvening : Moment := ⟨⟨2024, 2, 29, by decide⟩, ⟨23, 30, 0, 0, by decide⟩⟩

/-- An hour behind UTC. -/
def hourBehind : Offset := ⟨-3600000000, by decide⟩

/-- A rule for the books that were last read at that moment. -/
def readAtNight : Rule := ⟨.known .lastReadTime, .known .equals, .text "2024-03-01T00:30:00", .null,
  .null, .scalar (.text "2024-03-01T00:30:00") (.moment leapNight), rfl, rfl⟩

/-- The book of a payload with the time of the last reading. -/
def bookReadAt (time : String) : Record := .book (.ofEntries [("lastReadTime", .text time)])

/-- The rule holds of a book that was read at the moment in UTC, and so does the rule for the evening
before at an hour behind UTC of a book that was read then. -/
theorem readAtNight_respelled :
    Moment.ofText? "2024-02-29T23:30:00-01:00" = some leapNight ∧
    readAtNight.verdict (bookReadAt "2024-03-01T00:30:00Z") = .ok true ∧
    ∃ s, of? (.known .lastReadTime) (.known .equals) (.text "2024-02-29T23:30:00-01:00") .null .null =
        .ok s ∧
      s.verdict (bookReadAt "2024-02-29T23:30:00-01:00") = .ok true := by
  obtain ⟨hspelled, hrules⟩ := Moment.spellings_interchangeable
  have hwall : (leapEvening.micros : Int) = leapNight.micros + hourBehind.micros := by decide +kernel
  have hwhole : hourBehind.IsWhole := by decide
  have hplain : String.ofList leapNight.isoChars = "2024-03-01T00:30:00" := by decide +kernel
  have hutc : String.ofList (leapNight.isoChars ++ ['Z']) = "2024-03-01T00:30:00Z" := by
    decide +kernel
  have hshifted : String.ofList (Timestamp.isoChars ⟨leapEvening, some hourBehind⟩) =
      "2024-02-29T23:30:00-01:00" := by decide +kernel
  have hread := ((hspelled leapNight).2.2 leapEvening hourBehind hwall).1 hwhole
  have hnaive : Value.Spells leapNight (.text "2024-03-01T00:30:00") := hplain ▸ .plain
  have hmarked : Value.Spells leapNight (.text "2024-03-01T00:30:00Z") := hutc ▸ .utc
  have hevening := Value.Spells.shifted hwhole hwall
  rw [hshifted] at hread hevening
  have hrule := hrules readAtNight .lastReadTime (bookReadAt "2024-03-01T00:30:00Z")
    (bookReadAt "2024-02-29T23:30:00-01:00") (.text "2024-02-29T23:30:00-01:00") .null .null
    (by decide) rfl (.inr ⟨leapNight, hnaive, hevening⟩) (.inl rfl) (.inl rfl)
    (.inr ⟨leapNight, hmarked, hevening⟩)
  have hnight : readAtNight.verdict (bookReadAt "2024-03-01T00:30:00Z") = .ok true := by
    decide +kernel
  rw [hnight] at hrule
  exact ⟨hread, hnight, hrule⟩

end Rule

end ShelfRules
