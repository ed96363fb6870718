import ShelfRules.Proofs.KeptSkeletons
import ShelfRules.Proofs.LoweredTimes
import ShelfRules.Proofs.PatternReading

/-!
# Days in storage

A day is stored as the text of its year, its month and its day, and should be read back as its
midnight. The year is written with as many digits as it has: from the year 1000 on these are four, the
text is an ISO text and is read back. The text of an earlier day is no ISO text, since a hyphen stands
among its first four characters, nor does it fit a pattern, and the day is lost.

Results:
* `Date.shortChars_form_iff`: which days are written with four, two and two digits.
* `Moment.ofText?_shortChars_eq`: what the text of a day is read as.
* `Rule.keepsDays`: what becomes of the days in a rule.
* `Group.stored_days`: what becomes of days, in texts and in filters.
* `Group.lostDay_unread`: a day that is lost.
-/

namespace ShelfRules

/-! ## Written days -/

namespace Date

variable (d : Date)

/-- A year has four digits or more exactly from the year 1000 on. -/
theorem four_le_length_iff : 4 ≤ (Nat.toDigits 10 d.year).length ↔ 1000 ≤ d.year := by
  have hshort : (Nat.toDigits 10 d.year).length ≤ 3 ↔ d.year < 10 ^ (3 : Nat) :=
    Nat.length_toDigits_le_iff (by decide) (by decide)
  omega

/-- A day is written with four, two and two digits exactly from the year 1000 on. -/
theorem shortChars_form_iff :
    (∃ ds : DayDigits, d.shortChars = ds.chars true) ↔ 1000 ≤ d.year := by
  constructor
  · rintro ⟨ds, hds⟩
    have hmonth : (padded 2 d.month).length = 2 := length_padded (by decide) d.month_lt
    have hday : (padded 2 d.day).length = 2 := length_padded (by decide) d.day_lt
    have hlength := congrArg List.length hds
    simp only [shortChars, DayDigits.chars, if_true, List.length_append, List.length_cons, hmonth,
      hday, ds.year.length_chars, ds.month.length_chars, ds.day.length_chars] at hlength
    have hyear : 4 ≤ (Nat.toDigits 10 d.year).length := by omega
    exact d.four_le_length_iff.1 hyear
  · intro h
    exact ⟨d.digits, (shortChars_eq_isoChars h).trans d.isoChars_eq⟩

/-- A written day consists of digits and hyphens. -/
theorem mem_shortChars {c : Char} (hc : c ∈ d.shortChars) : c.isDigit = true ∨ c = '-' := by
  simp only [shortChars, List.mem_append, List.mem_cons] at hc
  rcases hc with (hyear | hdash | hmonth) | hdash | hday
  · exact .inl (Nat.isDigit_of_mem_toDigits (by decide) (by decide) hyear)
  · exact .inr hdash
  · exact .inl (isDigit_of_mem_padded hmonth)
  · exact .inr hdash
  · exact .inl (isDigit_of_mem_padded hday)

end Date

/-! ## Texts that are no dates -/

/-- An ISO text starts with four digits. -/
theorem Timestamp.ofIso?_of_readDigits {s : List Char} (h : Iso.readDigits 4 s = none) :
    ofIso? s = none := by
  have hdate : ∀ length, Iso.readDate length s = none := by
    intro length
    rw [Iso.readDate, h]
    rfl
  rw [ofIso?]
  cases Iso.dateLength? s with
  | none => rfl
  | some length =>
    rw [Option.bind_eq_bind, Option.bind_some, hdate]
    rfl

theorem Iso.readDigits_of_mem_take {count : Nat} {s : List Char} {c : Char} (hc : c ∈ s.take count)
    (hdigit : c.isDigit = false) : readDigits count s = none := by
  refine Option.eq_none_iff_forall_ne_some.2 fun ⟨n, t⟩ hread => ?_
  obtain ⟨ds, rfl⟩ := readDigits_eq_some hread
  rw [List.take_left' ds.length_chars] at hc
  rw [ds.isDigit c hc] at hdigit
  cases hdigit

/-- A pattern of known dates starts with a year, or has a piece that is no number and no hyphen. -/
theorem Pattern.known_cases : ∀ pattern ∈ known, (∃ rest, pattern = .year :: rest) ∨
    .sign '/' ∈ pattern ∨ .sign '.' ∈ pattern ∨ .blanks ∈ pattern := by
  simp [known]

namespace Date

/-- Behind the digits of an early year the hyphen stands among the first four characters. -/
theorem dash_mem_take {d : Date} (h : d.year < 1000) : '-' ∈ d.shortChars.take 4 := by
  have hlength : (Nat.toDigits 10 d.year).length < 4 := by
    have hlong := d.four_le_length_iff
    omega
  obtain ⟨k, hk⟩ := Nat.exists_eq_add_of_lt hlength
  have hrest : 4 - (Nat.toDigits 10 d.year).length = k + 1 := by omega
  rw [shortChars, List.append_assoc, List.take_append, hrest]
  exact List.mem_append_right _ List.mem_cons_self

/-- No character of a written day starts a slash, a point or blanks. -/
theorem not_starts_shortChars {d : Date} {piece : Piece}
    (h : piece = .sign '/' ∨ piece = .sign '.' ∨ piece = .blanks) :
    ∀ c ∈ d.shortChars, piece.starts c = false := by
  intro c hc
  rcases d.mem_shortChars hc with hdigit | rfl
  · rcases h with rfl | rfl | rfl
    · exact beq_false_of_ne fun heq => by simp [heq] at hdigit
    · exact beq_false_of_ne fun heq => by simp [heq] at hdigit
    · exact isBlank_of_isDigit hdigit
  · rcases h with rfl | rfl | rfl <;> decide

/-- No pattern reads a day of a year with fewer than four digits. -/
theorem read?_shortChars {d : Date} (h : d.year < 1000) :
    ∀ pattern ∈ Pattern.known, pattern.read? d.shortChars = none := by
  intro pattern hpattern
  have hno : ∀ piece ∈ pattern, (piece = .sign '/' ∨ piece = .sign '.' ∨ piece = .blanks) →
      pattern.read? d.shortChars = none := fun piece hpiece hkind =>
    Pattern.read?_eq_none_of_piece hpiece (not_starts_shortChars hkind)
  rcases Pattern.known_cases pattern hpattern with ⟨rest, rfl⟩ | hslash | hpoint | hblanks
  · exact Pattern.read?_year_cons (dash_mem_take h) (by decide)
  · exact hno _ hslash (.inl rfl)
  · exact hno _ hpoint (.inr (.inl rfl))
  · exact hno _ hblanks (.inr (.inr rfl))

theorem strip_shortChars (d : Date) : Text.strip d.shortChars = d.shortChars := by
  have hblank : ∀ c ∈ d.shortChars, Piece.blanks.starts c = false :=
    not_starts_shortChars (.inr (.inr rfl))
  exact Text.strip_of_forall hblank

/-- What a stored day is read as: its midnight, and nothing when its year has fewer than four digits. -/
def kept (d : Date) : Value := if 1000 ≤ d.year then .moment (.ofDate d) else .null

end Date

/-- The text of a day is read as its midnight exactly from the year 1000 on. -/
theorem Moment.ofText?_shortChars_eq (d : Date) : ofText? (String.ofList d.shortChars) =
    if 1000 ≤ d.year then some (.ofDate d) else none := by
  split
  · rename_i h
    exact ofText?_shortChars h
  · rename_i h
    have hearly : d.year < 1000 := Nat.lt_of_not_le h
    have hdigits : Iso.readDigits 4 d.shortChars = none :=
      Iso.readDigits_of_mem_take (Date.dash_mem_take hearly) (by decide)
    have hiso : Timestamp.ofIso? d.shortChars = none := Timestamp.ofIso?_of_readDigits hdigits
    have hpatterns : Pattern.known.findSome? (·.read? d.shortChars) = none :=
      List.findSome?_eq_none_iff.2 (Date.read?_shortChars hearly)
    rw [ofText?, String.toList_ofList, d.strip_shortChars, ofStripped?, hiso, hpatterns]
    exact ite_self none

/-! ## Stored days -/

namespace Value

/-- The text of a day is read as what is kept of the day. -/
theorem typedAs?_shortChars (d : Date) :
    typedAs? .date (.text (String.ofList d.shortChars)) = .ok d.kept := by
  show Except.ok (dateOfText (.text (String.ofList d.shortChars))) = .ok d.kept
  rw [dateOfText, Moment.ofText?_shortChars_eq, Date.kept]
  split <;> rfl

/-- A stored list of days is read day by day. -/
theorem typedAs?_storedDays (days : List Date) :
    ((tuple (days.map .date)).stored (some .date)).withoutNulls.typed? (some .date) =
      .ok (.list (days.map Date.kept)) := by
  have hitems : typedItems? .date (itemsWithoutNulls (storedItems (some .date) (days.map .date))) =
      .ok (days.map Date.kept) := by
    induction days with
    | nil => rfl
    | cons d days ih =>
      show (typedAs? .date (.text (String.ofList d.shortChars))).bind (fun w =>
        (typedItems? .date (itemsWithoutNulls (storedItems (some .date) (days.map .date)))).map
          (w :: ·)) = _
      rw [typedAs?_shortChars, ih]
      rfl
  exact congrArg (Except.map list) hitems

theorem asTuple_kept (d : Date) : d.kept.asTuple = d.kept := by
  unfold Date.kept
  split <;> rfl

end Value

/-! ## Rules -/

namespace Rule

/-- What a rule is read as from its stored form: the same field and operator, and its values as they are
read by the type of the field. -/
theorem values_of_ofEntries? {r r' : Rule} (h : ofEntries? r.storedEntries = .ok r') :
    r.SameTest r' ∧
    (∃ value, (r.value.stored r.field.type).withoutNulls.typed? r.field.type = .ok value ∧
      r'.value = value.asTuple) ∧
    (r.start.stored r.field.type).withoutNulls.typed? r.field.type = .ok r'.start ∧
    (r.finish.stored r.field.type).withoutNulls.typed? r.field.type = .ok r'.finish := by
  obtain ⟨hfield, hoperator, hvalue, hstart, hfinish⟩ := ofEntries?_eq_ok h
  simp only [get_storedEntries] at hfield hoperator hvalue hstart hfinish
  have hf : r'.field = r.field :=
    Except.ok.inj (hfield.symm.trans (congrArg Except.ok r.field.ofText_text))
  have ho : r'.operator = r.operator :=
    Except.ok.inj (hoperator.symm.trans (congrArg Except.ok r.operator.ofText_text))
  rw [hf] at hvalue hstart hfinish
  exact ⟨⟨hf, ho⟩, hvalue, hstart, hfinish⟩

/-- The second rule is for the same field and operator, and when the field holds dates it has in the
place of each day what is kept of the day. -/
structure KeepsDays (r r' : Rule) : Prop where
  sameTest : r.SameTest r'
  value : r.field.type = some .date → ∀ d, r.value = .date d → r'.value = d.kept
  items : r.field.type = some .date → ∀ days : List Date, r.value = .tuple (days.map .date) →
    r'.value = .tuple (days.map Date.kept)
  start : r.field.type = some .date → ∀ d, r.start = .date d → r'.start = d.kept
  finish : r.field.type = some .date → ∀ d, r.finish = .date d → r'.finish = d.kept

/-- A rule that is read from the stored form of another one keeps its days. -/
theorem keepsDays {r r' : Rule} (h : ofEntries? r.storedEntries = .ok r') : r.KeepsDays r' := by
  obtain ⟨htest, ⟨value, hvalue, hv⟩, hstart, hfinish⟩ := values_of_ofEntries? h
  have hday : ∀ {v w : Value} {d : Date}, r.field.type = some .date → v = .date d →
      (v.stored r.field.type).withoutNulls.typed? r.field.type = .ok w → w = d.kept := by
    intro v w d htype hv hread
    rw [htype, hv] at hread
    exact Except.ok.inj (hread.symm.trans (Value.typedAs?_shortChars d))
  refine ⟨htest, fun htype d hd => ?_, fun htype days hdays => ?_, fun htype d hd => ?_,
    fun htype d hd => ?_⟩
  · rw [hv, hday htype hd hvalue, Value.asTuple_kept]
  · rw [htype, hdays, Value.typedAs?_storedDays] at hvalue
    rw [hv, ← Except.ok.inj hvalue]
    rfl
  · exact hday htype hd hstart
  · exact hday htype hd hfinish

end Rule

/-! ## Trees -/

namespace Node

mutual
/-- The stored form of a tree of named groups and simple operands is a document. -/
theorem document_isDocument : ∀ {node : Node}, node.isNamed = true →
    (∀ r ∈ node.rules, r.isSimple = true) → node.document.isDocument = true
  | rule r, _, h => Rule.document_isDocument (h r (List.mem_singleton_self r))
  | group name join children, hnamed, h => by
    obtain ⟨⟨s, rfl⟩, hchildren⟩ := isNamed_group hnamed
    have hrules : (Value.list (documents children)).isDocument = true :=
      Value.isDocument_list.2 (documents_areDocuments hchildren h)
    simp only [Value.isDocument, Bool.and_eq_true, Bool.not_eq_true'] at hrules
    simpa [document, Value.isDocument, Value.isJson, Value.entriesAreJson, Value.holdsLongInteger,
      Value.anyEntryHoldsLongInteger] using hrules
theorem documents_areDocuments : ∀ {nodes : List Node}, areNamed nodes = true →
    (∀ r ∈ rulesOf nodes, r.isSimple = true) → ∀ v ∈ documents nodes, v.isDocument = true
  | [], _, _ => List.forall_mem_nil _
  | _ :: _, hnamed, h => by
    obtain ⟨hnode, hrest⟩ := Bool.and_eq_true_iff.1 hnamed
    obtain ⟨hrules, hrestRules⟩ := List.forall_mem_append.1 h
    exact List.forall_mem_cons.2
      ⟨document_isDocument hnode hrules, documents_areDocuments hrest hrestRules⟩
end

end Node

/-! ## Filters -/

namespace Group

/-- A filter whose stored form is a document has a text. -/
theorem exists_text {g : Group} (h : g.document.isDocument = true) : ∃ s, g.text? = .ok s := by
  rw [Value.isDocument_eq, Bool.and_eq_true, Bool.not_eq_true'] at h
  refine ⟨String.ofList (Json.compact g.document), ?_⟩
  rw [text?, Json.encode?_of_isLoaded h.1, h.2, if_neg Bool.false_ne_true]

/-- The stored form of a filter with named groups and simple operands is a document. -/
theorem document_isDocument {g : Group} (hnamed : g.toNode.isNamed = true)
    (hsimple : ∀ r ∈ g.rules, r.isSimple = true) : g.document.isDocument = true := by
  have hdocument := Node.document_isDocument hnamed hsimple
  rw [Value.isDocument_eq, Bool.and_eq_true, Bool.not_eq_true'] at hdocument
  exact Value.withoutNulls_isDocument hdocument.1 hdocument.2

/-- Days in storage. The text of a day has four, two and two digits, and is read as the midnight of the
day, exactly from the year 1000 on; the text of an earlier day is read as nothing. So it goes with the
days in a filter whose stored form is a document: it has a text, and the filter that is read from the
text holds in the place of each day what is kept of it. A filter with named groups and simple operands
is such a filter, and is read. -/
theorem stored_days (d : Date) (g : Group) :
    (∃ s, Value.shortDate? (.date d) = .ok s ∧
      ((∃ ds : DayDigits, s.toList = ds.chars true) ↔ 1000 ≤ d.year) ∧
      Moment.ofText? s = if 1000 ≤ d.year then some (.ofDate d) else none) ∧
    (g.document.isDocument = true → ∃ s, g.text? = .ok s ∧
      ∀ g', (ofText s).result = .ok g' → Node.Again Rule.KeepsDays g.toNode g'.toNode) ∧
    (g.toNode.isNamed = true → (∀ r ∈ g.rules, r.isSimple = true) →
      g.document.isDocument = true ∧ ∃ s g', g.text? = .ok s ∧ ofText s = .ok g') := by
  refine ⟨?_, fun hdocument => ?_, fun hnamed hsimple => ?_⟩
  · refine ⟨String.ofList d.shortChars, rfl, ?_, Moment.ofText?_shortChars_eq d⟩
    rw [String.toList_ofList]
    exact d.shortChars_form_iff
  · obtain ⟨s, hs⟩ := exists_text hdocument
    refine ⟨s, hs, fun g' hread => ?_⟩
    rw [ofText_of_isDocument hdocument hs] at hread
    exact again_of_read (fun r _ r' hr' => Rule.keepsDays hr') hread
  · have hdocument := document_isDocument hnamed hsimple
    obtain ⟨s, hs⟩ := exists_text hdocument
    obtain ⟨g', hread, -⟩ := skeleton_kept hnamed hsimple
    exact ⟨hdocument, s, g', hs, (ofText_of_isDocument hdocument hs).trans hread⟩

/-- The last day of the year 999. -/
def lastOfThree : Date := ⟨999, 12, 31, by decide⟩

/-- The first day of the year 1000. -/
def firstOfFour : Date := ⟨1000, 1, 1, by decide⟩

/-- A filter for the books of two days, and for those that were finished on one of them. -/
def chronicles : Group := ⟨.text "Chronicles", .any, [
  .rule ⟨.known .publishedDate, .known .inBetween, .tuple [.date lastOfThree, .date firstOfFour],
    .date lastOfThree, .date firstOfFour,
    .range (.moment (.ofDate lastOfThree)) (.moment (.ofDate firstOfFour)), rfl, rfl⟩,
  .group (.text "") .all [
    .rule ⟨.known .dateFinished, .known .greaterThan, .date firstOfFour, .null, .null,
      .scalar (.date firstOfFour) (.moment (.ofDate firstOfFour)), rfl, rfl⟩]]⟩

/-- The first day of the year 1000 is read back from its text, and the filter from its own with its
days kept. -/
theorem chronicles_stored : (∃ s, Value.shortDate? (.date firstOfFour) = .ok s ∧
      (∃ ds : DayDigits, s.toList = ds.chars true) ∧
      Moment.ofText? s = some (.ofDate firstOfFour)) ∧
    chronicles.toNode.isNamed = true ∧ (∀ r ∈ chronicles.rules, r.isSimple = true) ∧
    chronicles.document.isDocument = true ∧
    ∃ s g', chronicles.text? = .ok s ∧ ofText s = .ok g' ∧
      Node.Again Rule.KeepsDays chronicles.toNode g'.toNode := by
  obtain ⟨⟨day, hday, hform, hmoment⟩, hkept, hread⟩ := stored_days firstOfFour chronicles
  have hsimple : ∀ r ∈ chronicles.rules, r.isSimple = true := by decide +kernel
  obtain ⟨hdocument, s, g', hs, hg'⟩ := hread rfl hsimple
  obtain ⟨s', hs', hagain⟩ := hkept hdocument
  obtain rfl : s = s' := Except.ok.inj (hs.symm.trans hs')
  have hfour : 1000 ≤ firstOfFour.year := by decide
  have hresult : (ofText s).result = .ok g' := by
    rw [hg']
    rfl
  exact ⟨⟨day, hday, hform.2 hfour, hmoment.trans (if_pos hfour)⟩, rfl, hsimple, hdocument,
    s, g', hs, hg', hagain g' hresult⟩

/-- A day of the year 999. -/
def dayOfThree : Date := ⟨999, 5, 1, by decide⟩

/-- A filter for the books of that day. -/
def lostDay : Group := ⟨.text "", .all, [
  .rule ⟨.known .publishedDate, .known .equals, .date dayOfThree, .null, .null,
    .scalar (.date dayOfThree) (.moment (.ofDate dayOfThree)), rfl, rfl⟩]⟩

/-- A day of the year 999 is written with three digits for its year and is not read; the filter for it
is read as one for no day. -/
theorem lostDay_unread : Value.shortDate? (.date dayOfThree) = .ok "999-05-01" ∧
    (¬∃ ds : DayDigits, "999-05-01".toList = ds.chars true) ∧
    Moment.ofText? "999-05-01" = none ∧
    ∃ s, lostDay.text? = .ok s ∧
      (ofText s).result.map (fun g => g.rules.map (·.value.isNull)) = .ok [true] := by
  have hform : ¬∃ ds : DayDigits, dayOfThree.shortChars = ds.chars true :=
    mt dayOfThree.shortChars_form_iff.1 (by decide)
  exact ⟨by rfl, hform, by decide +kernel, _, rfl, by decide +kernel⟩

end Group

end ShelfRules
