import ShelfRules.Proofs.LoweredTimes
import ShelfRules.Proofs.SpelledPieces
import ShelfRules.Proofs.StoredDays
import ShelfRules.Proofs.WrittenTimes

/-!
# Spelled days are read

A day is spelled with numbers alone, the year first, the month first or the day first, or with the name
of its month. A month spells its first day and a year the first of January. All these texts are read as
the midnight of the day, with blanks around them or without: the patterns that are tried before the one
that fits do not read the text at all.

Results:
* `Pattern.findSome?_of_read?`: the first pattern that reads a text counts.
* `Date.Spells.ofStripped?`: a spelled day without blanks around it is read as its midnight.
* `Moment.ofText?_of_blanks`: blanks around a text do not count.
* `Moment.ofText?_spells`: a spelled day is read as its midnight.
-/

namespace ShelfRules

open Text (IsGap)

variable {s t : List Char}

/-! ## Spellings -/

namespace Date

/-- The first day of the month. -/
def firstOfMonth (d : Date) : Date :=
  ⟨d.year, d.month, 1, d.valid.1, d.valid.2.1, d.valid.2.2.1, d.valid.2.2.2.1, Nat.le_refl 1,
    Nat.le_trans d.valid.2.2.2.2.1 d.valid.2.2.2.2.2⟩

/-- The first day of the year. -/
def firstOfYear (d : Date) : Date :=
  ⟨d.year, 1, 1, d.valid.1, d.valid.2.1, Nat.le_refl 1, by decide, Nat.le_refl 1,
    by simp [daysInMonth]⟩

/-- The text spells the day. A year has four digits, and a month and a day may have a zero in front. -/
inductive Spells : Date → List Char → Prop
  /-- Year, month and day with hyphens and all zeros. -/
  | iso (d : Date) : Spells d d.isoChars
  /-- Year, month and day with slashes. -/
  | yearFirst (d : Date) {month day : List Char} : IsShort d.month month → IsShort d.day day →
      Spells d (padded 4 d.year ++ '/' :: (month ++ '/' :: day))
  /-- Month, day and year with slashes. -/
  | monthFirst (d : Date) {month day : List Char} : IsShort d.month month → IsShort d.day day →
      Spells d (month ++ '/' :: (day ++ '/' :: padded 4 d.year))
  /-- Day, month and year with points. -/
  | dayFirst (d : Date) {month day : List Char} : IsShort d.month month → IsShort d.day day →
      Spells d (day ++ '.' :: (month ++ '.' :: padded 4 d.year))
  /-- The name of the month, the day with a comma, and the year. -/
  | nameComma (d : Date) {name gap day gap' : List Char} : IsMonthName d.month name → IsGap gap →
      IsShort d.day day → IsGap gap' →
      Spells d (name ++ (gap ++ (day ++ ',' :: (gap' ++ padded 4 d.year))))
  /-- The name of the month, the day and the year. -/
  | nameDay (d : Date) {name gap day gap' : List Char} : IsMonthName d.month name → IsGap gap →
      IsShort d.day day → IsGap gap' →
      Spells d (name ++ (gap ++ (day ++ (gap' ++ padded 4 d.year))))
  /-- The day, the name of the month and the year. -/
  | dayName (d : Date) {day gap name gap' : List Char} : IsShort d.day day → IsGap gap →
      IsMonthName d.month name → IsGap gap' →
      Spells d (day ++ (gap ++ (name ++ (gap' ++ padded 4 d.year))))
  /-- Year and month with a hyphen. -/
  | month (d : Date) {month : List Char} : IsShort d.month month →
      Spells d.firstOfMonth (padded 4 d.year ++ '-' :: month)
  /-- The name of the month and the year. -/
  | name (d : Date) {name gap : List Char} : IsMonthName d.month name → IsGap gap →
      Spells d.firstOfMonth (name ++ (gap ++ padded 4 d.year))
  /-- The year. -/
  | year (d : Date) : Spells d.firstOfYear (padded 4 d.year)

theorem month_range (d : Date) : 1 ≤ d.month ∧ d.month ≤ 12 := ⟨d.valid.2.2.1, d.valid.2.2.2.1⟩

theorem day_range (d : Date) : 1 ≤ d.day ∧ d.day ≤ 31 := by
  have hday := d.valid.2.2.2.2
  have hlength : daysInMonth d.year d.month ≤ 31 := by
    unfold daysInMonth
    split
    · split <;> omega
    · split <;> omega
  omega

end Date

/-! ## Patterns that do not read -/

namespace Pattern

variable {piece : Piece} {pattern : Pattern} {c : Char}

/-- A pattern with a sign does not read a text without it. -/
theorem read?_eq_none_of_sign (hpiece : .sign c ∈ pattern) (h : c ∉ s) : pattern.read? s = none :=
  read?_eq_none_of_piece hpiece fun _ hd => beq_false_of_ne fun heq => h (heq ▸ hd)

/-- A text that starts with a letter starts with no number. -/
theorem read?_eq_none_of_cased (hpiece : piece = .year ∨ piece = .month ∨ piece = .day)
    (hc : Text.isCaseless c = false) : read? (piece :: pattern) (c :: s) = none := by
  have hdecimal : Text.isDecimal c = false := Bool.eq_false_iff.2 fun h => by
    rw [Text.isCaseless_of_isDecimal h] at hc
    cases hc
  have hdigit : c.isDigit = false := Bool.eq_false_iff.2 fun h => by
    rw [Text.isCaseless_of_isDigit h] at hc
    cases hc
  have hspace : (c == ' ') = false := beq_false_of_ne fun h => by
    rw [h, Text.isCaseless_of_toNat_le (by decide)] at hc
    cases hc
  refine read?_eq_none_of_head ?_
  rcases hpiece with rfl | rfl | rfl
  · exact hdecimal
  · exact hdigit
  · rw [Piece.starts, hdigit, hspace]
    rfl

/-- A text that starts with a character without case starts with no name. -/
theorem read?_eq_none_of_caseless (hpiece : piece = .monthName ∨ piece = .monthAbbreviation)
    (hc : Text.isCaseless c = true) : read? (piece :: pattern) (c :: s) = none := by
  refine read?_eq_none_of_head ?_
  rcases hpiece with rfl | rfl
  · exact (Piece.not_starts_of_isCaseless hc).1
  · exact (Piece.not_starts_of_isCaseless hc).2

/-- A text with a character that is no digit is no bare year. -/
theorem read?_year_of_mem (hc : c ∈ s) (hdigit : Text.isDecimal c = false) :
    read? [.year] s = none := by
  refine Option.eq_none_iff_forall_ne_some.2 fun d hread => ?_
  rw [(read?_year_eq_some hread).2 c hc] at hdigit
  cases hdigit

end Pattern

/-! ## The pattern that reads -/

namespace Pattern

variable {d : Date} {n : Nat}

/-- The first pattern that reads a text counts. -/
theorem findSome?_of_read? {pattern : Pattern} {back : List Pattern}
    (hknown : known.drop n = pattern :: back) (hfront : ∀ p ∈ known.take n, p.read? s = none)
    (h : pattern.read? s = some d) : known.findSome? (·.read? s) = some d := by
  rw [← List.take_append_drop n known, List.findSome?_append, List.findSome?_eq_none_iff.2 hfront,
    hknown, List.findSome?_cons, h]
  rfl

/-- Of two patterns for a name the first one reads it, or else the second one. -/
theorem findSome?_of_pair {full short : Pattern} {back : List Pattern}
    (hknown : known.drop n = full :: short :: back) (hfront : ∀ p ∈ known.take n, p.read? s = none)
    (h : full.read? s = some d ∨ full.read? s = none ∧ short.read? s = some d) :
    known.findSome? (·.read? s) = some d := by
  rw [← List.take_append_drop n known, List.findSome?_append, List.findSome?_eq_none_iff.2 hfront,
    hknown, List.findSome?_cons]
  rcases h with h | ⟨hfull, h⟩
  · rw [h]
    rfl
  · rw [hfull, List.findSome?_cons, h]
    rfl

end Pattern

/-! ## Texts that are read by patterns -/

/-- A text that is neither a bare number nor an ISO text is what the patterns read. -/
theorem Moment.ofStripped?_of_findSome? {d : Date} (hbare : isBareNumber s = false)
    (hiso : Timestamp.ofIso? s = none) (h : Pattern.known.findSome? (·.read? s) = some d) :
    ofStripped? s = some (.ofDate d) := by
  have hne : s ≠ [] := by
    rintro rfl
    have hnone : Pattern.known.findSome? (·.read? []) = none := by decide
    rw [hnone] at h
    cases h
  rw [ofStripped?, hbare, decide_eq_false hne, hiso, h]
  rfl

theorem isBareNumber_of_mem {c : Char} (hc : c ∈ s) (hdigit : Text.isDigitLike c = false) :
    isBareNumber s = false := by
  rw [isBareNumber, Bool.and_eq_false_iff, List.all_eq_false]
  exact .inl ⟨c, hc, by rw [hdigit]; exact Bool.false_ne_true⟩

/-- A text with a character that is no digit among the first four is neither. -/
theorem Moment.ofStripped?_of_mem_take {d : Date} {c : Char} (hc : c ∈ s.take 4)
    (hdigit : Text.isDigitLike c = false) (h : Pattern.known.findSome? (·.read? s) = some d) :
    ofStripped? s = some (.ofDate d) := by
  have hascii : c.isDigit = false := Bool.eq_false_iff.2 fun h => by
    rw [Text.isDigitLike, Text.isDecimal_of_isDigit h] at hdigit
    cases hdigit
  exact ofStripped?_of_findSome? (isBareNumber_of_mem (List.mem_of_mem_take hc) hdigit)
    (Timestamp.ofIso?_of_readDigits (Iso.readDigits_of_mem_take hc hascii)) h

/-- No ISO text has a character behind its year that is neither a hyphen nor a digit, nor the marker of
a week. -/
theorem Timestamp.ofIso?_of_fifth {c : Char} (hs : s.length = 4) (hw : 'W' ∉ s ++ c :: t)
    (hdash : c ≠ '-') (hdigit : c.isDigit = false) : ofIso? (s ++ c :: t) = none := by
  refine Option.eq_none_iff_forall_ne_some.2 fun stamp hread => ?_
  obtain ⟨ds, dashed, rest, hchars⟩ := exists_chars hw hread
  have hlength : s.length = ds.year.chars.length := hs.trans ds.year.length_chars.symm
  cases dashed with
  | true =>
    rw [DayDigits.chars, if_pos rfl, List.append_assoc] at hchars
    have hrest := (List.append_inj hchars hlength).2
    exact hdash (List.cons.inj hrest).1
  | false =>
    rw [DayDigits.chars, if_neg Bool.false_ne_true, List.append_assoc] at hchars
    have hrest := (List.append_inj hchars hlength).2
    obtain ⟨a, b, hab, -, -⟩ := ds.month.exists_chars
    rw [hab] at hrest
    have ha : a.isDigit = true := ds.month.isDigit a (hab ▸ List.mem_cons_self)
    rw [(List.cons.inj hrest).1, ha] at hdigit
    cases hdigit

/-- An ISO text without the marker of a week has eight characters or more. -/
theorem Timestamp.ofIso?_of_length_lt (hw : 'W' ∉ s) (h : s.length < 8) : ofIso? s = none := by
  refine Option.eq_none_iff_forall_ne_some.2 fun stamp hread => ?_
  obtain ⟨ds, dashed, rest, rfl⟩ := exists_chars hw hread
  have hy := ds.year.length_chars
  have hm := ds.month.length_chars
  have hd := ds.day.length_chars
  cases dashed <;> simp [DayDigits.chars, hy, hm, hd] at h <;> omega

/-- Behind fewer than four characters the next one is among the first four. -/
theorem mem_take_of_short {c : Char} (h : s.length < 4) : c ∈ (s ++ c :: t).take 4 := by
  obtain ⟨k, hk⟩ := Nat.exists_eq_add_of_lt h
  rw [List.take_append, show 4 - s.length = k + 1 by omega]
  exact List.mem_append_right _ List.mem_cons_self

/-! ## Parts of spelled days -/

theorem forall_head?_append {p : Char → Bool} (hne : s ≠ []) (h : ∀ c ∈ s, p c = false)
    (t : List Char) : ∀ c ∈ (s ++ t).head?, p c = false := by
  obtain ⟨c, rest, rfl⟩ := List.exists_cons_of_ne_nil hne
  intro x hx
  cases hx
  exact h c List.mem_cons_self

theorem forall_head?_cons {p : Char → Bool} {c : Char} (h : p c = false) (t : List Char) :
    ∀ x ∈ (c :: t).head?, p x = false := by
  intro x hx
  cases hx
  exact h

/-- A run of digits. -/
structure IsRun (s : List Char) : Prop where
  ne_nil : s ≠ []
  isDigit : ∀ c ∈ s, c.isDigit = true

namespace IsRun

theorem not_blank (h : IsRun s) : ∀ c ∈ s, Text.isBlank c = false := fun _ hc =>
  isBlank_of_isDigit (h.isDigit _ hc)

theorem not_mem (h : IsRun s) {c : Char} (hc : c.isDigit = false) : c ∉ s := fun hmem => by
  rw [h.isDigit c hmem] at hc
  cases hc

end IsRun

theorem IsShort.isRun {n : Nat} (h : IsShort n s) (hn : n < 10 ^ (2 : Nat)) : IsRun s :=
  ⟨List.ne_nil_of_length_pos (h.length_le hn).1, h.isDigit⟩

theorem Date.isRun_year (d : Date) : IsRun (padded 4 d.year) :=
  ⟨List.ne_nil_of_length_pos (by rw [length_padded (by decide) d.year_lt]; decide),
    fun _ => isDigit_of_mem_padded⟩

theorem Date.head?_year (d : Date) : ∀ c ∈ (padded 4 d.year).head?, Text.isBlank c = false :=
  fun c hc => d.isRun_year.not_blank c (List.mem_of_mem_head? hc)

theorem IsMonthName.not_mem {month : Nat} (h : IsMonthName month s) {c : Char}
    (hc : Text.isCaseless c = true) : c ∉ s := fun hmem => by
  rw [h.cased c hmem] at hc
  cases hc

theorem IsMonthName.not_blank {month : Nat} (h : IsMonthName month s) :
    ∀ c ∈ s, Text.isBlank c = false := fun _ hc => Bool.eq_false_iff.2 fun hblank =>
  h.not_mem (Text.isCaseless_of_isBlank hblank) hc

theorem IsMonthName.not_decimal {month : Nat} (h : IsMonthName month s) :
    ∀ c ∈ s, Text.isDecimal c = false := fun _ hc => Bool.eq_false_iff.2 fun hdecimal =>
  h.not_mem (Text.isCaseless_of_isDecimal hdecimal) hc

theorem Text.IsGap.not_mem (h : IsGap s) {c : Char} (hc : isBlank c = false) : c ∉ s := fun hmem => by
  rw [h.2 c hmem] at hc
  cases hc

theorem Text.IsGap.not_decimal (h : IsGap s) : ∀ c ∈ s, isDecimal c = false := fun c hc =>
  isDecimal_of_isBlank (h.2 c hc)

/-! ## Days with numbers alone -/

namespace Date

variable {d : Date} {month day : List Char}

theorem ofStripped?_yearFirst (hm : IsShort d.month month) (hd : IsShort d.day day) :
    Moment.ofStripped? (padded 4 d.year ++ '/' :: (month ++ '/' :: day)) = some (.ofDate d) := by
  have hy := d.isRun_year
  have hmonth := hm.isRun d.month_lt
  have hday := hd.isRun d.day_lt
  have hslash : Text.isDecimal '/' = false := by decide
  have hread : Pattern.read? [.year, .sign '/', .month, .sign '/', .day]
      (padded 4 d.year ++ '/' :: (month ++ '/' :: day)) = some d := by
    refine Pattern.read?_of_readFrom ⟨d.year, d.month, d.day⟩ ?_ d.of?_eq_some
    refine Pattern.readFrom_of_first (Piece.first_year d.year_lt _ _) ?_
    refine Pattern.readFrom_of_first (Piece.first_sign '/' _ _) ?_
    refine Pattern.readFrom_of_first
      (Piece.first_month d.month_range hm (forall_head?_cons hslash _) _) ?_
    refine Pattern.readFrom_of_first (Piece.first_sign '/' _ _) ?_
    exact Pattern.readFrom_of_first (Piece.first_day_at_end d.day_range hd _) rfl
  have hmem : '/' ∈ padded 4 d.year ++ '/' :: (month ++ '/' :: day) :=
    List.mem_append_right _ List.mem_cons_self
  have hfront : ∀ p ∈ Pattern.known.take 2,
      p.read? (padded 4 d.year ++ '/' :: (month ++ '/' :: day)) = none := by
    refine List.forall_mem_cons.2 ⟨Pattern.read?_year_of_mem hmem hslash,
      List.forall_mem_singleton.2 (Pattern.read?_eq_none_of_sign (c := '-') (by decide) ?_)⟩
    simp [hy.not_mem, hmonth.not_mem, hday.not_mem]
  refine Moment.ofStripped?_of_findSome? (isBareNumber_of_mem hmem (by decide))
    (Timestamp.ofIso?_of_fifth (length_padded (by decide) d.year_lt) ?_ (by decide) (by decide))
    (Pattern.findSome?_of_read? (n := 2) rfl hfront hread)
  simp [hy.not_mem, hmonth.not_mem, hday.not_mem]

theorem ofStripped?_monthFirst (hm : IsShort d.month month) (hd : IsShort d.day day) :
    Moment.ofStripped? (month ++ '/' :: (day ++ '/' :: padded 4 d.year)) = some (.ofDate d) := by
  have hslash : Text.isDecimal '/' = false := by decide
  have hread : Pattern.read? [.month, .sign '/', .day, .sign '/', .year]
      (month ++ '/' :: (day ++ '/' :: padded 4 d.year)) = some d := by
    refine Pattern.read?_of_readFrom ⟨d.year, d.month, d.day⟩ ?_ d.of?_eq_some
    refine Pattern.readFrom_of_first
      (Piece.first_month d.month_range hm (forall_head?_cons hslash _) _) ?_
    refine Pattern.readFrom_of_first (Piece.first_sign '/' _ _) ?_
    refine Pattern.readFrom_of_first
      (Piece.first_day d.day_range hd (forall_head?_cons hslash _) _) ?_
    refine Pattern.readFrom_of_first (Piece.first_sign '/' _ _) ?_
    exact Pattern.readFrom_of_first (Piece.first_year_at_end d.year_lt _) rfl
  have hmem : '/' ∈ (month ++ '/' :: (day ++ '/' :: padded 4 d.year)).take 4 :=
    mem_take_of_short (Nat.lt_of_le_of_lt (hm.length_le d.month_lt).2 (by decide))
  have hfront : ∀ p ∈ Pattern.known.take 3,
      p.read? (month ++ '/' :: (day ++ '/' :: padded 4 d.year)) = none := by
    intro p hp
    obtain ⟨rest, rfl⟩ : ∃ rest, p = .year :: rest := by
      revert p
      simp [Pattern.known]
    exact Pattern.read?_year_cons hmem hslash
  exact Moment.ofStripped?_of_mem_take hmem (by decide)
    (Pattern.findSome?_of_read? (n := 3) rfl hfront hread)

theorem ofStripped?_dayFirst (hm : IsShort d.month month) (hd : IsShort d.day day) :
    Moment.ofStripped? (day ++ '.' :: (month ++ '.' :: padded 4 d.year)) = some (.ofDate d) := by
  have hpoint : Text.isDecimal '.' = false := by decide
  have hread : Pattern.read? [.day, .sign '.', .month, .sign '.', .year]
      (day ++ '.' :: (month ++ '.' :: padded 4 d.year)) = some d := by
    refine Pattern.read?_of_readFrom ⟨d.year, d.month, d.day⟩ ?_ d.of?_eq_some
    refine Pattern.readFrom_of_first
      (Piece.first_day d.day_range hd (forall_head?_cons hpoint _) _) ?_
    refine Pattern.readFrom_of_first (Piece.first_sign '.' _ _) ?_
    refine Pattern.readFrom_of_first
      (Piece.first_month d.month_range hm (forall_head?_cons hpoint _) _) ?_
    refine Pattern.readFrom_of_first (Piece.first_sign '.' _ _) ?_
    exact Pattern.readFrom_of_first (Piece.first_year_at_end d.year_lt _) rfl
  have hmem : '.' ∈ (day ++ '.' :: (month ++ '.' :: padded 4 d.year)).take 4 :=
    mem_take_of_short (Nat.lt_of_le_of_lt (hd.length_le d.day_lt).2 (by decide))
  have hfront : ∀ p ∈ Pattern.known.take 4,
      p.read? (day ++ '.' :: (month ++ '.' :: padded 4 d.year)) = none := by
    intro p hp
    have hkind : (∃ rest, p = .year :: rest) ∨ .sign '/' ∈ p := by
      revert p
      simp [Pattern.known]
    rcases hkind with ⟨rest, rfl⟩ | hslash
    · exact Pattern.read?_year_cons hmem hpoint
    · refine Pattern.read?_eq_none_of_sign hslash ?_
      simp [d.isRun_year.not_mem, (hm.isRun d.month_lt).not_mem, (hd.isRun d.day_lt).not_mem]
  exact Moment.ofStripped?_of_mem_take hmem (by decide)
    (Pattern.findSome?_of_read? (n := 4) rfl hfront hread)

/-! ## Months and years -/

theorem ofStripped?_isoChars (d : Date) : Moment.ofStripped? d.isoChars = some (.ofDate d) := by
  have hiso := Timestamp.ofIso?_isoChars d
  have hmem : '-' ∈ d.isoChars := by simp [isoChars]
  have hne : d.isoChars ≠ [] := List.ne_nil_of_mem hmem
  rw [Moment.ofStripped?, isBareNumber_of_mem hmem (by decide), decide_eq_false hne, hiso]
  rfl

theorem ofStripped?_month (hm : IsShort d.month month) :
    Moment.ofStripped? (padded 4 d.year ++ '-' :: month) = some (.ofDate d.firstOfMonth) := by
  have hdash : Text.isDecimal '-' = false := by decide
  have hread : Pattern.read? [.year, .sign '-', .month] (padded 4 d.year ++ '-' :: month) =
      some d.firstOfMonth := by
    refine Pattern.read?_of_readFrom ⟨d.year, d.month, 1⟩ ?_ d.firstOfMonth.of?_eq_some
    refine Pattern.readFrom_of_first (Piece.first_year d.year_lt _ _) ?_
    refine Pattern.readFrom_of_first (Piece.first_sign '-' _ _) ?_
    exact Pattern.readFrom_of_first (Piece.first_month_at_end d.month_range hm _) rfl
  have hmem : '-' ∈ padded 4 d.year ++ '-' :: month := List.mem_append_right _ List.mem_cons_self
  have hfront : ∀ p ∈ Pattern.known.take 1, p.read? (padded 4 d.year ++ '-' :: month) = none :=
    List.forall_mem_singleton.2 (Pattern.read?_year_of_mem hmem hdash)
  have hlength : (padded 4 d.year ++ '-' :: month).length < 8 := by
    have hshort := (hm.length_le d.month_lt).2
    rw [List.length_append, List.length_cons, length_padded (by decide) d.year_lt]
    omega
  refine Moment.ofStripped?_of_findSome? (isBareNumber_of_mem hmem (by decide))
    (Timestamp.ofIso?_of_length_lt ?_ hlength) (Pattern.findSome?_of_read? (n := 1) rfl hfront hread)
  simp [d.isRun_year.not_mem, (hm.isRun d.month_lt).not_mem]

theorem ofStripped?_year (d : Date) :
    Moment.ofStripped? (padded 4 d.year) = some (.ofDate d.firstOfYear) := by
  have hlength := length_padded (by decide) d.year_lt
  have hread : Pattern.read? [.year] (padded 4 d.year) = some d.firstOfYear :=
    Pattern.read?_of_readFrom ⟨d.year, 1, 1⟩
      (Pattern.readFrom_of_first (Piece.first_year_at_end d.year_lt _) rfl) d.firstOfYear.of?_eq_some
  have hbare : isBareNumber (padded 4 d.year) = false := by
    rw [isBareNumber, hlength]
    exact Bool.and_false _
  exact Moment.ofStripped?_of_findSome? hbare (Timestamp.ofIso?_of_short (by omega))
    (Pattern.findSome?_of_read? (n := 0) rfl (List.forall_mem_nil _) hread)

end Date

/-! ## Days with the names of months -/

/-- The first patterns start with a number. -/
theorem Pattern.known_numbers : ∀ p ∈ known.take 5,
    ∃ piece rest, p = piece :: rest ∧ (piece = .year ∨ piece = .month ∨ piece = .day) := by
  simp [known]

namespace IsMonthName

variable {month : Nat} {name : List Char}

theorem exists_cons (h : IsMonthName month name) :
    ∃ c rest, name = c :: rest ∧ Text.isCaseless c = false := by
  obtain ⟨c, rest, rfl⟩ := List.exists_cons_of_ne_nil h.ne_nil
  exact ⟨c, rest, rfl, h.cased c List.mem_cons_self⟩

/-- A text that starts with the name of a month is read by patterns alone. -/
theorem ofStripped?_eq {d : Date} (h : IsMonthName month name)
    (hread : Pattern.known.findSome? (·.read? (name ++ t)) = some d) :
    Moment.ofStripped? (name ++ t) = some (.ofDate d) := by
  obtain ⟨c, rest, rfl, hc⟩ := h.exists_cons
  have hdigit : Text.isDigitLike c = false := Bool.eq_false_iff.2 fun hdigit => by
    rw [Text.isCaseless_of_isDigitLike hdigit] at hc
    cases hc
  exact Moment.ofStripped?_of_mem_take List.mem_cons_self hdigit hread

/-- A text that starts with the name of a month starts with no number. -/
theorem read?_numbers (h : IsMonthName month name) (t : List Char) {piece : Piece}
    {pattern : Pattern} (hpiece : piece = .year ∨ piece = .month ∨ piece = .day) :
    Pattern.read? (piece :: pattern) (name ++ t) = none := by
  obtain ⟨c, rest, rfl, hc⟩ := h.exists_cons
  exact Pattern.read?_eq_none_of_cased hpiece hc

/-- A pattern with a name in front reads a text when it reads what follows the name. -/
theorem read?_cases {d : Date} {gap : List Char} (h : IsMonthName month name) (hgap : IsGap gap)
    (behind : Pattern)
    (hread : ∀ piece, (∀ parts, Piece.First piece parts (name ++ (gap ++ t)) { parts with month }
        (gap ++ t)) → Pattern.read? (piece :: behind) (name ++ (gap ++ t)) = some d) :
    Pattern.read? (.monthName :: behind) (name ++ (gap ++ t)) = some d ∨
      Pattern.read? (.monthName :: behind) (name ++ (gap ++ t)) = none ∧
        Pattern.read? (.monthAbbreviation :: behind) (name ++ (gap ++ t)) = some d := by
  rcases h.reads_cases hgap t with hfull | ⟨hnone, hshort⟩
  · exact .inl (hread _ hfull)
  · exact .inr ⟨Pattern.read?_eq_none_of_reads (hnone {}), hread _ hshort⟩

end IsMonthName

namespace Date

variable {d : Date} {name gap day gap' : List Char}

theorem ofStripped?_nameComma (hname : IsMonthName d.month name) (hgap : IsGap gap)
    (hd : IsShort d.day day) (hgap' : IsGap gap') :
    Moment.ofStripped? (name ++ (gap ++ (day ++ ',' :: (gap' ++ padded 4 d.year)))) =
      some (.ofDate d) := by
  have hday := hd.isRun d.day_lt
  have hread := hname.read?_cases (d := d) (t := day ++ ',' :: (gap' ++ padded 4 d.year)) hgap
    [.blanks, .day, .sign ',', .blanks, .year] fun piece hfirst => by
      refine Pattern.read?_of_readFrom ⟨d.year, d.month, d.day⟩ ?_ d.of?_eq_some
      refine Pattern.readFrom_of_first (hfirst _) ?_
      refine Pattern.readFrom_of_first
        (Piece.first_blanks hgap (forall_head?_append hday.ne_nil hday.not_blank _) _) ?_
      refine Pattern.readFrom_of_first
        (Piece.first_day d.day_range hd (forall_head?_cons (by decide) _) _) ?_
      refine Pattern.readFrom_of_first (Piece.first_sign ',' _ _) ?_
      exact Pattern.readFrom_of_first (Piece.first_blanks hgap' d.head?_year _)
        (Pattern.readFrom_of_first (Piece.first_year_at_end d.year_lt _) rfl)
  refine hname.ofStripped?_eq (Pattern.findSome?_of_pair (n := 5) rfl (fun p hp => ?_) hread)
  obtain ⟨piece, rest, rfl, hpiece⟩ := Pattern.known_numbers p hp
  exact hname.read?_numbers _ hpiece

theorem ofStripped?_nameDay (hname : IsMonthName d.month name) (hgap : IsGap gap)
    (hd : IsShort d.day day) (hgap' : IsGap gap') :
    Moment.ofStripped? (name ++ (gap ++ (day ++ (gap' ++ padded 4 d.year)))) =
      some (.ofDate d) := by
  have hday := hd.isRun d.day_lt
  have hread := hname.read?_cases (d := d) (t := day ++ (gap' ++ padded 4 d.year)) hgap
    [.blanks, .day, .blanks, .year] fun piece hfirst => by
      refine Pattern.read?_of_readFrom ⟨d.year, d.month, d.day⟩ ?_ d.of?_eq_some
      refine Pattern.readFrom_of_first (hfirst _) ?_
      refine Pattern.readFrom_of_first
        (Piece.first_blanks hgap (forall_head?_append hday.ne_nil hday.not_blank _) _) ?_
      refine Pattern.readFrom_of_first
        (Piece.first_day d.day_range hd (forall_head?_append hgap'.1 hgap'.not_decimal _) _) ?_
      exact Pattern.readFrom_of_first (Piece.first_blanks hgap' d.head?_year _)
        (Pattern.readFrom_of_first (Piece.first_year_at_end d.year_lt _) rfl)
  refine hname.ofStripped?_eq (Pattern.findSome?_of_pair (n := 7) rfl (fun p hp => ?_) hread)
  have hkind : p ∈ Pattern.known.take 5 ∨ .sign ',' ∈ p := by
    revert p
    simp [Pattern.known]
  rcases hkind with hnumber | hcomma
  · obtain ⟨piece, rest, rfl, hpiece⟩ := Pattern.known_numbers p hnumber
    exact hname.read?_numbers _ hpiece
  · have hcaseless : Text.isCaseless ',' = true := Text.isCaseless_of_toNat_le (by decide)
    have hblank : Text.isBlank ',' = false := by decide
    refine Pattern.read?_eq_none_of_sign hcomma ?_
    simp [hname.not_mem hcaseless, hgap.not_mem hblank, hgap'.not_mem hblank, hday.not_mem,
      d.isRun_year.not_mem]

theorem ofStripped?_nameYear (hname : IsMonthName d.month name) (hgap : IsGap gap) :
    Moment.ofStripped? (name ++ (gap ++ padded 4 d.year)) = some (.ofDate d.firstOfMonth) := by
  have hread := hname.read?_cases (d := d.firstOfMonth) (t := padded 4 d.year) hgap
    [.blanks, .year] fun piece hfirst => by
      refine Pattern.read?_of_readFrom ⟨d.year, d.month, 1⟩ ?_ d.firstOfMonth.of?_eq_some
      refine Pattern.readFrom_of_first (hfirst _) ?_
      exact Pattern.readFrom_of_first (Piece.first_blanks hgap d.head?_year _)
        (Pattern.readFrom_of_first (Piece.first_year_at_end d.year_lt _) rfl)
  refine hname.ofStripped?_eq (Pattern.findSome?_of_pair (n := 11) rfl (fun p hp => ?_) hread)
  have hkind : (∃ piece rest, p = piece :: rest ∧ (piece = .year ∨ piece = .month ∨ piece = .day)) ∨
      4 < p.weigh Piece.digits := by
    revert p
    simp [Pattern.known, Pattern.weigh, Piece.digits]
  rcases hkind with ⟨piece, rest, rfl, hpiece⟩ | hdigits
  · exact hname.read?_numbers _ hpiece
  · -- A day and a year have more digits than the text.
    have hnone : ∀ {u : List Char}, (∀ c ∈ u, Text.isDecimal c = false) →
        u.countP Text.isDecimal = 0 := fun h =>
      List.countP_eq_zero.2 fun c hc => Bool.eq_false_iff.1 (h c hc)
    have hcount : (name ++ (gap ++ padded 4 d.year)).countP Text.isDecimal ≤ 4 := by
      rw [List.countP_append, List.countP_append, hnone hname.not_decimal, hnone hgap.not_decimal,
        Nat.zero_add, Nat.zero_add]
      exact Nat.le_trans List.countP_le_length (Nat.le_of_eq (length_padded (by decide) d.year_lt))
    refine Option.eq_none_iff_forall_ne_some.2 fun _ hread => ?_
    have hsum := Pattern.digits_le hread
    omega

theorem ofStripped?_dayName (hd : IsShort d.day day) (hgap : IsGap gap)
    (hname : IsMonthName d.month name) (hgap' : IsGap gap') :
    Moment.ofStripped? (day ++ (gap ++ (name ++ (gap' ++ padded 4 d.year)))) =
      some (.ofDate d) := by
  have hday := hd.isRun d.day_lt
  have hread : ∀ piece, (∀ parts, Piece.First piece parts (name ++ (gap' ++ padded 4 d.year))
      { parts with month := d.month } (gap' ++ padded 4 d.year)) →
      Pattern.read? [.day, .blanks, piece, .blanks, .year]
        (day ++ (gap ++ (name ++ (gap' ++ padded 4 d.year)))) = some d := by
    intro piece hfirst
    refine Pattern.read?_of_readFrom ⟨d.year, d.month, d.day⟩ ?_ d.of?_eq_some
    refine Pattern.readFrom_of_first
      (Piece.first_day d.day_range hd (forall_head?_append hgap.1 hgap.not_decimal _) _) ?_
    refine Pattern.readFrom_of_first
      (Piece.first_blanks hgap (forall_head?_append hname.ne_nil hname.not_blank _) _) ?_
    refine Pattern.readFrom_of_first (hfirst _) ?_
    exact Pattern.readFrom_of_first (Piece.first_blanks hgap' d.head?_year _)
      (Pattern.readFrom_of_first (Piece.first_year_at_end d.year_lt _) rfl)
  have hpair : Pattern.read? [.day, .blanks, .monthName, .blanks, .year]
        (day ++ (gap ++ (name ++ (gap' ++ padded 4 d.year)))) = some d ∨
      Pattern.read? [.day, .blanks, .monthName, .blanks, .year]
          (day ++ (gap ++ (name ++ (gap' ++ padded 4 d.year)))) = none ∧
        Pattern.read? [.day, .blanks, .monthAbbreviation, .blanks, .year]
          (day ++ (gap ++ (name ++ (gap' ++ padded 4 d.year)))) = some d := by
    rcases hname.reads_cases hgap' (padded 4 d.year) with hfull | ⟨hnone, hshort⟩
    · exact .inl (hread _ hfull)
    · refine .inr ⟨?_, hread _ hshort⟩
      have hfront : ∀ c ∈ day ++ gap, Text.isCaseless c = true :=
        List.forall_mem_append.2 ⟨fun c hc => Text.isCaseless_of_isDigit (hday.isDigit c hc),
          fun c hc => Text.isCaseless_of_isBlank (hgap.2 c hc)⟩
      rw [← List.append_assoc]
      exact Pattern.read?_eq_none_of_word [.day, .blanks] (by decide) hfront
        (forall_head?_append hname.ne_nil hname.cased _) hnone
  obtain ⟨c, hc⟩ : ∃ c, c ∈ (day ++ (gap ++ (name ++ (gap' ++ padded 4 d.year)))).take 4 ∧
      Text.isBlank c = true := by
    obtain ⟨c, gap, rfl⟩ := List.exists_cons_of_ne_nil hgap.1
    exact ⟨c, mem_take_of_short (Nat.lt_of_le_of_lt (hd.length_le d.day_lt).2 (by decide)),
      hgap.2 c List.mem_cons_self⟩
  refine Moment.ofStripped?_of_mem_take hc.1 (Text.isDigitLike_of_isBlank hc.2)
    (Pattern.findSome?_of_pair (n := 9) rfl (fun p hp => ?_) hpair)
  have hkind : (∃ rest, p = .year :: rest) ∨ (.sign '/' ∈ p ∨ .sign '.' ∈ p) ∨
      ∃ piece rest, p = piece :: rest ∧ (piece = .monthName ∨ piece = .monthAbbreviation) := by
    revert p
    simp [Pattern.known]
  have hlacks : ∀ x, Text.isCaseless x = true → Text.isBlank x = false → x.isDigit = false →
      x ∉ day ++ (gap ++ (name ++ (gap' ++ padded 4 d.year))) := by
    intro x hcaseless hblank hdigit
    simp [hname.not_mem hcaseless, hgap.not_mem hblank, hgap'.not_mem hblank, hday.not_mem hdigit,
      d.isRun_year.not_mem hdigit]
  rcases hkind with ⟨rest, rfl⟩ | (hslash | hpoint) | ⟨piece, rest, rfl, hpiece⟩
  · exact Pattern.read?_year_cons hc.1 (Text.isDecimal_of_isBlank hc.2)
  · exact Pattern.read?_eq_none_of_sign hslash
      (hlacks '/' (Text.isCaseless_of_toNat_le (by decide)) (by decide) (by decide))
  · exact Pattern.read?_eq_none_of_sign hpoint
      (hlacks '.' (Text.isCaseless_of_toNat_le (by decide)) (by decide) (by decide))
  · obtain ⟨x, digits, rfl⟩ := List.exists_cons_of_ne_nil hday.ne_nil
    exact Pattern.read?_eq_none_of_caseless hpiece
      (Text.isCaseless_of_isDigit (hday.isDigit x List.mem_cons_self))

end Date

/-! ## Blanks around spelled days -/

/-- The text has no blanks, and is not empty. -/
def IsSolid (s : List Char) : Prop := s ≠ [] ∧ ∀ c ∈ s, Text.isBlank c = false

theorem IsRun.isSolid (h : IsRun s) : IsSolid s := ⟨h.ne_nil, h.not_blank⟩

theorem IsMonthName.isSolid {month : Nat} (h : IsMonthName month s) : IsSolid s :=
  ⟨h.ne_nil, h.not_blank⟩

/-- A text that starts and ends with solid parts has no blanks at its ends. -/
theorem strip_of_parts {first last : List Char} (hfirst : IsSolid first) (hlast : IsSolid last)
    (hstarts : first <+: s) (hends : last <:+ s) : Text.strip s = s := by
  refine Text.strip_of_ends ?_ fun c hc => ?_
  · obtain ⟨t, rfl⟩ := hstarts
    exact forall_head?_append hfirst.1 hfirst.2 t
  · obtain ⟨t, rfl⟩ := hends
    rw [List.getLast?_append_of_ne_nil _ hlast.1] at hc
    exact hlast.2 c (List.mem_of_mem_getLast? hc)

namespace Date

theorem Spells.strip {d : Date} (h : d.Spells s) : Text.strip s = s := by
  cases h with
  | iso d => exact Text.strip_of_forall d.not_blank
  | @yearFirst d month day hm hd =>
    exact strip_of_parts d.isRun_year.isSolid (hd.isRun d.day_lt).isSolid (List.prefix_append _ _)
      ⟨padded 4 d.year ++ '/' :: (month ++ ['/']), by simp⟩
  | @monthFirst d month day hm hd =>
    exact strip_of_parts (hm.isRun d.month_lt).isSolid d.isRun_year.isSolid (List.prefix_append _ _)
      ⟨month ++ '/' :: (day ++ ['/']), by simp⟩
  | @dayFirst d month day hm hd =>
    exact strip_of_parts (hd.isRun d.day_lt).isSolid d.isRun_year.isSolid (List.prefix_append _ _)
      ⟨day ++ '.' :: (month ++ ['.']), by simp⟩
  | @nameComma d name gap day gap' hname hgap hd hgap' =>
    exact strip_of_parts hname.isSolid d.isRun_year.isSolid (List.prefix_append _ _)
      ⟨name ++ (gap ++ (day ++ ',' :: gap')), by simp⟩
  | @nameDay d name gap day gap' hname hgap hd hgap' =>
    exact strip_of_parts hname.isSolid d.isRun_year.isSolid (List.prefix_append _ _)
      ⟨name ++ (gap ++ (day ++ gap')), by simp⟩
  | @dayName d day gap name gap' hd hgap hname hgap' =>
    exact strip_of_parts (hd.isRun d.day_lt).isSolid d.isRun_year.isSolid (List.prefix_append _ _)
      ⟨day ++ (gap ++ (name ++ gap')), by simp⟩
  | @month d month hm =>
    exact strip_of_parts d.isRun_year.isSolid (hm.isRun d.month_lt).isSolid (List.prefix_append _ _)
      ⟨padded 4 d.year ++ ['-'], by simp⟩
  | @name d name gap hname hgap =>
    exact strip_of_parts hname.isSolid d.isRun_year.isSolid (List.prefix_append _ _)
      ⟨name ++ gap, by simp⟩
  | year d => exact Text.strip_of_forall d.isRun_year.not_blank

/-- A spelled day is read as its midnight. -/
theorem Spells.ofStripped? {d : Date} (h : d.Spells s) :
    Moment.ofStripped? s = some (.ofDate d) := by
  cases h with
  | iso d => exact ofStripped?_isoChars d
  | yearFirst d hm hd => exact ofStripped?_yearFirst hm hd
  | monthFirst d hm hd => exact ofStripped?_monthFirst hm hd
  | dayFirst d hm hd => exact ofStripped?_dayFirst hm hd
  | nameComma d hname hgap hd hgap' => exact ofStripped?_nameComma hname hgap hd hgap'
  | nameDay d hname hgap hd hgap' => exact ofStripped?_nameDay hname hgap hd hgap'
  | dayName d hd hgap hname hgap' => exact ofStripped?_dayName hd hgap hname hgap'
  | month d hm => exact ofStripped?_month hm
  | name d hname hgap => exact ofStripped?_nameYear hname hgap
  | year d => exact ofStripped?_year d

end Date

namespace Moment

variable {before after : List Char}

/-- Blanks around a text do not count. -/
theorem ofText?_of_blanks (hbefore : ∀ c ∈ before, Text.isBlank c = true)
    (hafter : ∀ c ∈ after, Text.isBlank c = true) (s : List Char) :
    ofText? (String.ofList (before ++ s ++ after)) = ofText? (String.ofList s) := by
  rw [ofText?, ofText?, String.toList_ofList, String.toList_ofList, Text.strip_append hbefore hafter]

/-- A spelled day is read as its midnight, with blanks around it or without, and blanks around a text
never count. -/
theorem ofText?_spells (hbefore : ∀ c ∈ before, Text.isBlank c = true)
    (hafter : ∀ c ∈ after, Text.isBlank c = true) :
    (∀ (d : Date) (s : List Char), d.Spells s →
        ofText? (String.ofList (before ++ s ++ after)) = some (.ofDate d)) ∧
      ∀ s : List Char,
        ofText? (String.ofList (before ++ s ++ after)) = ofText? (String.ofList s) := by
  refine ⟨fun d s h => ?_, ofText?_of_blanks hbefore hafter⟩
  rw [ofText?_of_blanks hbefore hafter, ofText?, String.toList_ofList, h.strip]
  exact h.ofStripped?

/-- Leap day, spelled by the first letters of its month, between blanks. -/
theorem leapDay_spelled :
    ofText? " fEB\t29,\u00A0 2024\n" = some (.ofDate ⟨2024, 2, 29, by decide⟩) := by
  have hname : IsMonthName 2 ['f', 'E', 'B'] :=
    ⟨"february".toList, by decide, .inr (by decide)⟩
  have hspells : Date.Spells ⟨2024, 2, 29, by decide⟩ (['f', 'E', 'B'] ++ (['\t'] ++
      (['2', '9'] ++ ',' :: (['\u00A0', ' '] ++ padded 4 2024)))) :=
    .nameComma _ hname ⟨nofun, List.all_eq_true.1 (by decide)⟩ (.inl (by decide))
      ⟨nofun, List.all_eq_true.1 (by decide)⟩
  have htext : " fEB\t29,\u00A0 2024\n" = String.ofList ([' '] ++ (['f', 'E', 'B'] ++ (['\t'] ++
      (['2', '9'] ++ ',' :: (['\u00A0', ' '] ++ padded 4 2024)))) ++ ['\n']) := by decide
  rw [htext]
  exact (ofText?_spells (List.all_eq_true.1 (by decide)) (List.all_eq_true.1 (by decide))).1 _ _
    hspells

end Moment

end ShelfRules
