import ShelfRules.Proofs.OrderedValues
import ShelfRules.Proofs.PatternReading
import ShelfRules.Proofs.LoweredTimes

/-!
# Numbers and dates

A number should be no date unless it is a year of four digits. All but one kind of numerals are none: a
numeral is a date when the digits of a day stand in front of it, then any one character, and then a time
of day. A numeral that is no date stays a text, and is compared as the number that it writes.

Results:
* `Moment.ofText?_numeral`: when a numeral is a date.
* `Numeral.not_isTimed`: a numeral with a sign, or with fewer than eight digits in front, is none.
* `Numeral.compared_as_number`: a numeral that is no date is compared as its number.
* `Numeral.pointedDay_dated`: a numeral that is a date.
-/

namespace ShelfRules

/-- A pattern of known dates is a year, starts with a year and a hyphen, or has a slash, two points or
blanks. -/
theorem Pattern.known_signs : ∀ pattern ∈ known, pattern = [.year] ∨
    (∃ rest, pattern = .year :: .sign '-' :: rest) ∨ .sign '/' ∈ pattern ∨
      2 ≤ pattern.weigh (Piece.signs '.') ∨ .blanks ∈ pattern := by
  simp [known, weigh, Piece.signs]

/-- The eight digits of a day without hyphens. -/
def DayDigits.joined (ds : DayDigits) : Digits 8 where
  chars := ds.chars false
  length_chars := by
    rw [chars, if_neg Bool.false_ne_true, List.length_append, List.length_append,
      ds.year.length_chars, ds.month.length_chars, ds.day.length_chars]
  isDigit := List.forall_mem_append.2
    ⟨ds.year.isDigit, List.forall_mem_append.2 ⟨ds.month.isDigit, ds.day.isDigit⟩⟩

namespace Digits

variable {count : Nat}

theorem isDecimal (ds : Digits count) : ∀ c ∈ ds.chars, Text.isDecimal c = true := fun c hc =>
  Text.isDecimal_of_isDigit (ds.isDigit c hc)

theorem exists_cons (ds : Digits (count + 1)) : ∃ c s, ds.chars = c :: s :=
  List.exists_cons_of_length_eq_add_one ds.length_chars

end Digits

namespace Numeral

/-! ## Numerals that are dates -/

/-- The numeral is a year of four digits. -/
def IsYear (n : Numeral) : Prop :=
  n.chars.length = 4 ∧ ∀ c ∈ n.chars, Text.isDecimal c = true

/-- The numeral stands for a moment: the digits of a day stand in front, then any one character, and
then a time of day, and not all of it is digits. -/
def IsTimed (n : Numeral) (m : Moment) : Prop :=
  (∃ c ∈ n.chars, Text.isDecimal c = false) ∧
    ∃ (ds : DayDigits) (day : Date) (c : Char) (rest : List Char) (time : TimeOfDay)
      (offset : Option Offset),
      n.chars = ds.chars false ++ c :: rest ∧ ds.date? = some day ∧
        Iso.readTime rest = some (time, offset) ∧ Timestamp.toUtc? ⟨⟨day, time⟩, offset⟩ = some m

variable {n : Numeral} {m : Moment}

/-- No hyphen stands behind digits in front. -/
theorem no_dash {ds rest : List Char} (hlength : ds.length = 4)
    (hds : ∀ c ∈ ds, Text.isDecimal c = true) : n.chars ≠ ds ++ '-' :: rest := by
  intro h
  obtain ⟨c, ds', rfl⟩ := List.exists_cons_of_length_eq_add_one hlength
  obtain ⟨-, -, hdrop⟩ := span_chars h (hds c List.mem_cons_self)
  have hdash : ∀ x ∈ ('-' :: rest).head?, Text.isDecimal x = false := by
    intro x hx
    cases hx
    decide
  rw [h, (Text.span_append hds hdash).2] at hdrop
  have hhead := n.head?_behind '-'
  rw [← hdrop] at hhead
  rcases hhead rfl with h | h | h <;> cases h

/-- No pattern of known dates reads a numeral that is no year. -/
theorem read?_chars (h : ¬n.IsYear) : ∀ pattern ∈ Pattern.known, pattern.read? n.chars = none := by
  intro pattern hpattern
  have hpiece : ∀ {piece : Piece}, piece ∈ pattern → (∀ c ∈ n.chars, piece.starts c = false) →
      pattern.read? n.chars = none := Pattern.read?_eq_none_of_piece
  refine Option.eq_none_iff_forall_ne_some.2 fun d hread => ?_
  rcases Pattern.known_signs pattern hpattern with rfl | ⟨rest, rfl⟩ | hslash | hpoints | hblanks
  · exact h (Pattern.read?_year_eq_some hread)
  · obtain ⟨ds, rest, heq, hlength, hds⟩ := Pattern.read?_year_sign hread
    exact no_dash hlength hds heq
  · rw [hpiece hslash fun c hc => beq_false_of_ne ?_] at hread
    · cases hread
    · rintro rfl
      exact n.not_mem_chars (by decide) (by decide) hc
  · have hsum := Pattern.signs_le '.' hread
    have hcount : n.chars.countP (· == '.') ≤ 1 := n.count_point_le
    omega
  · rw [hpiece hblanks n.not_blank] at hread
    cases hread

/-- An ISO text among the numerals has the digits of a day in front, without hyphens. -/
theorem exists_day {t : Timestamp} (h : Timestamp.ofIso? n.chars = some t) :
    ∃ (ds : DayDigits) (rest : List Char), n.chars = ds.chars false ++ rest := by
  obtain ⟨ds, dashed, rest, hchars⟩ :=
    Timestamp.exists_chars (n.not_mem_chars (by decide) (by decide)) h
  cases dashed with
  | false => exact ⟨ds, rest, hchars⟩
  | true =>
    rw [DayDigits.chars, if_pos rfl, List.append_assoc, List.cons_append] at hchars
    exact absurd hchars (no_dash ds.year.length_chars ds.year.isDecimal)

/-- A numeral is a bare number when all of it is digits, and it is no year. -/
theorem isBareNumber_chars (h : ¬n.IsYear) :
    isBareNumber n.chars = true ↔ ∀ c ∈ n.chars, Text.isDecimal c = true := by
  have hlike : n.chars.all Text.isDigitLike = true ↔ ∀ c ∈ n.chars, Text.isDecimal c = true := by
    rw [List.all_eq_true]
    have hsigns : ['+', '-', '.', 'e', 'E'].any Text.isDigitLike = false := by decide
    refine forall₂_congr fun c hc => ⟨fun hdigit => ?_, fun hdigit => ?_⟩
    · rcases mem_chars hc with hdecimal | hmem
      · exact hdecimal
      · exact absurd hdigit (List.any_eq_false.1 hsigns c hmem)
    · rw [Text.isDigitLike, hdigit]
      rfl
  rw [isBareNumber, Bool.and_eq_true, hlike]
  refine and_iff_left_of_imp fun hall => ?_
  exact bne_iff_ne.2 fun hlength => h ⟨hlength, hall⟩

theorem chars_ne_nil (n : Numeral) : n.chars ≠ [] := by
  intro h
  have hunsigned := n.ofText?_chars
  rw [h] at hunsigned
  cases hunsigned

end Numeral

/-- When a numeral with blanks around it that is no year is a date. -/
theorem Moment.ofText?_numeral {n : Numeral} {s : String} {m : Moment}
    (h : Text.strip s.toList = n.chars) (hyear : ¬n.IsYear) :
    ofText? s = some m ↔ n.IsTimed m := by
  have hpatterns : Pattern.known.findSome? (·.read? n.chars) = none :=
    List.findSome?_eq_none_iff.2 (n.read?_chars hyear)
  rw [ofText?, h, ofStripped?, hpatterns, Option.map_none, Option.or_none]
  have hguard : (decide (n.chars = []) || isBareNumber n.chars) = true ↔
      ¬∃ c ∈ n.chars, Text.isDecimal c = false := by
    rw [decide_eq_false n.chars_ne_nil, Bool.false_or, n.isBareNumber_chars hyear]
    simp
  by_cases hdigits : ∃ c ∈ n.chars, Text.isDecimal c = false
  · rw [if_neg (not_imp_not.2 hguard.1 (not_not.2 hdigits)), Option.bind_eq_some_iff]
    constructor
    · rintro ⟨t, hiso, hutc⟩
      obtain ⟨ds, rest, hchars⟩ := Numeral.exists_day hiso
      rw [hchars, Timestamp.ofIso?_chars, Option.bind_eq_some_iff] at hiso
      obtain ⟨day, hdate, hbehind⟩ := hiso
      cases rest with
      | nil =>
        -- Eight digits alone are a bare number.
        obtain ⟨c, hc, hdecimal⟩ := hdigits
        rw [hchars, List.append_nil] at hc
        rw [ds.joined.isDecimal c hc] at hdecimal
        cases hdecimal
      | cons c rest =>
        obtain ⟨⟨time, offset⟩, htime, rfl⟩ := Option.map_eq_some_iff.1 hbehind
        exact ⟨hdigits, ds, day, c, rest, time, offset, hchars, hdate, htime, hutc⟩
    · rintro ⟨-, ds, day, c, rest, time, offset, hchars, hdate, htime, hutc⟩
      refine ⟨⟨⟨day, time⟩, offset⟩, ?_, hutc⟩
      rw [hchars, Timestamp.ofIso?_chars, hdate, Option.bind_some, Timestamp.onDay, htime]
      rfl
  · rw [if_pos (hguard.2 hdigits)]
    refine iff_of_false (fun h => ?_) fun htimed => hdigits htimed.1
    cases h

namespace Numeral

variable {n : Numeral} {m : Moment}

/-- A numeral with a sign, or with fewer than eight digits in front, is no date. -/
theorem not_isTimed (h : n.sign ≠ .none ∨ n.whole.length < 8) : ¬n.IsTimed m := by
  rintro ⟨-, ds, _, c, rest, _, _, hchars, -⟩
  replace hchars : n.chars = ds.joined.chars ++ c :: rest := hchars
  obtain ⟨d, digits, hdigits⟩ := ds.joined.exists_cons
  have hfront : n.chars = d :: (digits ++ c :: rest) := by
    rw [hchars, hdigits, List.cons_append]
  have hd : Text.isDecimal d = true := ds.joined.isDecimal d (hdigits ▸ List.mem_cons_self)
  obtain ⟨hsign, hwhole, -⟩ := span_chars hfront hd
  have height : 8 ≤ n.whole.length := by
    rw [← hwhole, hchars, List.takeWhile_append_of_pos ds.joined.isDecimal, List.length_append]
    exact Nat.le_trans (Nat.le_of_eq ds.joined.length_chars.symm) (Nat.le_add_right _ _)
  rcases h with h | h
  · exact h hsign
  · omega

end Numeral

/-! ## Values of one number -/

namespace Value

variable {v v' w w' start start' finish finish' : Value}

/-- Two values are one, or they stand for one number and neither is null or a timestamp. -/
def SameOrder (v w : Value) : Prop :=
  v = w ∨ v.number? = w.number? ∧ (v ≠ .null ∧ w ≠ .null) ∧ v.isStamp = false ∧ w.isStamp = false

namespace SameOrder

theorem number? (h : SameOrder v w) : v.number? = w.number? := by
  rcases h with rfl | h
  · rfl
  · exact h.1

theorem null_iff (h : SameOrder v w) : v = .null ↔ w = .null := by
  rcases h with rfl | h
  · rfl
  · exact iff_of_false h.2.1.1 h.2.1.2

theorem eq_of_isStamp (h : SameOrder v w) (hstamp : v.isStamp = true ∨ w.isStamp = true) :
    v = w := by
  rcases h with rfl | ⟨-, -, hv, hw⟩
  · rfl
  · rcases hstamp with hstamp | hstamp
    · rw [hv] at hstamp
      cases hstamp
    · rw [hw] at hstamp
      cases hstamp

end SameOrder

/-- Values that stand for one number stand in one order to others. -/
theorem compare?_congr (hv : v.SameOrder v') (hw : w.SameOrder w') :
    v.compare? w = v'.compare? w' := by
  by_cases hstamps : v.isStamp = true ∧ w.isStamp = true
  · rw [hv.eq_of_isStamp (.inl hstamps.1), hw.eq_of_isStamp (.inl hstamps.2)]
  · have hstamps' : ¬(v'.isStamp = true ∧ w'.isStamp = true) := fun h => by
      rw [← hv.eq_of_isStamp (.inr h.1), ← hw.eq_of_isStamp (.inr h.2)] at h
      exact hstamps h
    rw [← Bool.and_eq_true, Bool.not_eq_true] at hstamps hstamps'
    rw [compare?_of_numbers hstamps, compare?_of_numbers hstamps', compareNumbers?, compareNumbers?,
      hv.number?, hw.number?]

theorem isBetween?_congr (hv : v.SameOrder v') (hs : start.SameOrder start')
    (hf : finish.SameOrder finish') :
    v.isBetween? start finish = v'.isBetween? start' finish' := by
  by_cases hstamps : v.isStamp = true ∧ start.isStamp = true ∧ finish.isStamp = true
  · rw [hv.eq_of_isStamp (.inl hstamps.1), hs.eq_of_isStamp (.inl hstamps.2.1),
      hf.eq_of_isStamp (.inl hstamps.2.2)]
  by_cases hnull : v = .null ∨ start = .null ∨ finish = .null
  · have hnull' : v' = .null ∨ start' = .null ∨ finish' = .null := by
      rwa [← hv.null_iff, ← hs.null_iff, ← hf.null_iff]
    rw [isBetween?_of_null hnull, isBetween?_of_null hnull']
  · have hnull' : ¬(v' = .null ∨ start' = .null ∨ finish' = .null) := by
      rwa [← hv.null_iff, ← hs.null_iff, ← hf.null_iff]
    rw [not_or, not_or] at hnull hnull'
    have hnumbers : ∀ a b c, ¬(v = .stamp a ∧ start = .stamp b ∧ finish = .stamp c) := by
      rintro a b c ⟨rfl, rfl, rfl⟩
      exact hstamps ⟨rfl, rfl, rfl⟩
    have hnumbers' : ∀ a b c, ¬(v' = .stamp a ∧ start' = .stamp b ∧ finish' = .stamp c) := by
      rintro a b c ⟨rfl, rfl, rfl⟩
      rw [hv.eq_of_isStamp (.inr rfl), hs.eq_of_isStamp (.inr rfl), hf.eq_of_isStamp (.inr rfl)]
        at hstamps
      exact hstamps ⟨rfl, rfl, rfl⟩
    rw [isBetween?_of_numbers hnull.1 hnull.2.1 hnull.2.2 hnumbers,
      isBetween?_of_numbers hnull'.1 hnull'.2.1 hnull'.2.2 hnumbers', hv.number?, hs.number?,
      hf.number?]

/-- The values are one, or both have a normal shape and these stand for one number. -/
def SameNormal (v w : Value) : Prop :=
  v = w ∨ ∃ v' w', v.normalize? = .ok v' ∧ w.normalize? = .ok w' ∧ v'.SameOrder w'

theorem SameNormal.bind_eq {α : Type} {f g : Value → Except Fault α} (h : v.SameNormal w)
    (hfg : ∀ a b, a.SameOrder b → f a = g b) : v.normalize?.bind f = w.normalize?.bind g := by
  rcases h with rfl | ⟨v', w', hv, hw, hvw⟩
  · exact congrArg _ (funext fun a => hfg a a (.inl rfl))
  · rw [hv, hw]
    exact hfg v' w' hvw

end Value

namespace Operator

variable {operator : Operator} {v v' value value' start start' finish finish' : Value}

theorem mem_orders_or_eq :
    ∀ operator ∈ OperatorFamily.comparison.operators, operator ∈ orders ∨ operator = .inBetween := by
  decide

/-- Comparisons answer alike for values and bounds of one number. -/
theorem answer?_congr (h : operator ∈ OperatorFamily.comparison.operators) (hv : v.SameOrder v')
    (hvalue : value.SameNormal value') (hs : start.SameNormal start')
    (hf : finish.SameNormal finish') :
    operator.answer? v value start finish = operator.answer? v' value' start' finish' := by
  rcases mem_orders_or_eq operator h with horders | rfl
  · rw [answer?_of_mem_orders horders, answer?_of_mem_orders horders]
    refine hvalue.bind_eq fun a a' ha => ?_
    rw [Value.compare?_congr hv ha]
  · rw [answer?_inBetween, answer?_inBetween]
    exact hs.bind_eq fun a a' ha => hf.bind_eq fun b b' hb => Value.isBetween?_congr hv ha hb

end Operator

/-- A numeral that is no date is compared as the number that it writes: it is kept as a text, and
comparisons answer for it as for the number, on either side and as a bound. -/
theorem Numeral.compared_as_number {n : Numeral} {s : String} (h : Text.strip s.toList = n.chars)
    (hyear : ¬n.IsYear) :
    (∀ m, Moment.ofText? s = some m ↔ n.IsTimed m) ∧
      ((∀ m, ¬n.IsTimed m) →
        Moment.ofText? s = none ∧
        Value.normalize? (.text s) = .ok (.text (Text.lowered s)) ∧
        ∀ operator ∈ OperatorFamily.comparison.operators, ∀ v value start finish : Value,
          operator.answer? (.text (Text.lowered s)) value start finish =
              operator.answer? (.float n.value) value start finish ∧
            operator.answer? v (.text s) start finish =
              operator.answer? v (.float n.value) start finish ∧
            operator.answer? v value (.text s) finish =
              operator.answer? v value (.float n.value) finish ∧
            operator.answer? v value start (.text s) =
              operator.answer? v value start (.float n.value)) := by
  refine ⟨fun m => Moment.ofText?_numeral h hyear, fun huntimed => ?_⟩
  have hnone : Moment.ofText? s = none := Option.eq_none_iff_forall_ne_some.2 fun m hm =>
    huntimed m ((Moment.ofText?_numeral h hyear).1 hm)
  have hnormal : Value.normalize? (.text s) = .ok (.text (Text.lowered s)) :=
    Value.normalize?_of_not_date hnone
  have hsame : (Value.text (Text.lowered s)).SameOrder (.float n.value) :=
    .inr ⟨congrArg Except.ok (n.ofText_lowered h), ⟨nofun, nofun⟩, rfl, rfl⟩
  have hnumber : (Value.text s).SameNormal (.float n.value) := .inr ⟨_, _, hnormal, rfl, hsame⟩
  exact ⟨hnone, hnormal, fun operator hoperator v value start finish =>
    ⟨Operator.answer?_congr hoperator hsame (.inl rfl) (.inl rfl) (.inl rfl),
      Operator.answer?_congr hoperator (.inl rfl) hnumber (.inl rfl) (.inl rfl),
      Operator.answer?_congr hoperator (.inl rfl) (.inl rfl) hnumber (.inl rfl),
      Operator.answer?_congr hoperator (.inl rfl) (.inl rfl) (.inl rfl) hnumber⟩⟩

/-- Eight and a half. -/
def Numeral.rating : Numeral := ⟨.none, ['8'], some ['5'], none, by decide, List.all_eq_true.1 (by decide)⟩

/-- A rating is a number and no date, also with a blank in front. -/
theorem Numeral.rating_compared : Moment.ofText? " 8.5" = none ∧
    Operator.greaterThan.answer? (.int 9) (.text " 8.5") .null .null = .ok true := by
  have hstrip : Text.strip " 8.5".toList = rating.chars := by decide +kernel
  have hyear : ¬rating.IsYear := fun h => absurd h.1 (by decide)
  obtain ⟨hnone, -, hcompared⟩ := (compared_as_number hstrip hyear).2 fun _ =>
    not_isTimed (.inr (by decide))
  refine ⟨hnone, ?_⟩
  rw [(hcompared .greaterThan (by decide) (.int 9) .null .null .null).2.1]
  decide +kernel

/-- A day in digits, a point, and an hour. -/
def Numeral.pointedDay : Numeral :=
  ⟨.none, "20200501".toList, some "10".toList, none, by decide, List.all_eq_true.1 (by decide)⟩

/-- A day in digits with a point and an hour behind it is a numeral, but no year, and is a date. -/
theorem Numeral.pointedDay_dated : Text.strip "20200501.10".toList = pointedDay.chars ∧
    ¬pointedDay.IsYear ∧
    Moment.ofText? "20200501.10" =
      some ⟨⟨2020, 5, 1, by decide⟩, ⟨10, 0, 0, 0, by decide⟩⟩ := by
  refine ⟨by decide +kernel, fun h => absurd h.1 (by decide), by decide +kernel⟩

end ShelfRules
