import ShelfRules.Calendar.Iso
import ShelfRules.Proofs.MarkedTexts
import ShelfRules.Proofs.WrittenDays

/-!
# ISO texts in lower case

Texts that resemble each other are read alike: the digits of a number, and a time of day with its
offset. A text without the marker of a week starts with the digits of a day when it is an ISO text,
and these stand in front of all texts that it resembles.

Results:
* `Iso.readTime_eq`: a time of day is read alike.
* `Timestamp.exists_chars`: an ISO text without the marker of a week starts with a day in digits.
* `Timestamp.ofIso?_of_resembles`: what an ISO text without the marker of a week stands for, the
  texts that resemble it stand for.
-/

namespace ShelfRules

open Text (Resembles IsPlain)

variable {s l : List Char}

/-- The same has been read, and what is left is taken alike. -/
def SameReading {α : Type} (x y : α × List Char) : Prop := x.1 = y.1 ∧ Resembles x.2 y.2

theorem Text.isPlain_isDigit : IsPlain Char.isDigit := fun _ h => .inr (isCaseless_of_isDigit h)

namespace Iso

/-! ## Digits -/

theorem readDigitsFrom_resembles (h : Resembles s l) (start count : Nat) :
    Option.Rel SameReading (readDigitsFrom start count s) (readDigitsFrom start count l) := by
  induction count generalizing start s l with
  | zero => exact .some ⟨rfl, h⟩
  | succ count ih =>
    rcases h.cases_head Text.isPlain_isDigit with ⟨rfl, rfl⟩ | ⟨c, s', l', rfl, rfl, hc, hrest⟩ |
      ⟨c, s', d, l', rfl, rfl, hc, hd⟩
    · exact .none
    · rw [readDigitsFrom, readDigitsFrom, if_pos hc, if_pos hc]
      exact ih hrest _
    · rw [readDigitsFrom, readDigitsFrom, hc, hd]
      exact .none

theorem readDigits_resembles (h : Resembles s l) (count : Nat) :
    Option.Rel SameReading (readDigits count s) (readDigits count l) :=
  readDigitsFrom_resembles h 0 count

theorem readDigits_cons_of_not {c : Char} (hc : c.isDigit = false) (count : Nat) (s : List Char) :
    readDigits (count + 1) (c :: s) = none := by
  rw [readDigits, readDigitsFrom, hc]
  rfl

/-- What is read on from the same reading alike, is read alike. -/
theorem bind_eq {α β : Type} {x y : Option (α × List Char)} (h : Option.Rel SameReading x y)
    {f : α × List Char → Option β} (hf : ∀ a {s l}, Resembles s l → f (a, s) = f (a, l)) :
    x.bind f = y.bind f := by
  cases h with
  | none => rfl
  | @some x y h =>
    obtain ⟨a, s⟩ := x
    obtain ⟨b, l⟩ := y
    obtain ⟨rfl, h⟩ := h
    exact hf a h

/-! ## Times -/

theorem isLeftover_eq (h : Resembles s l) : isLeftover s = isLeftover l := by
  have hnul : IsPlain (· == '\x00') := fun c hc => .inr (by
    rw [eq_of_beq hc]
    decide +kernel)
  rcases h.cases_head hnul with ⟨rfl, rfl⟩ | ⟨c, s', l', rfl, rfl, -, -⟩ |
    ⟨c, s', d, l', rfl, rfl, hc, hd⟩
  · rfl
  · rfl
  · rw [isLeftover, isLeftover, bne, bne, hc, hd]

/-- The digits of a fraction are as many in both texts, or a character that is no digit is met among
them. -/
theorem fraction_length (h : Resembles s l) (count : Nat) :
    min s.length count = min l.length count ∨
      ∀ start, readDigitsFrom start (min s.length count) s = none ∧
        readDigitsFrom start (min l.length count) l = none := by
  induction h generalizing count with
  | nil => exact .inl rfl
  | @cons c d s' l' hcd _ ih =>
    obtain ⟨hdigit, -⟩ := hcd.plain Text.isPlain_isDigit
    cases count with
    | zero => simp
    | succ count =>
      simp only [List.length_cons, Nat.add_min_add_right, Nat.add_right_cancel_iff]
      refine (ih count).imp_right fun hnone start => ?_
      simp only [readDigitsFrom, ← hdigit]
      split
      · exact ⟨(hnone _).1, (hnone _).2⟩
      · exact ⟨rfl, rfl⟩
  | dotted _ _ =>
    -- The second text is longer by one here, but neither goes on with a digit.
    obtain ⟨hi, hi', -⟩ := Text.isPlain_isDigit.dotted
    cases count with
    | zero => simp
    | succ count =>
      refine .inr fun start => ?_
      simp [Nat.add_min_add_right, readDigitsFrom, hi, hi']

theorem readFraction_eq (h : Resembles s l) (hour minute second : Nat) :
    readFraction hour minute second s = readFraction hour minute second l := by
  rw [readFraction, readFraction]
  rcases fraction_length h 6 with hcount | hnone
  · rw [hcount]
    refine bind_eq (readDigits_resembles h _) fun value _ _ hrest => ?_
    simp only [isLeftover_eq (hrest.dropWhile Text.isPlain_isDigit)]
  · simp only [readDigits, (hnone 0).1, (hnone 0).2]
    rfl

theorem readFraction_cons_of_not {c : Char} (hc : c.isDigit = false) (hour minute second : Nat)
    (s : List Char) : readFraction hour minute second (c :: s) = none := by
  have hcount : min (c :: s).length 6 = min s.length 5 + 1 := by
    rw [List.length_cons, Nat.add_min_add_right s.length 5 1]
  rw [readFraction, hcount, readDigits_cons_of_not hc]
  rfl

/-- One character left behind a part of a time counts alike, and what is read on is read alike, when
it is read on from characters without case alone. -/
theorem readBehind_eq (h : Resembles s l) (clock : Bool → Clock)
    {more : Char → List Char → Option Clock}
    (hmore : ∀ c {s l}, Resembles s l → Resembles (c :: s) (c :: l) → more c s = more c l)
    (hnone : ∀ c s, Text.isCaseless c = false → more c s = none) :
    readBehind clock more s = readBehind clock more l := by
  have hbehind : ∀ c {s}, s ≠ [] → readBehind clock more (c :: s) = more c s := by
    intro c s hs
    obtain ⟨d, t, rfl⟩ := List.exists_cons_of_ne_nil hs
    rfl
  obtain ⟨hdotted, hi, -⟩ := IsPlain.dotted (q := Text.isCaseless) fun _ hc => .inr hc
  cases h with
  | nil => rfl
  | @cons c d s' l' hcd hrest =>
    obtain ⟨hcase, heq⟩ := hcd.plain (q := Text.isCaseless) fun _ hc => .inr hc
    -- A last character counts by being of ASCII and no NUL, and similar ones agree in both.
    by_cases hs : s' = []
    · have hl := hrest.nil_iff.1 hs
      subst hs hl
      show (if c.toNat < 128 then some (clock (isLeftover [c])) else none) =
        if d.toNat < 128 then some (clock (isLeftover [d])) else none
      rw [isLeftover_eq (.cons hcd .nil)]
      simp only [hcd.ascii]
    · rw [hbehind c hs, hbehind d (mt hrest.nil_iff.2 hs)]
      cases hc : Text.isCaseless c with
      | true =>
        have hd := heq hc
        subst hd
        exact hmore c hrest (.cons hcd hrest)
      | false => rw [hnone c s' hc, hnone d l' (hcase ▸ hc)]
  | @dotted s' l' _ =>
    rw [hbehind 'i' (List.cons_ne_nil _ _), hnone 'i' _ hi]
    cases s' with
    | nil => rfl
    | cons d t => rw [hbehind _ (List.cons_ne_nil _ _), hnone _ _ hdotted]

/-- A character that is neither sign nor digit starts no part of a time. -/
theorem starts_no_part {c : Char} (h : Text.isCaseless c = false) :
    (c == ':') = false ∧ isPoint c = false ∧ c.isDigit = false := by
  have hne : ∀ d, Text.isCaseless d = true → (c == d) = false := fun d hd =>
    beq_false_of_ne fun hcd => by simp [hcd, hd] at h
  refine ⟨hne ':' (by decide +kernel), ?_, ?_⟩
  · rw [isPoint, hne '.' (by decide +kernel), hne ',' (by decide +kernel)]
    rfl
  · exact Bool.eq_false_iff.2 fun hc => by simp [Text.isCaseless_of_isDigit hc] at h

theorem readSeconds_eq (h : Resembles s l) (hour minute : Nat) (colons : Bool) :
    readSeconds hour minute colons s = readSeconds hour minute colons l := by
  refine bind_eq (readDigits_resembles h 2) fun second _ _ hrest => ?_
  refine readBehind_eq hrest _ (fun c s l hmore hagain => ?_) fun c s hc => ?_
  · rw [readFraction_eq hmore, readFraction_eq hagain]
  · obtain ⟨hcolon, hpoint, hdigit⟩ := starts_no_part hc
    simp [hcolon, hpoint, readFraction_cons_of_not hdigit]

theorem readSeconds_cons_of_not {c : Char} (hc : c.isDigit = false) (hour minute : Nat)
    (colons : Bool) (s : List Char) : readSeconds hour minute colons (c :: s) = none := by
  rw [readSeconds, readDigits_cons_of_not hc]
  rfl

theorem readMinutes_eq (h : Resembles s l) (hour : Nat) (colons : Bool) :
    readMinutes hour colons s = readMinutes hour colons l := by
  refine bind_eq (readDigits_resembles h 2) fun minute _ _ hrest => ?_
  refine readBehind_eq hrest _ (fun c s l hmore hagain => ?_) fun c s hc => ?_
  · rw [readFraction_eq hmore, readSeconds_eq hmore, readSeconds_eq hagain]
  · obtain ⟨hcolon, hpoint, hdigit⟩ := starts_no_part hc
    simp [hcolon, hpoint, readSeconds_cons_of_not hdigit]

theorem readMinutes_cons_of_not {c : Char} (hc : c.isDigit = false) (hour : Nat) (colons : Bool)
    (s : List Char) : readMinutes hour colons (c :: s) = none := by
  rw [readMinutes, readDigits_cons_of_not hc]
  rfl

theorem readClock_eq (h : Resembles s l) : readClock s = readClock l := by
  refine bind_eq (readDigits_resembles h 2) fun hour _ _ hrest => ?_
  refine readBehind_eq hrest _ (fun c s l hmore hagain => ?_) fun c s hc => ?_
  · rw [readFraction_eq hmore, readMinutes_eq hmore, readMinutes_eq hagain]
  · obtain ⟨hcolon, hpoint, hdigit⟩ := starts_no_part hc
    simp [hcolon, hpoint, readMinutes_cons_of_not hdigit]

theorem isPlain_startsOffset : IsPlain startsOffset := fun c hc => by
  simp only [startsOffset, Bool.or_eq_true, beq_iff_eq] at hc
  rcases hc with (rfl | rfl) | rfl
  · exact .inr (by decide +kernel)
  · exact .inr (by decide +kernel)
  · exact .inl rfl

theorem readOffset_eq (h : Resembles s l) (negative : Bool) :
    readOffset negative s = readOffset negative l := by
  rw [readOffset, readOffset, readClock_eq h]

/-- A time of day is read alike. -/
theorem readTime_eq (h : Resembles s l) : readTime s = readTime l := by
  obtain ⟨hclock, hoffset⟩ := h.span_not isPlain_startsOffset
  have hfirst := List.head?_dropWhile_not (!startsOffset ·) s
  rw [readTime, readTime, readClock_eq hclock]
  generalize s.dropWhile (!startsOffset ·) = s' at hoffset hfirst ⊢
  generalize l.dropWhile (!startsOffset ·) = l' at hoffset ⊢
  rcases hoffset.cases_head isPlain_startsOffset with ⟨rfl, rfl⟩ | ⟨c, s', l', rfl, rfl, -, hrest⟩ |
    ⟨c, s', d, l', rfl, -, hc, -⟩
  · rfl
  · -- The offset has a sign: texts that resemble each other have no `Z`.
    have hz : c ≠ 'Z' := by
      cases hoffset with
      | cons hcc _ => exact hcc.notMark.1
    simp only [readOffset_eq hrest]
  · simp [hc] at hfirst

/-- No time of day starts with a character that is no digit. -/
theorem readTime_cons_of_not {c : Char} (hc : c.isDigit = false) (s : List Char) :
    readTime (c :: s) = none := by
  have hclock : readClock ((c :: s).takeWhile (!startsOffset ·)) = none := by
    rw [List.takeWhile_cons]
    split
    · rw [readClock, readDigits_cons_of_not hc]
      rfl
    · rfl
  rw [readTime, hclock]
  rfl

end Iso

/-! ## Days in front -/

namespace Iso

theorem readDigits_eq_some {count n : Nat} (h : readDigits count s = some (n, l)) :
    ∃ ds : Digits count, s = ds.chars ++ l := by
  unfold readDigits at h
  generalize 0 = start at h
  induction count generalizing start s with
  | zero =>
    cases h
    exact ⟨⟨[], rfl, nofun⟩, rfl⟩
  | succ count ih =>
    cases s with
    | nil => cases h
    | cons c s =>
      rw [readDigitsFrom] at h
      split at h
      · rename_i hc
        obtain ⟨ds, rfl⟩ := ih _ h
        refine ⟨⟨c :: ds.chars, ?_, List.forall_mem_cons.2 ⟨hc, ds.isDigit⟩⟩, rfl⟩
        rw [List.length_cons, ds.length_chars]
      · cases h

theorem skip_eq_some {c : Char} (h : skip c s = some l) : s = c :: l := by
  cases s with
  | nil => cases h
  | cons d s =>
    rw [skip, Option.ite_none_right_eq_some, Option.some.injEq] at h
    rw [h.1, h.2]

theorem readMonthDay_eq_some {length year : Nat} {dashed : Bool} {d : Date}
    (h : readMonthDay length year dashed s = some d) : ∃ (month day : Digits 2) (rest : List Char),
      s = month.chars ++ ((if dashed then '-' :: day.chars else day.chars) ++ rest) := by
  rw [readMonthDay, Option.bind_eq_bind, Option.bind_eq_some_iff] at h
  obtain ⟨⟨m, t⟩, hmonth, h⟩ := h
  obtain ⟨month, rfl⟩ := readDigits_eq_some hmonth
  cases dashed with
  | true =>
    obtain ⟨u, hskip, h⟩ := Option.bind_eq_some_iff.1 h
    obtain ⟨⟨n, rest⟩, hday, -⟩ := Option.bind_eq_some_iff.1 h
    obtain ⟨day, rfl⟩ := readDigits_eq_some hday
    exact ⟨month, day, rest, by rw [skip_eq_some hskip]; rfl⟩
  | false =>
    obtain ⟨⟨n, rest⟩, hday, -⟩ := Option.bind_eq_some_iff.1 h
    obtain ⟨day, hd⟩ := readDigits_eq_some hday
    exact ⟨month, day, rest, by rw [hd]; rfl⟩

end Iso

/-- A text without the marker of a week that is an ISO text starts with a day in digits. -/
theorem Timestamp.exists_chars {t : Timestamp} (hw : 'W' ∉ s) (h : ofIso? s = some t) :
    ∃ (ds : DayDigits) (dashed : Bool) (rest : List Char), s = ds.chars dashed ++ rest := by
  obtain ⟨n, -, hday⟩ := Option.bind_eq_some_iff.1 h
  obtain ⟨d, hdate, -⟩ := Option.bind_eq_some_iff.1 hday
  obtain ⟨⟨y, u⟩, hyear, hbehind⟩ := Option.bind_eq_some_iff.1 hdate
  obtain ⟨year, rfl⟩ := Iso.readDigits_eq_some hyear
  rw [List.mem_append, not_or] at hw
  dsimp only at hbehind
  split at hbehind
  · simp at hw
  · simp at hw
  · obtain ⟨month, day, rest, rfl⟩ := Iso.readMonthDay_eq_some hbehind
    exact ⟨⟨year, month, day⟩, true, rest, by simp [DayDigits.chars]⟩
  · obtain ⟨month, day, rest, rfl⟩ := Iso.readMonthDay_eq_some hbehind
    exact ⟨⟨year, month, day⟩, false, rest, by simp [DayDigits.chars]⟩

theorem DayDigits.isCaseless_chars (ds : DayDigits) (dashed : Bool) :
    ∀ c ∈ ds.chars dashed, Text.isCaseless c = true := by
  have hdigits : ∀ {count : Nat} (part : Digits count),
      ∀ c ∈ part.chars, Text.isCaseless c = true := fun part c hc =>
    Text.isCaseless_of_isDigit (part.isDigit c hc)
  have hdash : Text.isCaseless '-' = true := Text.isCaseless_of_toNat_le (by decide)
  cases dashed with
  | true =>
    exact List.forall_mem_append.2 ⟨hdigits _, List.forall_mem_cons.2 ⟨hdash,
      List.forall_mem_append.2 ⟨hdigits _, List.forall_mem_cons.2 ⟨hdash, hdigits _⟩⟩⟩⟩
  | false =>
    exact List.forall_mem_append.2 ⟨hdigits _, List.forall_mem_append.2 ⟨hdigits _, hdigits _⟩⟩

/-- Characters without case in front of a text stand in front of the texts that resemble it. -/
theorem Text.Resembles.exists_append {p : List Char} (hp : ∀ c ∈ p, Text.isCaseless c = true)
    (h : Resembles s (p ++ l)) : ∃ t, s = p ++ t ∧ Resembles t l := by
  induction p generalizing s with
  | nil => exact ⟨s, rfl, h⟩
  | cons c p ih =>
    obtain ⟨hc, hp⟩ := List.forall_mem_cons.1 hp
    generalize hcp : c :: p ++ l = m at h
    cases h with
    | nil => cases hcp
    | @cons d _ s _ hdc hrest =>
      obtain ⟨rfl, rfl⟩ := List.cons.inj hcp
      obtain ⟨t, rfl, ht⟩ := ih hp hrest
      exact ⟨t, by rw [hdc.eq_of_isCaseless (.inr hc), List.cons_append], ht⟩
    | dotted _ =>
      obtain ⟨rfl, -⟩ := List.cons.inj hcp
      exact absurd hc (by decide +kernel)

/-- What an ISO text without the marker of a week stands for, the texts that resemble it stand
for. -/
theorem Timestamp.ofIso?_of_resembles {t : Timestamp} (h : Resembles s l) (hw : 'W' ∉ l)
    (hread : ofIso? l = some t) : ofIso? s = some t := by
  obtain ⟨ds, dashed, l, rfl⟩ := exists_chars hw hread
  obtain ⟨s, rfl, hrest⟩ := h.exists_append (ds.isCaseless_chars dashed)
  rw [ofIso?_chars, Option.bind_eq_some_iff] at hread
  obtain ⟨d, hdate, hread⟩ := hread
  rw [ofIso?_chars, hdate, Option.bind_some]
  cases hrest with
  | nil => exact hread
  | cons _ hrest => rwa [onDay, Iso.readTime_eq hrest]
  | dotted _ =>
    have hmark : '\u0307'.isDigit = false := by decide
    rw [onDay, Iso.readTime_cons_of_not hmark] at hread
    cases hread

end ShelfRules
