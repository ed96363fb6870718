import ShelfRules.Calendar.Pattern
import ShelfRules.Calendar.Written
import Mathlib.Data.List.Basic
import Mathlib.Data.List.TakeWhile

/-!
# Written days are read back

A day is stored with the digits of its year, and two digits each for its month and its day. A year
of four digits makes this an ISO text; a year with fewer digits does not.

Results:
* `Iso.readDigits_append`: digits in front are read as their number.
* `Text.strip_append`, `Text.exists_strip`: blanks around a text do not count.
* `Timestamp.ofIso?_chars`: a day in digits is read in front of whatever stands behind it.
* `Moment.ofText?_shortChars`: a day of the years 1000 to 9999 is read back from its text.
-/

namespace ShelfRules

/-! ## Digits -/

theorem isDigit_of_mem_padded {width n : Nat} {c : Char} (h : c ∈ padded width n) :
    c.isDigit = true := by
  rcases List.mem_append.1 h with h | h
  · rw [List.eq_of_mem_replicate h]
    rfl
  · exact Nat.isDigit_of_mem_toDigits (by decide) (by decide) h

theorem ofDigitChars_padded (width n : Nat) : Nat.ofDigitChars 10 (padded width n) 0 = n := by
  rw [padded, Nat.ofDigitChars_append, Nat.ofDigitChars_replicate_zero, Nat.mul_zero,
    Nat.ofDigitChars_ten_toDigits]

theorem isBlank_of_isDigit {c : Char} (hc : c.isDigit = true) : Text.isBlank c = false := by
  have hc : 48 ≤ c.toNat ∧ c.toNat ≤ 57 := Char.isDigit_iff_toNat.1 hc
  simp [Text.isBlank, Text.blanks, Text.CodeRanges.has]
  omega

/-- Digits in front are read as their number. -/
theorem Iso.readDigits_append {ds s : List Char} (hds : ∀ c ∈ ds, c.isDigit = true) :
    readDigits ds.length (ds ++ s) = some (Nat.ofDigitChars 10 ds 0, s) := by
  unfold readDigits
  generalize 0 = start
  induction ds generalizing start with
  | nil => rfl
  | cons c ds ih =>
    obtain ⟨hc, hds⟩ := List.forall_mem_cons.1 hds
    rw [List.length_cons, List.cons_append, readDigitsFrom, if_pos hc, ih hds,
      Nat.ofDigitChars_cons]
    rfl

/-- A number of digits. -/
structure Digits (count : Nat) where
  chars : List Char
  length_chars : chars.length = count
  isDigit : ∀ c ∈ chars, c.isDigit = true

namespace Digits

/-- The number that the digits write. -/
def value {count : Nat} (ds : Digits count) : Nat := Nat.ofDigitChars 10 ds.chars 0

/-- The digits of a number with zeros in front. -/
def ofNat (width n : Nat) (hw : 0 < width) (h : n < 10 ^ width) : Digits width :=
  ⟨padded width n, length_padded hw h, fun _ => isDigit_of_mem_padded⟩

theorem value_ofNat {width n : Nat} (hw : 0 < width) (h : n < 10 ^ width) :
    (ofNat width n hw h).value = n := ofDigitChars_padded width n

theorem readDigits {count : Nat} (ds : Digits count) (s : List Char) :
    Iso.readDigits count (ds.chars ++ s) = some (ds.value, s) := by
  have hread := Iso.readDigits_append (s := s) ds.isDigit
  rwa [ds.length_chars] at hread

/-- Digits start with neither the marker of a week nor a hyphen. -/
theorem exists_chars (ds : Digits 2) : ∃ a b, ds.chars = [a, b] ∧ a ≠ 'W' ∧ a ≠ '-' := by
  obtain ⟨a, b, hab⟩ := List.length_eq_two.1 ds.length_chars
  have ha : a.isDigit = true := ds.isDigit a (hab ▸ List.mem_cons_self)
  refine ⟨a, b, hab, ?_, ?_⟩ <;> rintro rfl <;> cases ha

end Digits

/-! ## Blanks -/

theorem Text.strip_of_ends {s : List Char} (hhead : ∀ c ∈ s.head?, isBlank c = false)
    (hlast : ∀ c ∈ s.getLast?, isBlank c = false) : strip s = s := by
  have hstart : ∀ {t : List Char}, (∀ c ∈ t.head?, isBlank c = false) → stripStart t = t := by
    intro t ht
    cases t with
    | nil => rfl
    | cons c t => rw [stripStart, List.dropWhile_cons_of_neg (by simp [ht c rfl])]
  rw [strip, hstart hhead, hstart (by rwa [List.head?_reverse]), List.reverse_reverse]

/-- A text without blanks is not stripped of anything. -/
theorem Text.strip_of_forall {s : List Char} (h : ∀ c ∈ s, isBlank c = false) : strip s = s :=
  strip_of_ends (fun c hc => h c (List.mem_of_mem_head? hc)) fun c hc =>
    h c (List.mem_of_mem_getLast? hc)

theorem Text.head?_stripStart {s : List Char} :
    ∀ c ∈ (stripStart s).head?, isBlank c = false := by
  intro c hc
  have h := List.head?_dropWhile_not isBlank s
  rw [stripStart] at hc
  rw [hc] at h
  simpa using h

/-- A stripped text has no blanks at its ends. -/
theorem Text.strip_strip (s : List Char) : strip (strip s) = strip s := by
  have hprefix : strip s <+: stripStart s := by
    have hsuffix : stripStart (stripStart s).reverse <:+ (stripStart s).reverse :=
      List.dropWhile_suffix isBlank
    simpa [strip] using List.reverse_prefix.2 hsuffix
  refine strip_of_ends (fun c hc => ?_) fun c hc => ?_
  · obtain ⟨t, ht⟩ := hprefix
    refine head?_stripStart c (s := s) ?_
    rw [← ht, List.head?_append, hc]
    rfl
  · rw [strip, List.getLast?_reverse] at hc
    exact head?_stripStart c hc

theorem Text.stripStart_of_blank {s : List Char} (h : ∀ c ∈ s, isBlank c = true) (t : List Char) :
    stripStart (s ++ t) = stripStart t := List.dropWhile_append_of_pos h

/-- Blanks around a text do not count. -/
theorem Text.strip_append {before after : List Char} (hbefore : ∀ c ∈ before, isBlank c = true)
    (hafter : ∀ c ∈ after, isBlank c = true) (s : List Char) :
    strip (before ++ s ++ after) = strip s := by
  rw [List.append_assoc, strip, stripStart_of_blank hbefore, strip]
  cases hs : stripStart s with
  | nil =>
    have hblank : ∀ c ∈ s, isBlank c = true := List.dropWhile_eq_nil_iff.1 hs
    have hnone : stripStart after = [] := List.dropWhile_eq_nil_iff.2 hafter
    rw [stripStart_of_blank hblank, hnone]
  | cons c t =>
    have hstart : stripStart (s ++ after) = c :: t ++ after := by
      rw [stripStart] at hs ⊢
      rw [List.dropWhile_append, hs]
      rfl
    rw [hstart, List.reverse_append,
      stripStart_of_blank fun d hd => hafter d (List.mem_reverse.1 hd)]

/-- A text is what it is without blanks at its ends, and blanks around that. -/
theorem Text.exists_strip (s : List Char) : ∃ before after, s = before ++ strip s ++ after ∧
    (∀ c ∈ before, isBlank c = true) ∧ ∀ c ∈ after, isBlank c = true := by
  have hsplit : ∀ t : List Char, t = t.takeWhile isBlank ++ stripStart t ∧
      ∀ c ∈ t.takeWhile isBlank, isBlank c = true := fun t =>
    ⟨List.takeWhile_append_dropWhile.symm, fun c hc => List.mem_takeWhile_imp hc⟩
  obtain ⟨hs, hbefore⟩ := hsplit s
  obtain ⟨ht, hafter⟩ := hsplit (stripStart s).reverse
  refine ⟨_, ((stripStart s).reverse.takeWhile isBlank).reverse, ?_, hbefore, fun c hc =>
    hafter c (List.mem_reverse.1 hc)⟩
  have hrest : stripStart s = strip s ++ ((stripStart s).reverse.takeWhile isBlank).reverse := by
    rw [strip, ← List.reverse_append, ← ht, List.reverse_reverse]
  rw [List.append_assoc, ← hrest]
  exact hs

/-! ## Days in digits -/

/-- The digits of a day. -/
structure DayDigits where
  year : Digits 4
  month : Digits 2
  day : Digits 2

namespace DayDigits

/-- The characters of a day: its digits, with hyphens between its parts or without. -/
def chars (ds : DayDigits) (dashed : Bool) : List Char :=
  if dashed then ds.year.chars ++ '-' :: (ds.month.chars ++ '-' :: ds.day.chars)
  else ds.year.chars ++ (ds.month.chars ++ ds.day.chars)

/-- The day that the digits name, if there is one. -/
def date? (ds : DayDigits) : Option Date := Date.of? ds.year.value ds.month.value ds.day.value

end DayDigits

/-- The timestamp of a day with what stands behind it: nothing, or a character and a time. -/
def Timestamp.onDay (day : Date) : List Char → Option Timestamp
  | [] => some (.naive (.ofDate day))
  | _ :: s => (Iso.readTime s).map fun (time, offset) => ⟨⟨day, time⟩, offset⟩

/-- A day in digits is read in front of whatever stands behind it. -/
theorem Timestamp.ofIso?_chars (ds : DayDigits) (dashed : Bool) (s : List Char) :
    ofIso? (ds.chars dashed ++ s) = ds.date?.bind (onDay · s) := by
  obtain ⟨m₁, m₂, hm, hweek, hhyphen⟩ := ds.month.exists_chars
  have hmonth := ds.month.readDigits
  rw [hm] at hmonth
  simp only [List.cons_append, List.nil_append] at hmonth
  have hlength : Iso.dateLength? (ds.chars dashed ++ s) = some (if dashed then 10 else 8) := by
    cases dashed <;>
      simp [Iso.dateLength?, DayDigits.chars, ds.year.length_chars, ds.day.length_chars, hm, hweek,
        hhyphen] <;> omega
  have hdate : Iso.readDate (if dashed then 10 else 8) (ds.chars dashed ++ s) = ds.date? := by
    cases dashed <;>
      simp [Iso.readDate, DayDigits.chars, DayDigits.date?, ds.year.readDigits, hm, hweek, hhyphen,
        Iso.readMonthDay, hmonth, Iso.skip, ds.day.readDigits]
  have hrest : (ds.chars dashed ++ s).drop (if dashed then 10 else 8) = s := by
    refine List.drop_left' ?_
    cases dashed <;>
      simp [DayDigits.chars, ds.year.length_chars, ds.month.length_chars, ds.day.length_chars]
  rw [ofIso?, hlength, Option.bind_eq_bind, Option.bind_some, hdate, hrest]
  rfl

/-! ## Days -/

namespace Date

/-- A year of four digits is written like a padded one. -/
theorem shortChars_eq_isoChars {d : Date} (h : 1000 ≤ d.year) : d.shortChars = d.isoChars := by
  have hlong : ¬(Nat.toDigits 10 d.year).length ≤ 3 := by
    rw [Nat.length_toDigits_le_iff (by decide) (by decide)]
    omega
  have hyear : padded 4 d.year = Nat.toDigits 10 d.year := by
    rw [padded, Nat.sub_eq_zero_of_le (by omega), List.replicate_zero, List.nil_append]
  rw [shortChars, isoChars, hyear]

theorem month_lt (d : Date) : d.month < 10 ^ (2 : Nat) := by have := d.valid.2.2.2.1; omega

theorem day_lt (d : Date) : d.day < 10 ^ (2 : Nat) := by
  have hday := d.valid.2.2.2.2.2
  have hmonth : daysInMonth d.year d.month ≤ 31 := by
    unfold daysInMonth
    split
    · split <;> omega
    · split <;> omega
  omega

theorem year_lt (d : Date) : d.year < 10 ^ (4 : Nat) := by have := d.valid.2.1; omega

/-- The digits of a day with zeros in front. -/
def digits (d : Date) : DayDigits :=
  ⟨.ofNat 4 d.year (by decide) d.year_lt, .ofNat 2 d.month (by decide) d.month_lt,
    .ofNat 2 d.day (by decide) d.day_lt⟩

theorem isoChars_eq (d : Date) : d.isoChars = d.digits.chars true := by
  rw [isoChars, List.append_assoc, List.cons_append]
  rfl

theorem date?_digits (d : Date) : d.digits.date? = some d := by
  rw [DayDigits.date?, digits, Digits.value_ofNat, Digits.value_ofNat, Digits.value_ofNat,
    of?_eq_some]

end Date

/-- The characters of a written day: digits with a hyphen behind the fourth and the sixth. -/
theorem Date.isoChars_parts (d : Date) : ∃ y₁ y₂ y₃ y₄ m₁ m₂ d₁ d₂,
    d.isoChars = [y₁, y₂, y₃, y₄, '-', m₁, m₂, '-', d₁, d₂] ∧
      y₁.isDigit = true ∧ d₂.isDigit = true := by
  obtain ⟨m₁, m₂, hm⟩ := List.length_eq_two.1 (length_padded (by decide) d.month_lt)
  obtain ⟨d₁, d₂, hd⟩ := List.length_eq_two.1 (length_padded (by decide) d.day_lt)
  match hy : padded 4 d.year, length_padded (by decide) d.year_lt with
  | [y₁, y₂, y₃, y₄], _ =>
    refine ⟨y₁, y₂, y₃, y₄, m₁, m₂, d₁, d₂, by rw [isoChars, hy, hm, hd]; rfl, ?_, ?_⟩
    · exact isDigit_of_mem_padded (hy ▸ List.mem_cons_self)
    · exact isDigit_of_mem_padded (hd ▸ List.mem_cons_of_mem _ List.mem_cons_self)

/-- A day is read back from its text. -/
theorem Timestamp.ofIso?_isoChars (d : Date) :
    ofIso? d.isoChars = some (.naive (.ofDate d)) := by
  rw [Date.isoChars_eq, ← List.append_nil (d.digits.chars true), ofIso?_chars, Date.date?_digits]
  rfl

/-- A day of the years 1000 to 9999 is read back from its text. -/
theorem Moment.ofText?_shortChars {d : Date} (h : 1000 ≤ d.year) :
    ofText? (String.ofList d.shortChars) = some (.ofDate d) := by
  have hiso := Timestamp.ofIso?_isoChars d
  rw [ofText?, String.toList_ofList, Date.shortChars_eq_isoChars h]
  obtain ⟨y₁, y₂, y₃, y₄, m₁, m₂, d₁, d₂, hs, hy₁, hd₂⟩ := d.isoChars_parts
  rw [hs] at hiso ⊢
  rw [Text.strip_of_ends (by simp [isBlank_of_isDigit hy₁]) (by simp [isBlank_of_isDigit hd₂]),
    ofStripped?, hiso]
  have hhyphen : Text.isDigitLike '-' = false := by decide
  simp [isBareNumber, hhyphen, Timestamp.toUtc?_naive]

end ShelfRules
