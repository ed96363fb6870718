import ShelfRules.Calendar.Written
import ShelfRules.Proofs.NumericTexts
import ShelfRules.Proofs.PatternReading
import Mathlib.Tactic.IntervalCases

/-!
# Pieces as they are spelled

The first way in which a piece reads a text is the one that is meant: a year in four digits, a month
or a day with a zero in front or without one, a whole run of blanks, and the name of a month in full or
in three letters, in any case.

Results:
* `Piece.first_year`, `Piece.first_month`, `Piece.first_day`, `Piece.first_blanks`: numbers and blanks.
* `IsMonthName.reads_cases`: the name of a month is read in full, or else by its first letters.
* `Pattern.readFrom_of_first`: the first way of a piece counts when it goes on to the end.
* `Pattern.read?_eq_none_of_word`: behind days and blanks no other word is read as a name.
-/

namespace ShelfRules

variable {s t : List Char}

/-! ## Characters without case -/

namespace Text

/-- The capitals of ASCII and their small letters have case. -/
theorem caselessRanges_apart_ascii : ∀ range ∈ caselessRanges,
    (range.2 < 65 ∨ 90 < range.1) ∧ (range.2 < 97 ∨ 122 < range.1) := fun range hrange =>
  caselessRanges_apart range hrange ⟨0x41, 0x5A, 1, 0x61⟩ List.mem_cons_self

theorem toLower_of_isCaseless {c : Char} (h : isCaseless c = true) : c.toLower = c := by
  obtain ⟨range, hrange, hlow, hhigh⟩ := isCaseless_iff.1 h
  have hapart := (caselessRanges_apart_ascii range hrange).1
  refine dif_neg fun hupper => ?_
  have hcode : 65 ≤ c.toNat ∧ c.toNat ≤ 90 := hupper
  omega

theorem isDecimal_of_isBlank {c : Char} (h : isBlank c = true) : isDecimal c = false :=
  Bool.eq_false_iff.2 fun hdigit => by
    rw [isBlank_of_isDecimal hdigit] at h
    cases h

/-- No blank is a digit of another kind. -/
theorem otherDigits_apart_blanks :
    ∀ range ∈ otherDigits, ∀ other ∈ blanks, range.2 < other.1 ∨ other.2 < range.1 := by
  decide

theorem isDigitLike_of_isBlank {c : Char} (h : isBlank c = true) : isDigitLike c = false := by
  rw [isDigitLike, isDecimal_of_isBlank h, Bool.false_or]
  refine Bool.eq_false_iff.2 fun hother => ?_
  simp only [isBlank, CodeRanges.has, List.any_eq_true, Bool.and_eq_true, decide_eq_true_eq]
    at h hother
  obtain ⟨range, hrange, hc⟩ := hother
  obtain ⟨other, hother, hc'⟩ := h
  have hapart := otherDigits_apart_blanks range hrange other hother
  omega

/-- Decimal digits of ASCII are read as their number. -/
theorem digitsValue_eq {ds : List Char} (h : ∀ c ∈ ds, c.isDigit = true) :
    digitsValue ds = Nat.ofDigitChars 10 ds 0 := by
  have hfold : ∀ start, ds.foldl (fun n c => 10 * n + (digitValue? c).getD 0) start =
      Nat.ofDigitChars 10 ds start := by
    induction ds with
    | nil => exact fun _ => rfl
    | cons c ds ih =>
      obtain ⟨hc, hds⟩ := List.forall_mem_cons.1 h
      intro start
      rw [List.foldl_cons, Nat.ofDigitChars_cons, digitValue?_of_isDigit hc, ih hds]
      rfl
  exact hfold 0

end Text

/-! ## Numbers -/

/-- The text is a number with two digits, or with no zero in front. -/
def IsShort (n : Nat) (s : List Char) : Prop := s = padded 2 n ∨ s = Nat.toDigits 10 n

namespace IsShort

variable {n : Nat}

theorem isDigit (h : IsShort n s) : ∀ c ∈ s, c.isDigit = true := by
  rcases h with rfl | rfl
  · exact fun c => isDigit_of_mem_padded
  · exact fun c hc => Nat.isDigit_of_mem_toDigits (by decide) (by decide) hc

theorem length_le (h : IsShort n s) (hn : n < 10 ^ (2 : Nat)) : 0 < s.length ∧ s.length ≤ 2 := by
  rcases h with rfl | rfl
  · rw [length_padded (by decide) hn]
    decide
  · exact ⟨Nat.length_toDigits_pos, (Nat.length_toDigits_le_iff (by decide) (by decide)).2 hn⟩

end IsShort

namespace Piece

/-- The first way in which a piece reads a text. -/
def First (piece : Piece) (parts : DateParts) (s : List Char) (parts' : DateParts) (t : List Char) :
    Prop := (piece.reads parts s).head? = some (parts', t)

theorem First.at_end {piece : Piece} {parts parts' : DateParts}
    (h : First piece parts (s ++ []) parts' []) : First piece parts s parts' [] := by
  rwa [List.append_nil] at h

theorem readYear_padded {year : Nat} (h : year < 10 ^ (4 : Nat)) (t : List Char) :
    readYear (padded 4 year ++ t) = [(year, t)] := by
  have hdigits : ∀ c ∈ padded 4 year, c.isDigit = true := fun c => isDigit_of_mem_padded
  have hvalue := Text.digitsValue_eq hdigits
  rw [ofDigitChars_padded] at hvalue
  match hy : padded 4 year, length_padded (by decide) h with
  | [y₁, y₂, y₃, y₄], _ =>
    rw [hy] at hdigits hvalue
    have hall : [y₁, y₂, y₃, y₄].all Text.isDecimal = true :=
      List.all_eq_true.2 fun c hc => Text.isDecimal_of_isDigit (hdigits c hc)
    show (if [y₁, y₂, y₃, y₄].all Text.isDecimal then [(Text.digitsValue [y₁, y₂, y₃, y₄], t)]
      else []) = _
    rw [if_pos hall, hvalue]

theorem first_year {year : Nat} (h : year < 10 ^ (4 : Nat)) (parts : DateParts) (t : List Char) :
    First .year parts (padded 4 year ++ t) { parts with year } t := by
  rw [First, reads, readYear_padded h]
  rfl

/-- No digit is read from a text that starts with none. -/
theorem readUnit_of_not {digit? : Char → Option Nat} (base : Nat)
    (h : ∀ c ∈ t.head?, digit? c = none) : readUnit base digit? t = [] := by
  cases t with
  | nil => rfl
  | cons c t =>
    rw [readUnit, h c rfl]
    rfl

theorem digitIn?_of_not {c : Char} (h : Text.isDecimal c = false) (low high : Nat) :
    digitIn? low high c = none := by
  have hdigit : c.isDigit = false := Bool.eq_false_iff.2 fun hdigit => by
    rw [Text.isDecimal_of_isDigit hdigit] at h
    cases h
  rw [digitIn?, hdigit]
  rfl

theorem head?_readMonth {month : Nat} (hmonth : 1 ≤ month ∧ month ≤ 12) (hs : IsShort month s)
    (ht : ∀ c ∈ t.head?, Text.isDecimal c = false) :
    (readMonth (s ++ t)).head? = some (month, t) := by
  have hnone : readUnit 10 (digitIn? 0 2) t = [] :=
    readUnit_of_not 10 fun c hc => digitIn?_of_not (ht c hc) 0 2
  obtain ⟨hlow, hhigh⟩ := hmonth
  rcases hs with rfl | rfl
  · interval_cases month <;> rfl
  · by_cases hone : month = 1
    · -- A digit behind the one would be read with it.
      subst hone
      show (readUnit 10 (digitIn? 0 2) t ++ [] ++ [(1, t)]).head? = _
      rw [hnone]
      rfl
    · interval_cases month
      · exact absurd rfl hone
      all_goals rfl

theorem head?_readDay {day : Nat} (hday : 1 ≤ day ∧ day ≤ 31) (hs : IsShort day s)
    (ht : ∀ c ∈ t.head?, Text.isDecimal c = false) : (readDay (s ++ t)).head? = some (day, t) := by
  have hdecimal : ∀ base, readUnit base Text.digitValue? t = [] := fun base =>
    readUnit_of_not base fun c hc => Option.not_isSome_iff_eq_none.1 (Bool.eq_false_iff.1 (ht c hc))
  have hnone : readUnit 30 (digitIn? 0 1) t = [] :=
    readUnit_of_not 30 fun c hc => digitIn?_of_not (ht c hc) 0 1
  obtain ⟨hlow, hhigh⟩ := hday
  rcases hs with rfl | rfl
  · interval_cases day <;> rfl
  · by_cases hlead : day ≤ 3
    · -- A digit behind a one, a two or a three would be read with it.
      interval_cases day
      · show ([] ++ readUnit 10 Text.digitValue? t ++ [] ++ [] ++ [(1, t)] ++ []).head? = _
        rw [hdecimal]
        rfl
      · show ([] ++ [] ++ readUnit 20 Text.digitValue? t ++ [] ++ [(2, t)] ++ []).head? = _
        rw [hdecimal]
        rfl
      · show (readUnit 30 (digitIn? 0 1) t ++ [] ++ [] ++ [] ++ [(3, t)] ++ []).head? = _
        rw [hnone]
        rfl
    · have hfour : 4 ≤ day := by omega
      interval_cases day <;> rfl

/-- The first way to read a number of a text is the first one of the piece. -/
theorem first_of_head? {piece : Piece} {parts : DateParts} {numbers : List (Nat × List Char)}
    {n : Nat} {f : Nat → DateParts}
    (hreads : piece.reads parts s = numbers.map fun (n, s) => (f n, s))
    (h : numbers.head? = some (n, t)) : First piece parts s (f n) t := by
  rw [First, hreads, List.head?_map, h]
  rfl

theorem first_month {month : Nat} (hmonth : 1 ≤ month ∧ month ≤ 12) (hs : IsShort month s)
    (ht : ∀ c ∈ t.head?, Text.isDecimal c = false) (parts : DateParts) :
    First .month parts (s ++ t) { parts with month } t :=
  first_of_head? (f := fun n => { parts with month := n }) rfl (head?_readMonth hmonth hs ht)

theorem first_day {day : Nat} (hday : 1 ≤ day ∧ day ≤ 31) (hs : IsShort day s)
    (ht : ∀ c ∈ t.head?, Text.isDecimal c = false) (parts : DateParts) :
    First .day parts (s ++ t) { parts with day } t :=
  first_of_head? (f := fun n => { parts with day := n }) rfl (head?_readDay hday hs ht)

theorem first_month_at_end {month : Nat} (hmonth : 1 ≤ month ∧ month ≤ 12) (hs : IsShort month s)
    (parts : DateParts) : First .month parts s { parts with month } [] :=
  (first_month hmonth hs (by simp) parts).at_end

theorem first_day_at_end {day : Nat} (hday : 1 ≤ day ∧ day ≤ 31) (hs : IsShort day s)
    (parts : DateParts) : First .day parts s { parts with day } [] :=
  (first_day hday hs (by simp) parts).at_end

theorem first_year_at_end {year : Nat} (h : year < 10 ^ (4 : Nat)) (parts : DateParts) :
    First .year parts (padded 4 year) { parts with year } [] :=
  (first_year h parts []).at_end

theorem first_sign (c : Char) (parts : DateParts) (t : List Char) :
    First (.sign c) parts (c :: t) parts t := by
  rw [First, reads, if_pos rfl]
  rfl

end Piece

/-! ## Blanks -/

/-- The text is a run of one blank or more. -/
def Text.IsGap (s : List Char) : Prop := s ≠ [] ∧ ∀ c ∈ s, isBlank c = true

theorem Piece.first_blanks (hs : Text.IsGap s) (ht : ∀ c ∈ t.head?, Text.isBlank c = false)
    (parts : DateParts) : First .blanks parts (s ++ t) parts t := by
  have hcount : ((s ++ t).takeWhile Text.isBlank).length = s.length := by
    rw [(Text.span_append hs.2 ht).1]
  have hpass : (passBlanks (s ++ t)).head? = some t := by
    rw [passBlanks, hcount, List.head?_map, List.head?_range,
      if_neg (mt List.length_eq_zero_iff.1 hs.1), Option.map_some, Nat.sub_zero, List.drop_left]
  rw [First, reads, List.head?_map, hpass]
  rfl

/-! ## Names of months -/

namespace Piece

/-- The first three letters of the names of the months. -/
def abbreviations : List (List Char) := monthNames.map (·.take 3)

/-- The letters of the names have case. -/
theorem monthNames_cased : (∀ name ∈ monthNames, ∀ c ∈ name, Text.isCaseless c = false) ∧
    ∀ name ∈ abbreviations, ∀ c ∈ name, Text.isCaseless c = false := by
  have hcased : ∀ {name : List Char}, name.any Text.isCaseless = false →
      ∀ c ∈ name, Text.isCaseless c = false := fun h c hc =>
    Bool.eq_false_iff.2 (List.any_eq_false.1 h c hc)
  have hnone : (∀ name ∈ monthNames, name.any Text.isCaseless = false) ∧
      ∀ name ∈ abbreviations, name.any Text.isCaseless = false := by decide +kernel
  exact ⟨fun name hname => hcased (hnone.1 name hname), fun name hname => hcased (hnone.2 name hname)⟩

/-- No name starts with a character without case. -/
theorem not_starts_of_isCaseless {c : Char} (h : Text.isCaseless c = true) :
    monthName.starts c = false ∧ monthAbbreviation.starts c = false := by
  have hnone : ∀ {names : List (List Char)},
      (∀ name ∈ names, ∀ c ∈ name, Text.isCaseless c = false) →
      names.any (·.head? == some c.toLower) = false := by
    intro names hnames
    rw [List.any_eq_false, Text.toLower_of_isCaseless h]
    intro name hname hhead
    rw [hnames name hname c (List.mem_of_mem_head? (eq_of_beq hhead))] at h
    cases h
  exact ⟨hnone monthNames_cased.1, hnone monthNames_cased.2⟩

/-- The numbers of a word among names, counted from 1. -/
def numbersOf (names : List (List Char)) (word : List Char) : List Nat :=
  names.zipIdx.filterMap fun (name, i) => if name = word then some (i + 1) else none

/-- Each name has one number, which is that of its first letters too. -/
theorem numbersOf_monthNames : ∀ entry ∈ monthNames.zipIdx 1,
    numbersOf monthNames entry.1 = [entry.2] ∧
      numbersOf abbreviations (entry.1.take 3) = [entry.2] ∧
        (entry.1.take 3 = entry.1 ∨ numbersOf monthNames (entry.1.take 3) = []) := by
  decide +kernel

/-- No name starts with another one. -/
theorem monthNames_prefix_free :
    (∀ word ∈ monthNames ++ abbreviations, ∀ name ∈ monthNames, name <+: word → name = word) ∧
      ∀ word ∈ abbreviations, ∀ name ∈ abbreviations, name <+: word → name = word := by
  decide +kernel

/-- A word in front of a character without case is read as the names that it is. -/
theorem readName_append {names : List (List Char)} {c : Char}
    (hnames : ∀ name ∈ names, ∀ x ∈ name, Text.isCaseless x = false)
    (hfree : ∀ name ∈ names, name <+: s.map Char.toLower → name = s.map Char.toLower)
    (hc : Text.isCaseless c = true) :
    readName names (s ++ c :: t) =
      (numbersOf names (s.map Char.toLower)).map (·, c :: t) := by
  have hfront : ∀ name ∈ names, ((s ++ c :: t).take name.length).map Char.toLower = name →
      name = s.map Char.toLower := by
    intro name hname heq
    by_cases hlength : name.length ≤ s.length
    · refine hfree name hname ?_
      rw [List.take_append_of_le_length hlength, List.map_take] at heq
      rw [← heq]
      exact List.take_prefix _ _
    · -- The name would go on past the word.
      obtain ⟨k, hk⟩ := Nat.exists_eq_add_of_lt (Nat.lt_of_not_le hlength)
      have hmem : c.toLower ∈ name := by
        rw [← heq, List.take_append, show name.length - s.length = k + 1 by omega]
        exact List.mem_map_of_mem (List.mem_append_right _ List.mem_cons_self)
      have hcased := hnames name hname _ hmem
      rw [Text.toLower_of_isCaseless hc, hc] at hcased
      cases hcased
  rw [readName, numbersOf, List.map_filterMap]
  refine List.filterMap_congr fun ⟨name, i⟩ hentry => ?_
  have hname : name ∈ names := List.fst_mem_of_mem_zipIdx hentry
  dsimp only
  by_cases heq : name = s.map Char.toLower
  · have hlength : name.length = s.length := by rw [heq, List.length_map]
    rw [if_pos heq, hlength, List.take_left, List.drop_left, if_pos heq.symm]
    rfl
  · rw [if_neg heq, if_neg (mt (hfront name hname) heq)]
    rfl

end Piece

/-- The text is the English name of a month or its first three letters, in any case. -/
def IsMonthName (month : Nat) (s : List Char) : Prop :=
  ∃ name, (name, month) ∈ Piece.monthNames.zipIdx 1 ∧
    (s.map Char.toLower = name ∨ s.map Char.toLower = name.take 3)

namespace IsMonthName

variable {month : Nat}

theorem mem_names (h : IsMonthName month s) :
    s.map Char.toLower ∈ Piece.monthNames ++ Piece.abbreviations := by
  obtain ⟨name, hname, h⟩ := h
  have hname : name ∈ Piece.monthNames := List.fst_mem_of_mem_zipIdx hname
  rw [List.mem_append]
  rcases h with h | h
  · exact .inl (h ▸ hname)
  · exact .inr (h ▸ List.mem_map_of_mem hname)

theorem cased (h : IsMonthName month s) : ∀ c ∈ s, Text.isCaseless c = false := by
  intro c hc
  have hlower : c.toLower ∈ s.map Char.toLower := List.mem_map_of_mem hc
  refine Bool.eq_false_iff.2 fun hcaseless => ?_
  rw [Text.toLower_of_isCaseless hcaseless] at hlower
  have hcased : Text.isCaseless c = false := by
    rcases List.mem_append.1 h.mem_names with hname | hname
    · exact Piece.monthNames_cased.1 _ hname c hlower
    · exact Piece.monthNames_cased.2 _ hname c hlower
  rw [hcaseless] at hcased
  cases hcased

theorem ne_nil (h : IsMonthName month s) : s ≠ [] := by
  rintro rfl
  rcases List.mem_append.1 h.mem_names with hname | hname
  · exact Piece.monthNames_ne_nil.1 _ hname rfl
  · exact Piece.monthNames_ne_nil.2 _ hname rfl

/-- The name of a month in front of blanks is read in full, or else by its first letters. -/
theorem reads_cases (h : IsMonthName month s) {gap : List Char} (hgap : Text.IsGap gap)
    (t : List Char) :
    (∀ parts, Piece.First .monthName parts (s ++ (gap ++ t)) { parts with month } (gap ++ t)) ∨
      (∀ parts, Piece.monthName.reads parts (s ++ (gap ++ t)) = []) ∧
        ∀ parts, Piece.First .monthAbbreviation parts (s ++ (gap ++ t)) { parts with month }
          (gap ++ t) := by
  obtain ⟨c, gap, rfl⟩ := List.exists_cons_of_ne_nil hgap.1
  have hc : Text.isCaseless c = true :=
    Text.isCaseless_of_isBlank (hgap.2 c List.mem_cons_self)
  rw [List.cons_append]
  generalize gap ++ t = t
  have hfull := Piece.readName_append (t := t) Piece.monthNames_cased.1
    (Piece.monthNames_prefix_free.1 _ h.mem_names) hc
  obtain ⟨name, hname, hs⟩ := h
  obtain ⟨hnumber, hshort, hother⟩ := Piece.numbersOf_monthNames _ hname
  have hread : s.map Char.toLower = name →
      ∀ parts, Piece.First .monthName parts (s ++ c :: t) { parts with month } (c :: t) := by
    intro hs parts
    rw [hs, hnumber] at hfull
    exact Piece.first_of_head? (f := fun n => { parts with month := n }) rfl (by rw [hfull]; rfl)
  rcases hs with hs | hs
  · exact .inl (hread hs)
  · rcases hother with hsame | hnone
    · exact .inl (hread (hs.trans hsame))
    · have hmem : s.map Char.toLower ∈ Piece.abbreviations :=
        hs ▸ List.mem_map_of_mem (List.fst_mem_of_mem_zipIdx hname)
      have hletters := Piece.readName_append (t := t) Piece.monthNames_cased.2
        (Piece.monthNames_prefix_free.2 _ hmem) hc
      rw [hs] at hfull hletters
      rw [hnone] at hfull
      rw [hshort] at hletters
      refine .inr ⟨fun parts => ?_, fun parts => ?_⟩
      · rw [Piece.reads, hfull]
        rfl
      · exact Piece.first_of_head? (f := fun n => { parts with month := n }) rfl
          (by rw [show Piece.readName (Piece.monthNames.map (·.take 3)) _ = _ from hletters]; rfl)

end IsMonthName

/-! ## What is read before a name -/

/-- Characters without case are read, and the rest is left. -/
def Passes (s t : List Char) : Prop :=
  ∃ front, s = front ++ t ∧ ∀ c ∈ front, Text.isCaseless c = true

namespace Piece

variable {n : Nat}

theorem readUnit_passes {base : Nat} {digit? : Char → Option Nat}
    (hdigit : ∀ c, (digit? c).isSome = true → Text.isDecimal c = true)
    (h : (n, t) ∈ readUnit base digit? s) : Passes s t := by
  cases s with
  | nil => cases h
  | cons c rest =>
    rw [readUnit, Option.mem_toList, Option.map_eq_some_iff] at h
    obtain ⟨d, hd, heq⟩ := h
    cases heq
    refine ⟨[c], rfl, fun x hx => ?_⟩
    rw [List.mem_singleton.1 hx]
    exact Text.isCaseless_of_isDecimal (hdigit c (Option.isSome_iff_exists.2 ⟨d, hd⟩))

theorem readPast_passes {lead : Char} {read : List Char → List (Nat × List Char)}
    (hlead : Text.isCaseless lead = true) (hread : ∀ {s}, (n, t) ∈ read s → Passes s t)
    (h : (n, t) ∈ readPast lead read s) : Passes s t := by
  cases s with
  | nil => cases h
  | cons c rest =>
    rw [readPast] at h
    split at h
    · rename_i hc
      obtain ⟨front, rfl, hfront⟩ := hread h
      exact ⟨c :: front, rfl, List.forall_mem_cons.2 ⟨hc ▸ hlead, hfront⟩⟩
    · cases h

theorem readDay_passes (h : (n, t) ∈ readDay s) : Passes s t := by
  have hin : ∀ {low high : Nat} {c : Char}, (digitIn? low high c).isSome = true →
      Text.isDecimal c = true := fun h => Text.isDecimal_of_isDigit (isDigit_of_digitIn h)
  have hcaseless : ∀ c, c.toNat ≤ 0x40 → Text.isCaseless c = true := fun c =>
    Text.isCaseless_of_toNat_le
  simp only [readDay, List.mem_append] at h
  rcases h with ((((h | h) | h) | h) | h) | h
  · exact readPast_passes (hcaseless _ (by decide)) (readUnit_passes fun _ => hin) h
  · exact readPast_passes (hcaseless _ (by decide)) (readUnit_passes fun _ => id) h
  · exact readPast_passes (hcaseless _ (by decide)) (readUnit_passes fun _ => id) h
  · exact readPast_passes (hcaseless _ (by decide)) (readUnit_passes fun _ => hin) h
  · exact readUnit_passes (fun _ => hin) h
  · exact readPast_passes (hcaseless _ (by decide)) (readUnit_passes fun _ => hin) h

theorem passBlanks_passes (h : t ∈ passBlanks s) : Passes s t := by
  obtain ⟨i, -, rfl⟩ := List.mem_map.1 h
  refine ⟨s.take ((s.takeWhile Text.isBlank).length - i), (List.take_append_drop _ s).symm,
    fun c hc => ?_⟩
  have hstarts : s.take ((s.takeWhile Text.isBlank).length - i) <+: s.takeWhile Text.isBlank :=
    List.prefix_of_prefix_length_le (List.take_prefix _ s) (List.takeWhile_prefix _)
      (Nat.le_trans (List.length_take_le _ s) (Nat.sub_le _ i))
  exact Text.isCaseless_of_isBlank (List.mem_takeWhile_imp (hstarts.subset hc))

/-- A day and blanks are read as characters without case. -/
theorem reads_passes {piece : Piece} (hpiece : piece = .day ∨ piece = .blanks)
    {parts parts' : DateParts} (h : (parts', t) ∈ piece.reads parts s) : Passes s t := by
  rcases hpiece with rfl | rfl
  · obtain ⟨⟨n, u⟩, hday, heq⟩ := List.mem_map.1 h
    cases heq
    exact readDay_passes hday
  · obtain ⟨u, hblanks, heq⟩ := List.mem_map.1 h
    cases heq
    exact passBlanks_passes hblanks

end Piece

/-! ## Patterns -/

namespace Pattern

variable {piece : Piece} {pattern : Pattern}

/-- When the first way of a piece goes on to the end, it is the way that counts. -/
theorem readFrom_of_first {parts parts' : DateParts} {read : DateParts × List Char}
    (hfirst : piece.First parts s parts' t) (h : readFrom pattern parts' t = some read) :
    readFrom (piece :: pattern) parts s = some read := by
  obtain ⟨rest, hreads⟩ := List.head?_eq_some_iff.1 hfirst
  rw [readFrom, hreads]
  simp only [List.findSome?_cons, h]

theorem read?_of_readFrom (parts : DateParts) {d : Date}
    (h : pattern.readFrom {} s = some (parts, []))
    (hd : Date.of? parts.year parts.month parts.day = some d) : pattern.read? s = some d := by
  rw [read?, h]
  exact hd

/-- Behind days and blanks a piece reads the text without its front of characters without case. -/
theorem exists_reads_behind {front behind : Pattern} {parts : DateParts}
    {read : DateParts × List Char} (hfront : ∀ p ∈ front, p = .day ∨ p = .blanks)
    (h : readFrom (front ++ piece :: behind) parts s = some read) :
    ∃ u parts', Passes s u ∧ piece.reads parts' u ≠ [] := by
  induction front generalizing parts s with
  | nil =>
    obtain ⟨parts', u, hread, -⟩ := readFrom_cons_eq_some h
    exact ⟨s, parts, ⟨[], rfl, List.forall_mem_nil _⟩, List.ne_nil_of_mem hread⟩
  | cons p front ih =>
    obtain ⟨hp, hfront⟩ := List.forall_mem_cons.1 hfront
    obtain ⟨parts', u, hread, hrest⟩ := readFrom_cons_eq_some h
    obtain ⟨v, parts'', ⟨ds, rfl, hds⟩, hpiece⟩ := ih hfront hrest
    obtain ⟨ds', rfl, hds'⟩ := Piece.reads_passes hp hread
    exact ⟨v, parts'', ⟨ds' ++ ds, (List.append_assoc ds' ds v).symm,
      List.forall_mem_append.2 ⟨hds', hds⟩⟩, hpiece⟩

/-- Behind days and blanks the full name of a month is not found where another word stands. -/
theorem read?_eq_none_of_word (front : Pattern) {behind : Pattern} {ds : List Char}
    (hfront : ∀ p ∈ front, p = .day ∨ p = .blanks) (hds : ∀ c ∈ ds, Text.isCaseless c = true)
    (hs : ∀ c ∈ s.head?, Text.isCaseless c = false)
    (hword : ∀ parts, Piece.monthName.reads parts s = []) :
    read? (front ++ .monthName :: behind) (ds ++ s) = none := by
  refine Option.eq_none_iff_forall_ne_some.2 fun d hread => ?_
  obtain ⟨parts, hread⟩ := exists_readFrom hread
  obtain ⟨u, parts', ⟨ds', heq, hds'⟩, hreads⟩ := exists_reads_behind hfront hread
  have hu : ∀ c ∈ u.head?, Text.isCaseless c = false := by
    obtain ⟨⟨parts'', v⟩, hmem⟩ := List.exists_mem_of_ne_nil _ hreads
    obtain ⟨c, rest, rfl, hc, -⟩ := Piece.reads_leaves hmem
    rintro x hx
    obtain rfl : c = x := Option.some.inj hx
    refine Bool.eq_false_iff.2 fun hcaseless => ?_
    rw [(Piece.not_starts_of_isCaseless hcaseless).1] at hc
    cases hc
  have hsame : u = s := by
    rw [← (Text.span_append hds' hu).2, ← heq, (Text.span_append hds hs).2]
  rw [hsame, hword] at hreads
  exact hreads rfl

end Pattern

end ShelfRules
