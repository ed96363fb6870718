import ShelfRules.Value.Number
import ShelfRules.Proofs.DecimalReading
import ShelfRules.Proofs.LoweredTexts
import ShelfRules.Proofs.WrittenDays

/-!
# Texts that write a number

A numeral is a sign or none, digits with a point among them or none, and an exponent or none. These
are the texts that are read as a number in digits; case and blanks around them do not count.

Results:
* `Double.ofText?_eq_some_iff`: the texts that write a number in digits are the numerals.
* `Numeral.ofText_eq`, `Numeral.ofText_lowered`: a numeral with blanks around it writes its value, and
  its lower-case form does.
* `Double.ofText_eq_nan_iff`: the texts that write no number.
-/

namespace ShelfRules

variable {s t : List Char}

/-! ## Decimal digits -/

namespace Text

/-- No script has its digits among the blanks. -/
theorem zeros_apart_blanks :
    ∀ z ∈ zeros, ∀ range ∈ blanks, range.2 < z ∨ z + 9 < range.1 := by
  decide +kernel

theorem isBlank_of_isDecimal {c : Char} (h : isDecimal c = true) : isBlank c = false := by
  unfold isDecimal digitValue? at h
  rw [Option.isSome_map, List.find?_isSome] at h
  obtain ⟨z, hz, hc⟩ := h
  simp only [Bool.and_eq_true, decide_eq_true_eq] at hc
  refine Bool.eq_false_iff.2 fun hblank => ?_
  simp only [isBlank, CodeRanges.has, List.any_eq_true, Bool.and_eq_true, decide_eq_true_eq] at hblank
  obtain ⟨range, hrange, hlow, hhigh⟩ := hblank
  have := zeros_apart_blanks z hz range hrange
  omega

theorem ne_of_isDecimal {c d : Char} (hc : isDecimal c = true) (hd : isDecimal d = false) :
    c ≠ d := by
  rintro rfl
  rw [hc] at hd
  cases hd

/-- Characters of a class in front of one of another class are cut off. -/
theorem span_append {p : Char → Bool} {ds : List Char} (hds : ∀ c ∈ ds, p c = true)
    (ht : ∀ c ∈ t.head?, p c = false) :
    (ds ++ t).takeWhile p = ds ∧ (ds ++ t).dropWhile p = t := by
  rw [List.takeWhile_append_of_pos hds, List.dropWhile_append_of_pos hds]
  cases t with
  | nil => exact ⟨List.append_nil ds, rfl⟩
  | cons c t =>
    have hc : ¬p c = true := by simp [ht c rfl]
    rw [List.takeWhile_cons_of_neg hc, List.dropWhile_cons_of_neg hc, List.append_nil]
    exact ⟨rfl, rfl⟩

theorem lowerFrom_of_ne_sigma (h : 'Σ' ∉ s) (afterCased : Bool) :
    lowerFrom afterCased s = s.flatMap lowerChar := by
  induction s generalizing afterCased with
  | nil => rfl
  | cons c rest ih =>
    obtain ⟨hc, hrest⟩ := not_or.1 (mt List.mem_cons.2 h)
    rw [lowerFrom_cons_of_ne (Ne.symm hc), ih hrest, List.flatMap_cons]

theorem lowerChar_of_isCaseless {c : Char} (h : isCaseless c = true) : lowerChar c = [c] := by
  rcases lowerChar_cases c with ⟨rfl, -⟩ | ⟨run, hrun, hhas, -⟩ | ⟨-, hlower⟩
  · exact absurd h (by decide +kernel)
  · rw [(lowerChar_run hrun hhas).1] at h
    cases h
  · exact hlower

theorem flatMap_lowerChar (h : ∀ c ∈ s, isCaseless c = true) : s.flatMap lowerChar = s := by
  induction s with
  | nil => rfl
  | cons c rest ih =>
    obtain ⟨hc, hrest⟩ := List.forall_mem_cons.1 h
    rw [List.flatMap_cons, lowerChar_of_isCaseless hc, ih hrest]
    rfl

end Text

/-! ## Signs -/

/-- The sign in front of a number. -/
inductive NumberSign where
  | none
  | plus
  | minus
deriving DecidableEq, Repr

namespace NumberSign

/-- The characters of a sign. -/
def chars : NumberSign → List Char
  | none => []
  | plus => ['+']
  | minus => ['-']

/-- The sign turns the number. -/
def isNegative (sign : NumberSign) : Bool := sign == minus

theorem splitSign_append (sign : NumberSign) (h : ∀ c ∈ t.head?, c ≠ '+' ∧ c ≠ '-') :
    splitSign (sign.chars ++ t) = (sign.isNegative, t) := by
  cases sign with
  | none =>
    cases t with
    | nil => rfl
    | cons c t =>
      obtain ⟨hplus, hminus⟩ := h c rfl
      simp [chars, isNegative, splitSign, hplus, hminus]
  | plus => rfl
  | minus => rfl

/-- What is split is a sign in front of a text. -/
theorem exists_splitSign (s : List Char) :
    ∃ sign : NumberSign, s = sign.chars ++ (splitSign s).2 ∧ (splitSign s).1 = sign.isNegative := by
  unfold splitSign
  split
  · exact ⟨minus, rfl, rfl⟩
  · exact ⟨plus, rfl, rfl⟩
  · exact ⟨none, rfl, rfl⟩

theorem mem_chars {sign : NumberSign} {c : Char} (h : c ∈ sign.chars) : c = '+' ∨ c = '-' := by
  cases sign with
  | none => cases h
  | plus => exact .inl (List.mem_singleton.1 h)
  | minus => exact .inr (List.mem_singleton.1 h)

end NumberSign

/-! ## Exponents -/

/-- An exponent: a letter, a sign or none, and digits. -/
structure Exponent where
  capital : Bool
  sign : NumberSign
  digits : List Char
  nonempty : digits ≠ []
  isDecimal : ∀ c ∈ digits, Text.isDecimal c = true

namespace Exponent

/-- The letter of an exponent. -/
def letter (e : Exponent) : Char := if e.capital then 'E' else 'e'

theorem letter_cases (e : Exponent) : e.letter = 'e' ∨ e.letter = 'E' := by
  unfold letter
  cases e.capital
  · exact .inl rfl
  · exact .inr rfl

/-- The characters of an exponent. -/
def chars (e : Exponent) : List Char := e.letter :: (e.sign.chars ++ e.digits)

/-- The number that an exponent writes. -/
def value (e : Exponent) : Int :=
  if e.sign.isNegative then -(Text.digitsValue e.digits : Int) else Text.digitsValue e.digits

theorem readExponentText_chars (e : Exponent) : readExponentText e.chars = some e.value := by
  have hsign : splitSign (e.sign.chars ++ e.digits) = (e.sign.isNegative, e.digits) := by
    refine e.sign.splitSign_append fun c hc => ?_
    have hdigit := e.isDecimal c (List.mem_of_mem_head? hc)
    exact ⟨Text.ne_of_isDecimal hdigit (by decide), Text.ne_of_isDecimal hdigit (by decide)⟩
  have hletter : (e.letter == 'e' || e.letter == 'E') = true := by
    rcases e.letter_cases with h | h <;> rw [h] <;> rfl
  have hdigits : e.digits.all Text.isDecimal = true := List.all_eq_true.2 e.isDecimal
  simp [chars, readExponentText, hsign, hletter, e.nonempty, hdigits, value]

end Exponent

/-- An exponent that is read is one letter, a sign or none, and digits, or there is none. -/
theorem exists_exponent {k : Int} (h : readExponentText s = some k) :
    ∃ exponent : Option Exponent, s = (exponent.map Exponent.chars).getD [] := by
  cases s with
  | nil => exact ⟨none, rfl⟩
  | cons c s =>
    obtain ⟨sign, hs, -⟩ := NumberSign.exists_splitSign s
    rw [readExponentText] at h
    simp only [Option.ite_none_right_eq_some, Bool.and_eq_true, Bool.or_eq_true, beq_iff_eq,
      bne_iff_ne, List.all_eq_true] at h
    obtain ⟨⟨⟨hletter, hne⟩, hdigits⟩, -⟩ := h
    refine ⟨some ⟨c == 'E', sign, (splitSign s).2, hne, hdigits⟩, ?_⟩
    have hc : c = if (c == 'E') = true then 'E' else 'e' := by
      rcases hletter with rfl | rfl <;> rfl
    rw [Option.map_some, Option.getD_some, Exponent.chars, Exponent.letter, ← hs, ← hc]

/-! ## Mantissas -/

theorem readMantissa_of_whole {ds : List Char} (hds : ∀ c ∈ ds, Text.isDecimal c = true)
    (ht : ∀ c ∈ t.head?, Text.isDecimal c = false ∧ c ≠ '.') (hne : ds ≠ []) :
    readMantissa (ds ++ t) = some (ds, [], t) := by
  obtain ⟨htake, hdrop⟩ := Text.span_append hds fun c hc => (ht c hc).1
  rw [readMantissa, htake, hdrop]
  cases t with
  | nil => simp [hne]
  | cons c t => simp [hne, (ht c rfl).2]

theorem readMantissa_of_point {ds fs : List Char} (hds : ∀ c ∈ ds, Text.isDecimal c = true)
    (hfs : ∀ c ∈ fs, Text.isDecimal c = true) (ht : ∀ c ∈ t.head?, Text.isDecimal c = false)
    (hne : ds ++ fs ≠ []) : readMantissa (ds ++ '.' :: (fs ++ t)) = some (ds, fs, t) := by
  have hpoint : ∀ c ∈ ('.' :: (fs ++ t)).head?, Text.isDecimal c = false := by
    intro c hc
    cases hc
    decide
  obtain ⟨htake, hdrop⟩ := Text.span_append hds hpoint
  obtain ⟨htake', hdrop'⟩ := Text.span_append hfs ht
  rw [readMantissa, htake, hdrop]
  show (if ds = [] ∧ (fs ++ t).takeWhile Text.isDecimal = [] then none
    else some (ds, (fs ++ t).takeWhile Text.isDecimal, (fs ++ t).dropWhile Text.isDecimal)) = _
  rw [htake', hdrop', if_neg fun h => hne (List.append_eq_nil_iff.2 h)]

/-- What is read as a mantissa is digits with a point among them or none. -/
theorem readMantissa_eq_some {whole places rest : List Char}
    (h : readMantissa s = some (whole, places, rest)) : ∃ fraction : Option (List Char),
      fraction.getD [] = places ∧ s = whole ++ ((fraction.map ('.' :: ·)).getD [] ++ rest) ∧
        whole ++ places ≠ [] ∧ ∀ c ∈ whole ++ places, Text.isDecimal c = true := by
  have htake : ∀ u : List Char, ∀ c ∈ u.takeWhile Text.isDecimal, Text.isDecimal c = true :=
    fun u c hc => List.mem_takeWhile_imp hc
  have hsplit : s = s.takeWhile Text.isDecimal ++ s.dropWhile Text.isDecimal :=
    List.takeWhile_append_dropWhile.symm
  simp only [readMantissa] at h
  generalize s.dropWhile Text.isDecimal = u at h hsplit
  split at h
  · rename_i v
    obtain ⟨hne, heq⟩ := Option.ite_none_left_eq_some.1 h
    cases heq
    refine ⟨some (v.takeWhile Text.isDecimal), rfl, ?_, mt List.append_eq_nil_iff.1 hne,
      List.forall_mem_append.2 ⟨htake s, htake v⟩⟩
    rw [Option.map_some, Option.getD_some, List.cons_append, List.takeWhile_append_dropWhile]
    exact hsplit
  · obtain ⟨hne, heq⟩ := Option.ite_none_left_eq_some.1 h
    cases heq
    exact ⟨none, rfl, hsplit, mt List.append_eq_nil_iff.1 hne,
      List.forall_mem_append.2 ⟨htake s, nofun⟩⟩

/-! ## Numerals -/

/-- A number in digits: a sign or none, digits with a point among them or none, and an exponent or
none. -/
structure Numeral where
  sign : NumberSign
  whole : List Char
  fraction : Option (List Char)
  exponent : Option Exponent
  nonempty : whole ++ fraction.getD [] ≠ []
  isDecimal : ∀ c ∈ whole ++ fraction.getD [], Text.isDecimal c = true

namespace Numeral

/-- The digits behind the point. -/
def places (n : Numeral) : List Char := n.fraction.getD []

/-- The point and the digits behind it. -/
def pointed (n : Numeral) : List Char := (n.fraction.map ('.' :: ·)).getD []

/-- The characters of the exponent. -/
def raised (n : Numeral) : List Char := (n.exponent.map Exponent.chars).getD []

/-- The characters of a numeral. -/
def chars (n : Numeral) : List Char := n.sign.chars ++ (n.whole ++ (n.pointed ++ n.raised))

/-- The double that a numeral writes. -/
def value (n : Numeral) : Double :=
  Decimal.toDouble n.sign.isNegative ⟨Text.digitsValue (n.whole ++ n.places),
    (n.exponent.map Exponent.value).getD 0 - n.places.length⟩

theorem isDecimal_whole (n : Numeral) : ∀ c ∈ n.whole, Text.isDecimal c = true := fun c hc =>
  n.isDecimal c (List.mem_append_left _ hc)

theorem isDecimal_places (n : Numeral) : ∀ c ∈ n.places, Text.isDecimal c = true := fun c hc =>
  n.isDecimal c (List.mem_append_right _ hc)

/-- An exponent starts with its letter. -/
theorem head?_raised (n : Numeral) : ∀ c ∈ n.raised.head?, c = 'e' ∨ c = 'E' := by
  intro c hc
  unfold raised at hc
  cases he : n.exponent with
  | none =>
    rw [he] at hc
    cases hc
  | some e =>
    rw [he] at hc
    have hletter : e.letter = c := Option.some.inj hc
    rw [← hletter]
    exact e.letter_cases

theorem readExponentText_raised (n : Numeral) :
    readExponentText n.raised = some ((n.exponent.map Exponent.value).getD 0) := by
  unfold raised
  cases n.exponent with
  | none => rfl
  | some e => exact e.readExponentText_chars

theorem readMantissa_append (n : Numeral) :
    readMantissa (n.whole ++ (n.pointed ++ n.raised)) = some (n.whole, n.places, n.raised) := by
  have hraised : ∀ c ∈ n.raised.head?, Text.isDecimal c = false ∧ c ≠ '.' := by
    intro c hc
    rcases n.head?_raised c hc with rfl | rfl <;> decide
  have hplaces := n.isDecimal_places
  have hne := n.nonempty
  unfold places pointed at *
  cases hf : n.fraction with
  | none =>
    rw [hf, Option.getD_none, List.append_nil] at hne
    exact readMantissa_of_whole n.isDecimal_whole hraised hne
  | some ds =>
    rw [hf] at hplaces hne
    exact readMantissa_of_point n.isDecimal_whole hplaces (fun c hc => (hraised c hc).1) hne

/-- Behind the digits of a numeral stands its point or its exponent. -/
theorem head?_behind (n : Numeral) :
    ∀ c ∈ (n.pointed ++ n.raised).head?, c = '.' ∨ c = 'e' ∨ c = 'E' := by
  intro c hc
  unfold pointed at hc
  cases hf : n.fraction with
  | none =>
    rw [hf] at hc
    exact .inr (n.head?_raised c hc)
  | some ds =>
    rw [hf] at hc
    cases hc
    exact .inl rfl

/-- A numeral without its sign starts with a digit or a point. -/
theorem head?_unsigned (n : Numeral) :
    ∀ c ∈ (n.whole ++ (n.pointed ++ n.raised)).head?, Text.isDecimal c = true ∨ c = '.' := by
  intro c hc
  rw [List.head?_append] at hc
  cases hw : n.whole with
  | cons d ds =>
    rw [hw] at hc
    cases hc
    exact .inl (n.isDecimal_whole _ (hw ▸ List.mem_cons_self))
  | nil =>
    rw [hw] at hc
    have hne := n.nonempty
    unfold pointed at hc
    cases hf : n.fraction with
    | none =>
      rw [hw, hf] at hne
      exact absurd rfl hne
    | some ds =>
      rw [hf] at hc
      cases hc
      exact .inr rfl

/-- A numeral is read as its value. -/
theorem ofText?_chars (n : Numeral) : Double.ofText? n.chars = some n.value := by
  have hsign : splitSign n.chars = (n.sign.isNegative, n.whole ++ (n.pointed ++ n.raised)) := by
    refine n.sign.splitSign_append fun c hc => ?_
    rcases n.head?_unsigned c hc with hdigit | rfl
    · exact ⟨Text.ne_of_isDecimal hdigit (by decide), Text.ne_of_isDecimal hdigit (by decide)⟩
    · decide
  rw [Double.ofText?, hsign]
  simp [n.readMantissa_append, n.readExponentText_raised, value]

end Numeral

/-- The texts that write a number in digits are the numerals. -/
theorem Double.ofText?_eq_some_iff {d : Double} :
    ofText? s = some d ↔ ∃ n : Numeral, n.chars = s ∧ n.value = d := by
  constructor
  · intro h
    obtain ⟨sign, hs, -⟩ := NumberSign.exists_splitSign s
    obtain ⟨⟨whole, places, rest⟩, hmantissa, hrest⟩ := Option.bind_eq_some_iff.1 h
    obtain ⟨k, hexponent, -⟩ := Option.bind_eq_some_iff.1 hrest
    obtain ⟨fraction, rfl, hsplit, hne, hdigits⟩ := readMantissa_eq_some hmantissa
    obtain ⟨exponent, hraised⟩ := exists_exponent hexponent
    have hchars : Numeral.chars ⟨sign, whole, fraction, exponent, hne, hdigits⟩ = s := by
      rw [hs, show (splitSign s).2 = _ from hsplit, hraised]
      rfl
    refine ⟨⟨sign, whole, fraction, exponent, hne, hdigits⟩, hchars, ?_⟩
    rw [← hchars, Numeral.ofText?_chars] at h
    exact Option.some.inj h
  · rintro ⟨n, rfl, rfl⟩
    exact n.ofText?_chars

/-! ## Characters of numerals -/

namespace Numeral

theorem mem_chars {n : Numeral} {c : Char} (h : c ∈ n.chars) :
    Text.isDecimal c = true ∨ c ∈ ['+', '-', '.', 'e', 'E'] := by
  have hsign : ∀ {sign : NumberSign}, c ∈ sign.chars → c ∈ ['+', '-', '.', 'e', 'E'] := by
    intro sign hc
    rcases NumberSign.mem_chars hc with rfl | rfl <;> decide
  simp only [chars, List.mem_append] at h
  rcases h with h | h | h | h
  · exact .inr (hsign h)
  · exact .inl (n.isDecimal_whole c h)
  · have hplaces := n.isDecimal_places c
    unfold pointed at h
    unfold places at hplaces
    cases hf : n.fraction with
    | none =>
      rw [hf] at h
      cases h
    | some ds =>
      rw [hf] at h hplaces
      rcases List.mem_cons.1 h with rfl | h
      · exact .inr (by decide)
      · exact .inl (hplaces h)
  · unfold raised at h
    cases he : n.exponent with
    | none =>
      rw [he] at h
      cases h
    | some e =>
      rw [he] at h
      rcases List.mem_cons.1 h with rfl | h
      · rcases e.letter_cases with hletter | hletter <;> rw [hletter] <;> exact .inr (by decide)
      · rcases List.mem_append.1 h with h | h
        · exact .inr (hsign h)
        · exact .inl (e.isDecimal c h)

theorem not_mem_chars (n : Numeral) {c : Char} (hc : Text.isDecimal c = false)
    (hsign : c ∉ ['+', '-', '.', 'e', 'E']) : c ∉ n.chars := by
  intro h
  rcases mem_chars h with hdigit | hmem
  · rw [hc] at hdigit
    cases hdigit
  · exact hsign hmem

theorem not_blank (n : Numeral) : ∀ c ∈ n.chars, Text.isBlank c = false := by
  have hsigns : ['+', '-', '.', 'e', 'E'].any Text.isBlank = false := by decide
  intro c hc
  rcases mem_chars hc with hdigit | hmem
  · exact Text.isBlank_of_isDecimal hdigit
  · exact Bool.eq_false_iff.2 (List.any_eq_false.1 hsigns c hmem)

theorem strip_chars (n : Numeral) : Text.strip n.chars = n.chars := Text.strip_of_forall n.not_blank

/-- A numeral has one point at most. -/
theorem count_point_le (n : Numeral) : n.chars.count '.' ≤ 1 := by
  have hdigits : ∀ {ds : List Char}, (∀ c ∈ ds, Text.isDecimal c = true) → ds.count '.' = 0 :=
    fun h => List.count_eq_zero_of_not_mem fun hc => absurd (h '.' hc) (by decide)
  have hsign : ∀ sign : NumberSign, sign.chars.count '.' = 0 := fun sign => by cases sign <;> rfl
  have hpointed : n.pointed.count '.' ≤ 1 := by
    have hplaces := hdigits n.isDecimal_places
    unfold pointed
    unfold places at hplaces
    cases hf : n.fraction with
    | none => exact Nat.zero_le 1
    | some ds =>
      rw [hf] at hplaces
      exact Nat.le_of_eq (List.count_cons_self.trans (congrArg (· + 1) hplaces))
  have hraised : n.raised.count '.' = 0 := by
    unfold raised
    cases n.exponent with
    | none => rfl
    | some e =>
      have hletter : e.letter ≠ '.' := by rcases e.letter_cases with h | h <;> rw [h] <;> decide
      show (e.letter :: (e.sign.chars ++ e.digits)).count '.' = 0
      rw [List.count_cons_of_ne hletter, List.count_append, hsign, hdigits e.isDecimal]
  rw [chars, List.count_append, List.count_append, List.count_append, hsign,
    hdigits n.isDecimal_whole, hraised]
  omega

/-- Digits in front of a numeral are the ones before its point, and it has no sign then. -/
theorem span_chars {n : Numeral} {c : Char} (h : n.chars = c :: t)
    (hc : Text.isDecimal c = true) : n.sign = .none ∧
      n.chars.takeWhile Text.isDecimal = n.whole ∧
        n.chars.dropWhile Text.isDecimal = n.pointed ++ n.raised := by
  have hsign : n.sign = .none := by
    cases hsign : n.sign with
    | none => rfl
    | plus | minus =>
      rw [chars, hsign] at h
      obtain ⟨rfl, -⟩ := List.cons.inj h
      exact absurd hc (by decide)
  have hchars : n.chars = n.whole ++ (n.pointed ++ n.raised) := by
    rw [chars, hsign]
    rfl
  rw [hchars]
  refine ⟨hsign, Text.span_append n.isDecimal_whole fun d hd => ?_⟩
  rcases n.head?_behind d hd with rfl | rfl | rfl <;> decide

/-! ## Lower case -/

/-- The numeral with a small letter for its exponent. -/
def small (n : Numeral) : Numeral :=
  { n with exponent := n.exponent.map fun e => { e with capital := false } }

theorem value_small (n : Numeral) : n.small.value = n.value := by
  have hexponent : n.small.exponent.map Exponent.value = n.exponent.map Exponent.value := by
    unfold small
    cases n.exponent <;> rfl
  rw [value, hexponent]
  rfl

theorem flatMap_lowerChar_chars (n : Numeral) : n.chars.flatMap Text.lowerChar = n.small.chars := by
  have hdigits : ∀ {ds : List Char}, (∀ c ∈ ds, Text.isDecimal c = true) →
      ds.flatMap Text.lowerChar = ds := fun h =>
    Text.flatMap_lowerChar fun c hc => Text.isCaseless_of_isDecimal (h c hc)
  have hsign : ∀ sign : NumberSign, sign.chars.flatMap Text.lowerChar = sign.chars := fun sign =>
    Text.flatMap_lowerChar fun c hc => by
      rcases NumberSign.mem_chars hc with rfl | rfl <;> decide +kernel
  have hpointed : n.pointed.flatMap Text.lowerChar = n.pointed := by
    refine Text.flatMap_lowerChar fun c hc => ?_
    have hplaces := n.isDecimal_places c
    unfold pointed at hc
    unfold places at hplaces
    cases hf : n.fraction with
    | none =>
      rw [hf] at hc
      cases hc
    | some ds =>
      rw [hf] at hc hplaces
      rcases List.mem_cons.1 hc with rfl | hc
      · decide +kernel
      · exact Text.isCaseless_of_isDecimal (hplaces hc)
  have hraised : n.raised.flatMap Text.lowerChar = n.small.raised := by
    unfold raised small
    cases n.exponent with
    | none => rfl
    | some e =>
      have hletter : Text.lowerChar e.letter = ['e'] := by
        rcases e.letter_cases with h | h <;> rw [h] <;> decide +kernel
      show (e.letter :: (e.sign.chars ++ e.digits)).flatMap Text.lowerChar =
        'e' :: (e.sign.chars ++ e.digits)
      rw [List.flatMap_cons, hletter, List.flatMap_append, hsign, hdigits e.isDecimal]
      rfl
  rw [chars, List.flatMap_append, List.flatMap_append, List.flatMap_append, hsign,
    hdigits n.isDecimal_whole, hpointed, hraised]
  rfl

end Numeral

/-! ## Numbers of texts -/

/-- A numeral with blanks around it writes its value. -/
theorem Numeral.ofText_eq {n : Numeral} {s : String} (h : Text.strip s.toList = n.chars) :
    Double.ofText s = n.value := by
  rw [Double.ofText, h, n.ofText?_chars]

/-- The lower-case form of a numeral with blanks around it is one. -/
theorem Numeral.strip_lowered {n : Numeral} {s : String} (h : Text.strip s.toList = n.chars) :
    Text.strip (Text.lowered s).toList = n.small.chars := by
  obtain ⟨before, after, hs, hbefore, hafter⟩ := Text.exists_strip s.toList
  rw [h] at hs
  have hsigma : 'Σ' ∉ s.toList := by
    have hblank : Text.isBlank 'Σ' = false := by decide
    have houter : ∀ {u : List Char}, (∀ c ∈ u, Text.isBlank c = true) → 'Σ' ∉ u := fun hu hc => by
      rw [hu _ hc] at hblank
      cases hblank
    rw [hs, List.mem_append, List.mem_append]
    rintro ((hc | hc) | hc)
    · exact houter hbefore hc
    · exact n.not_mem_chars (by decide) (by decide) hc
    · exact houter hafter hc
  have houter : ∀ {u : List Char}, (∀ c ∈ u, Text.isBlank c = true) → u.flatMap Text.lowerChar = u :=
    fun hu => Text.flatMap_lowerChar fun c hc => Text.isCaseless_of_isBlank (hu c hc)
  rw [Text.toList_lowered, Text.lower, Text.lowerFrom_of_ne_sigma hsigma, hs, List.flatMap_append,
    List.flatMap_append, houter hbefore, houter hafter, n.flatMap_lowerChar_chars,
    Text.strip_append hbefore hafter, n.small.strip_chars]

/-- The lower-case form of a numeral with blanks around it writes its value. -/
theorem Numeral.ofText_lowered {n : Numeral} {s : String} (h : Text.strip s.toList = n.chars) :
    Double.ofText (Text.lowered s) = n.value :=
  (n.small.ofText_eq (n.strip_lowered h)).trans n.value_small

/-- The words that write an infinity. -/
def Double.infinityWords : List String := ["infinity", "+infinity", "-infinity"]

theorem Double.ofUnits_ne_nan (negative : Bool) (units : Nat) : ofUnits negative units ≠ .nan := by
  unfold ofUnits
  split
  · intro h
    cases h
  · intro h
    cases h

theorem Decimal.toDouble_ne_nan (negative : Bool) (d : Decimal) : d.toDouble negative ≠ .nan := by
  rw [toDouble_eq]
  exact Double.ofUnits_ne_nan _ _

/-- The texts that write no number: neither a numeral nor an infinity stands between their blanks. -/
theorem Double.ofText_eq_nan_iff {s : String} : ofText s = .nan ↔
    (∀ n : Numeral, n.chars ≠ Text.strip s.toList) ∧
      Text.strip s.toList ∉ infinityWords.map String.toList := by
  unfold ofText
  dsimp only
  cases hread : ofText? (Text.strip s.toList) with
  | some d =>
    obtain ⟨n, hn, rfl⟩ := ofText?_eq_some_iff.1 hread
    exact iff_of_false (Decimal.toDouble_ne_nan _ _) fun h => h.1 n hn
  | none =>
    have hnumeral : ∀ n : Numeral, n.chars ≠ Text.strip s.toList := fun n hn => by
      rw [ofText?_eq_some_iff.2 ⟨n, hn, rfl⟩] at hread
      cases hread
    simp only [infinityWords, List.map_cons, List.map_nil, List.mem_cons, List.not_mem_nil,
      or_false, hnumeral, ne_eq, not_false_eq_true, implies_true, true_and]
    split
    · grind
    · split <;> grind

end ShelfRules
