import ShelfRules.Proofs.LoweredTexts
import Mathlib.Data.List.Forall2
import Mathlib.Data.List.DropRight

/-!
# Texts that a reader of dates takes alike

A reader of dates compares characters with signs, digits, blanks and the letters of ASCII. For such
a reader a text resembles its lower-case form, but for the markers `W` and `Z` and the two
characters beyond ASCII that become characters of ASCII: the dotted capital I, which becomes two,
and the Kelvin sign.

Results:
* `resembles_lower`: a text without `Z` and the Kelvin sign resembles its lower-case form.
* `unmark_resembles`, `lower_resembles`: a text whose marks alone are in lower case resembles its
  lower-case form, and the other way round.
* `Resembles.takeWhile_eq`, `Resembles.strip`: signs, digits and blanks cut texts that resemble each
  other at the same places.
-/

namespace ShelfRules.Text

/-! ## Characters -/

/-- A reader of dates takes the characters alike: the same sign, digit or blank, the same letter of
ASCII other than a capital `Z`, or two characters beyond ASCII. -/
structure Similar (c d : Char) : Prop where
  eq_of_isCaseless : isCaseless c = true ∨ isCaseless d = true → c = d
  ascii : c.toNat < 128 ↔ d.toNat < 128
  letter : c.toNat < 128 → c.toLower = d.toLower
  notMark : c ≠ 'Z' ∧ d ≠ 'Z'

namespace Similar

variable {c d : Char}

protected theorem refl (h : c ≠ 'Z') : Similar c c := ⟨fun _ => rfl, .rfl, fun _ => rfl, h, h⟩

protected theorem symm (h : Similar c d) : Similar d c :=
  ⟨fun hcd => (h.eq_of_isCaseless hcd.symm).symm, h.ascii.symm,
    fun hd => (h.letter (h.ascii.2 hd)).symm, h.notMark.symm⟩

/-- Beyond ASCII the characters without case alone are told apart. -/
theorem of_not_ascii (hc : 128 ≤ c.toNat) (hd : 128 ≤ d.toNat) (hcase : isCaseless c = false)
    (hcase' : isCaseless d = false) : Similar c d where
  eq_of_isCaseless h := by simp [hcase, hcase'] at h
  ascii := by omega
  letter h := by omega
  notMark := by
    constructor <;> rintro rfl
    · exact absurd hc (by decide)
    · exact absurd hd (by decide)

end Similar

/-- The first run is that of the capitals of ASCII. The others lie beyond ASCII and move there, but
for the one of the Kelvin sign. -/
theorem caseRuns_ascii : ∀ run ∈ caseRuns,
    (run.first = 65 ∧ run.last = 90 ∧ run.target = 97) ∨ (128 ≤ run.first ∧ 128 ≤ run.target) ∨
      (run.first = 0x212A ∧ run.last = 0x212A) := by
  decide +kernel

/-- A capital of ASCII and its small letter are one letter. -/
theorem toLower_capital : ∀ n < 26, (Char.ofNat (65 + n)).toLower = (Char.ofNat (97 + n)).toLower ∧
    (Char.ofNat (65 + n)).toNat < 128 ∧ (Char.ofNat (97 + n)).toNat < 128 ∧
      Char.ofNat (97 + n) ≠ 'Z' := by
  decide

/-- The characters whose case counts for a date: the markers of ISO texts, and the two characters
beyond ASCII that become characters of ASCII in lower case. -/
def marks : List Char := ['W', 'Z', '\u0130', '\u212A']

/-- But for three of the marks a character is similar to what it becomes in lower case. -/
theorem similar_lowerChar {c : Char} (hz : c ≠ 'Z') (hi : c ≠ '\u0130') (hk : c ≠ '\u212A') :
    ∃ d, lowerChar c = [d] ∧ Similar c d := by
  rcases lowerChar_cases c with ⟨rfl, -⟩ | ⟨run, hrun, hhas, hlower⟩ | ⟨-, hlower⟩
  · exact absurd rfl hi
  · refine ⟨_, hlower, ?_⟩
    obtain ⟨hcase, hcase'⟩ := lowerChar_run hrun hhas
    have hcode := toNat_ofNat_target hrun hhas
    simp only [CaseRun.has, Bool.and_eq_true, decide_eq_true_eq] at hhas
    rcases caseRuns_ascii run hrun with
      ⟨hfirst, hlast, htarget⟩ | ⟨hfirst, htarget⟩ | ⟨hfirst, hlast⟩
    · obtain ⟨hletter, hascii, hascii', hmark⟩ := toLower_capital (c.toNat - 65) (by omega)
      have hc : Char.ofNat (65 + (c.toNat - 65)) = c := by
        rw [Nat.add_sub_cancel' (by omega), Char.ofNat_toNat]
      rw [hc] at hletter hascii
      rw [hfirst, htarget] at hcase' ⊢
      exact ⟨fun h => by simp [hcase, hcase'] at h, iff_of_true hascii hascii', fun _ => hletter,
        hz, hmark⟩
    · exact .of_not_ascii (by omega) (by omega) hcase hcase'
    · have hkelvin : c.toNat = '\u212A'.toNat := by
        have hcode : '\u212A'.toNat = 0x212A := by decide
        omega
      exact absurd (Char.toNat_inj.1 hkelvin) hk
  · exact ⟨c, hlower, .refl hz⟩

/-- Both small sigmas resemble the capital one. -/
theorem similar_sigma (final : Bool) : Similar 'Σ' (if final then 'ς' else 'σ') := by
  cases final <;>
  · refine .of_not_ascii ?_ ?_ ?_ ?_ <;> decide +kernel

/-- In lower case a mark is of small characters. -/
theorem isSmall_of_mem_mark {c d : Char} (hc : c ∈ marks) (hd : d ∈ lowerChar c) : IsSmall d := by
  refine isSmall_of_mem_lowerChar ?_ hd
  rintro rfl
  exact absurd hc (by decide)

/-! ## Texts -/

/-- A reader of dates takes the texts alike: their characters are similar, and a dotted capital I
may have become two characters. -/
inductive Resembles : List Char → List Char → Prop
  | nil : Resembles [] []
  | cons {c d : Char} {s l : List Char} : Similar c d → Resembles s l → Resembles (c :: s) (d :: l)
  | dotted {s l : List Char} : Resembles s l → Resembles ('\u0130' :: s) ('i' :: '\u0307' :: l)

/-- The text with its marks alone in lower case. -/
def unmark (s : List Char) : List Char :=
  s.flatMap fun c => if c ∈ marks then lowerChar c else [c]

/-- The string with its marks alone in lower case. -/
def unmarked (s : String) : String := String.ofList (unmark s.toList)

theorem toList_unmarked (s : String) : (unmarked s).toList = unmark s.toList := String.toList_ofList

theorem resembles_lowerFrom {s : List Char} (hz : 'Z' ∉ s) (hk : '\u212A' ∉ s) (afterCased : Bool) :
    Resembles s (lowerFrom afterCased s) := by
  induction s generalizing afterCased with
  | nil => exact .nil
  | cons c rest ih =>
    rw [List.mem_cons, not_or] at hz hk
    have hrest := ih hz.2 hk.2
    rw [lowerFrom]
    split
    · rename_i hc
      subst hc
      exact .cons (similar_sigma _) (hrest _)
    · by_cases hi : c = '\u0130'
      · subst hi
        exact .dotted (hrest _)
      · obtain ⟨d, hlower, hd⟩ := similar_lowerChar (Ne.symm hz.1) hi (Ne.symm hk.1)
        rw [hlower]
        exact .cons hd (hrest _)

/-- A text without `Z` and the Kelvin sign resembles its lower-case form. -/
theorem resembles_lower {s : List Char} (hz : 'Z' ∉ s) (hk : '\u212A' ∉ s) :
    Resembles s (lower s) :=
  resembles_lowerFrom hz hk false

/-- Beside its marks a text and its lower-case form are similar, character by character. -/
theorem similar_unmark (s : List Char) (afterCased : Bool) :
    List.Forall₂ Similar (unmark s) (lowerFrom afterCased s) := by
  induction s generalizing afterCased with
  | nil => exact .nil
  | cons c rest ih =>
    rw [unmark, List.flatMap_cons, ← unmark, lowerFrom]
    split
    · rename_i hmark
      have hsigma : c ≠ 'Σ' := by
        rintro rfl
        exact absurd hmark (by decide)
      rw [if_neg hsigma]
      refine List.rel_append (List.forall₂_same.2 fun d hd => .refl ?_) (ih _)
      rintro rfl
      exact absurd (isSmall_of_mem_mark hmark hd) (by decide +kernel)
    · rename_i hmark
      split
      · rename_i hsigma
        subst hsigma
        exact .cons (similar_sigma _) (ih _)
      · simp only [marks, List.mem_cons, not_or] at hmark
        obtain ⟨d, hlower, hd⟩ := similar_lowerChar hmark.2.1 hmark.2.2.1 hmark.2.2.2.1
        rw [hlower]
        exact .cons hd (ih _)

theorem Resembles.of_similar {s l : List Char} (h : List.Forall₂ Similar s l) : Resembles s l := by
  induction h with
  | nil => exact .nil
  | cons hcd _ ih => exact .cons hcd ih

/-- A text whose marks alone are in lower case resembles its lower-case form. -/
theorem unmark_resembles (s : List Char) : Resembles (unmark s) (lower s) :=
  .of_similar (similar_unmark s false)

/-- The lower-case form of a text resembles the text whose marks alone are in lower case. -/
theorem lower_resembles (s : List Char) : Resembles (lower s) (unmark s) :=
  .of_similar ((similar_unmark s false).flip.imp fun _ _ h => h.symm)

theorem not_mem_unmark (s : List Char) : 'W' ∉ unmark s := by
  intro h
  obtain ⟨c, -, hc⟩ := List.mem_flatMap.1 h
  split at hc
  · rename_i hmark
    exact absurd (isSmall_of_mem_mark hmark hc) (by decide +kernel)
  · rename_i hmark
    rw [List.mem_singleton] at hc
    exact hmark (hc ▸ List.mem_cons_self)

theorem not_mem_lower (s : List Char) : 'W' ∉ lower s := fun h =>
  absurd (isSmall_of_mem_lowerFrom h) (by decide +kernel)

/-! ## Where texts are cut -/

/-- The class is of characters without case, but for `Z`. -/
def IsPlain (q : Char → Bool) : Prop := ∀ c, q c = true → c = 'Z' ∨ isCaseless c = true

section Cuts

variable {q : Char → Bool} {s l : List Char}

namespace Similar

variable {c d : Char}

/-- Of similar characters both are in a plain class, and then they are one. -/
theorem plain (h : Similar c d) (hq : IsPlain q) : q c = q d ∧ (q c = true → c = d) := by
  have heq : q c = true → c = d := fun hc =>
    h.eq_of_isCaseless (.inl ((hq c hc).resolve_left h.notMark.1))
  have heq' : q d = true → c = d := fun hd =>
    h.eq_of_isCaseless (.inr ((hq d hd).resolve_left h.notMark.2))
  refine ⟨?_, heq⟩
  cases hc : q c with
  | true => rw [← heq hc, hc]
  | false =>
    refine (Bool.eq_false_iff.2 fun hd => ?_).symm
    rw [heq' hd, hd] at hc
    cases hc

end Similar

theorem IsPlain.dotted (hq : IsPlain q) :
    q '\u0130' = false ∧ q 'i' = false ∧ q '\u0307' = false := by
  have hcase : ∀ c, c ≠ 'Z' → isCaseless c = false → q c = false := fun c hz hc =>
    Bool.eq_false_iff.2 fun h => by simp [(hq c h).resolve_left hz] at hc
  refine ⟨hcase _ ?_ ?_, hcase _ ?_ ?_, hcase _ ?_ ?_⟩ <;> decide +kernel

theorem isPlain_isBlank : IsPlain isBlank := fun _ h => .inr (isCaseless_of_isBlank h)

theorem rdropWhile_cons (q : Char → Bool) (c : Char) (s : List Char) : (c :: s).rdropWhile q =
    if s.rdropWhile q = [] ∧ q c = true then [] else c :: s.rdropWhile q := by
  simp only [List.rdropWhile, List.reverse_cons, List.dropWhile_append, List.reverse_eq_nil_iff,
    List.isEmpty_iff]
  by_cases hs : s.reverse.dropWhile q = [] <;> cases hc : q c <;> simp [hs, hc]

namespace Resembles

theorem nil_iff (h : Resembles s l) : s = [] ↔ l = [] := by
  cases h <;> simp

/-- The first characters are one plain character, or neither of them is plain. -/
theorem cases_head (h : Resembles s l) (hq : IsPlain q) : (s = [] ∧ l = []) ∨
    (∃ c s' l', s = c :: s' ∧ l = c :: l' ∧ q c = true ∧ Resembles s' l') ∨
    ∃ c s' d l', s = c :: s' ∧ l = d :: l' ∧ q c = false ∧ q d = false := by
  cases h with
  | nil => exact .inl ⟨rfl, rfl⟩
  | @cons c d s' l' hcd hrest =>
    obtain ⟨hq', heq⟩ := hcd.plain hq
    cases hc : q c with
    | true =>
      have hd := heq hc
      subst hd
      exact .inr (.inl ⟨c, s', l', rfl, rfl, hc, hrest⟩)
    | false => exact .inr (.inr ⟨c, s', d, l', rfl, rfl, hc, hq' ▸ hc⟩)
  | dotted _ => exact .inr (.inr ⟨_, _, _, _, rfl, rfl, hq.dotted.1, hq.dotted.2.1⟩)

theorem all_eq (h : Resembles s l) (hq : IsPlain q) : s.all q = l.all q := by
  induction h with
  | nil => rfl
  | cons hcd _ ih => rw [List.all_cons, List.all_cons, (hcd.plain hq).1, ih]
  | dotted _ _ => simp [hq.dotted]

theorem takeWhile_eq (h : Resembles s l) (hq : IsPlain q) : s.takeWhile q = l.takeWhile q := by
  induction h with
  | nil => rfl
  | @cons c d s' l' hcd _ ih =>
    obtain ⟨hq', heq⟩ := hcd.plain hq
    cases hc : q c with
    | true => rw [← heq hc, List.takeWhile_cons_of_pos hc, List.takeWhile_cons_of_pos hc, ih]
    | false => simp [hc, ← hq']
  | dotted _ _ => simp [hq.dotted]

theorem drop (h : Resembles s l) (hq : IsPlain q) {n : Nat} (hn : n ≤ (s.takeWhile q).length) :
    Resembles (s.drop n) (l.drop n) := by
  induction h generalizing n with
  | nil => simpa using nil
  | @cons c d s' l' hcd hrest ih =>
    cases n with
    | zero => exact cons hcd hrest
    | succ n =>
      refine ih ?_
      cases hc : q c with
      | true => simpa [hc] using hn
      | false => simp [hc] at hn
  | dotted hrest _ =>
    rw [List.takeWhile_cons_of_neg (by simp [hq.dotted]), List.length_nil, Nat.le_zero] at hn
    subst hn
    exact dotted hrest

theorem dropWhile (h : Resembles s l) (hq : IsPlain q) :
    Resembles (s.dropWhile q) (l.dropWhile q) := by
  induction h with
  | nil => exact nil
  | @cons c d s' l' hcd hrest ih =>
    have hq' := (hcd.plain hq).1
    cases hc : q c with
    | true => simpa [hc, ← hq'] using ih
    | false => simpa [hc, ← hq'] using cons hcd hrest
  | dotted hrest _ => simpa [hq.dotted] using dotted hrest

/-- The first plain character cuts both texts. -/
theorem span_not (h : Resembles s l) (hq : IsPlain q) :
    Resembles (s.takeWhile (!q ·)) (l.takeWhile (!q ·)) ∧
      Resembles (s.dropWhile (!q ·)) (l.dropWhile (!q ·)) := by
  induction h with
  | nil => exact ⟨nil, nil⟩
  | @cons c d s' l' hcd hrest ih =>
    have hq' := (hcd.plain hq).1
    cases hc : q c with
    | true => simpa [hc, ← hq'] using ⟨nil, cons hcd hrest⟩
    | false => simpa [hc, ← hq'] using ⟨cons hcd ih.1, ih.2⟩
  | dotted _ ih => simpa [hq.dotted] using ⟨dotted ih.1, ih.2⟩

theorem stripEnd (h : Resembles s l) (hq : IsPlain q) :
    Resembles (s.rdropWhile q) (l.rdropWhile q) := by
  induction h with
  | nil => exact nil
  | @cons c d s' l' hcd _ ih =>
    rw [rdropWhile_cons, rdropWhile_cons, (hcd.plain hq).1]
    simp only [ih.nil_iff]
    split
    · exact nil
    · exact cons hcd ih
  | dotted _ ih => simpa [rdropWhile_cons, hq.dotted] using dotted ih

theorem strip (h : Resembles s l) : Resembles (strip s) (strip l) :=
  (h.dropWhile isPlain_isBlank).stripEnd isPlain_isBlank

end Resembles

end Cuts

end ShelfRules.Text
