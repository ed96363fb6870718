import ShelfRules.Text.Character
import ShelfRules.Text.Lowercase
import Mathlib.Data.List.Basic

/-!
# Texts in lower case

A text in lower case is its own lower-case form: the runs of the case table lie so that no form of
one is moved by another. Blanks, signs and digits have no case, and no other character becomes one
of them.

Results:
* `lowered_lowered`: lower-casing a text a second time changes nothing.
* `lowerChar_run`: a character that a run moves is no blank, sign or digit, and becomes none.
-/

namespace ShelfRules.Text

/-! ## The runs of the case table -/

namespace CaseRun

/-- The last lower-case form of the run. -/
def lastTarget (run : CaseRun) : Nat := run.target + (run.last - run.first)

/-- No lower-case form of the first run is moved by the second: they lie apart, or the second moves
every other code point and the forms are the ones between. -/
def misses (run other : CaseRun) : Bool :=
  -- The table has many pairs of runs, and the kernel evaluates `Nat.blt` at once.
  Nat.blt run.lastTarget other.first || Nat.blt other.last run.target ||
    ((run.step == 2 || run.first == run.last) && other.step == 2 &&
      (run.target + other.first) % 2 == 1)

theorem not_has_of_misses {run other : CaseRun} (h : run.misses other = true) {code : Nat}
    (hc : run.has code = true) : other.has (run.target + (code - run.first)) = false := by
  simp only [misses, has, Nat.blt_eq, Bool.or_eq_true, Bool.and_eq_true, decide_eq_true_eq,
    beq_iff_eq] at h hc
  simp only [lastTarget] at h
  obtain ⟨⟨hfirst, hlast⟩, hstep⟩ := hc
  rw [has, Bool.and_eq_false_iff, Bool.and_eq_false_iff, decide_eq_false_iff_not,
    decide_eq_false_iff_not, beq_eq_false_iff_ne]
  rcases h with (h | h) | ⟨⟨h, hother⟩, hparity⟩
  · exact .inl (.inl (by omega))
  · exact .inl (.inr (by omega))
  · rw [hother]
    have heven : (code - run.first) % 2 = 0 := by
      rcases h with h | h
      · rwa [h] at hstep
      · omega
    by_cases hle : other.first ≤ run.target + (code - run.first)
    · exact .inr (by omega)
    · exact .inl (.inl hle)

end CaseRun

theorem caseRuns_misses : ∀ run ∈ caseRuns, ∀ other ∈ caseRuns, run.misses other = true := by
  have hall : (caseRuns.all fun run => caseRuns.all run.misses) = true := by decide +kernel
  simpa only [List.all_eq_true] using hall

/-- The lower-case forms of a run are characters, and none of them is the dotted capital I. -/
theorem caseRuns_valid : ∀ run ∈ caseRuns,
    (run.lastTarget < 0xD800 ∨ 0xDFFF < run.target ∧ run.lastTarget < 0x110000) ∧
      (run.lastTarget < 0x130 ∨ 0x130 < run.target) := by
  decide +kernel

theorem toNat_ofNat_target {run : CaseRun} (hrun : run ∈ caseRuns) {code : Nat}
    (h : run.has code = true) : (Char.ofNat (run.target + (code - run.first))).toNat =
      run.target + (code - run.first) := by
  have hvalid := (caseRuns_valid run hrun).1
  simp only [CaseRun.has, CaseRun.lastTarget, Bool.and_eq_true, decide_eq_true_eq] at h hvalid
  have hchar : Nat.isValidChar (run.target + (code - run.first)) := by
    unfold Nat.isValidChar
    omega
  rw [Char.ofNat, dif_pos hchar]
  rfl

/-! ## Small characters -/

/-- The character is its own lower-case form, and no capital sigma. -/
def IsSmall (c : Char) : Prop := c ≠ 'Σ' ∧ lowerChar c = [c]

instance (c : Char) : Decidable (IsSmall c) := inferInstanceAs (Decidable (_ ∧ _))

/-- A character becomes two, or is moved by a run, or stays. -/
theorem lowerChar_cases (c : Char) :
    (c = '\u0130' ∧ lowerChar c = ['i', '\u0307']) ∨
    (∃ run ∈ caseRuns, run.has c.toNat = true ∧
      lowerChar c = [Char.ofNat (run.target + (c.toNat - run.first))]) ∨
    (∀ run ∈ caseRuns, run.has c.toNat = false) ∧ lowerChar c = [c] := by
  by_cases hi : c = '\u0130'
  · subst hi
    exact .inl ⟨rfl, rfl⟩
  · rw [lowerChar, if_neg hi]
    cases hfind : caseRuns.find? (·.has c.toNat) with
    | some run =>
      exact .inr (.inl ⟨run, List.mem_of_find?_eq_some hfind,
        List.find?_some (p := (CaseRun.has · c.toNat)) hfind, rfl⟩)
    | none =>
      refine .inr (.inr ⟨fun run hrun => ?_, rfl⟩)
      exact Bool.eq_false_iff.2 (List.find?_eq_none.1 hfind run hrun)

theorem isSmall_of_no_run {c : Char} (hi : c ≠ '\u0130')
    (h : ∀ run ∈ caseRuns, run.has c.toNat = false) : IsSmall c := by
  constructor
  · rintro rfl
    have hsigma : ∃ run ∈ caseRuns, run.has 'Σ'.toNat = true := by decide +kernel
    obtain ⟨run, hrun, hhas⟩ := hsigma
    exact Bool.false_ne_true ((h run hrun).symm.trans hhas)
  · have hfind : caseRuns.find? (·.has c.toNat) = none :=
      List.find?_eq_none.2 fun run hrun => Bool.eq_false_iff.1 (h run hrun)
    rw [lowerChar, if_neg hi, hfind]

/-- The lower-case form of a character other than a capital sigma is of small characters. -/
theorem isSmall_of_mem_lowerChar {c d : Char} (hc : c ≠ 'Σ') (h : d ∈ lowerChar c) : IsSmall d := by
  rcases lowerChar_cases c with ⟨rfl, hlower⟩ | ⟨run, hrun, hhas, hlower⟩ | ⟨hnone, hlower⟩
  · rw [hlower] at h
    rcases List.mem_pair.1 h with rfl | rfl <;> decide +kernel
  · rw [hlower, List.mem_singleton] at h
    have hd : d.toNat = run.target + (c.toNat - run.first) := by
      rw [h, toNat_ofNat_target hrun hhas]
    refine isSmall_of_no_run ?_ fun other hother => ?_
    · rintro rfl
      have hvalid := (caseRuns_valid run hrun).2
      have hcode : ('\u0130' : Char).toNat = 0x130 := by decide
      simp only [CaseRun.has, CaseRun.lastTarget, Bool.and_eq_true, decide_eq_true_eq]
        at hhas hvalid
      omega
    · rw [hd]
      exact CaseRun.not_has_of_misses (caseRuns_misses run hrun other hother) hhas
  · rw [hlower, List.mem_singleton] at h
    rw [h]
    exact ⟨hc, hlower⟩

/-- A text in lower case is of small characters. -/
theorem isSmall_of_mem_lowerFrom {d : Char} {s : List Char} {afterCased : Bool}
    (h : d ∈ lowerFrom afterCased s) : IsSmall d := by
  induction s generalizing afterCased with
  | nil => cases h
  | cons c rest ih =>
    rw [lowerFrom] at h
    split at h
    · rcases List.mem_cons.1 h with rfl | h
      · split <;> decide +kernel
      · exact ih h
    · rename_i hc
      rcases List.mem_append.1 h with h | h
      · exact isSmall_of_mem_lowerChar hc h
      · exact ih h

theorem lowerFrom_of_isSmall {s : List Char} (h : ∀ c ∈ s, IsSmall c) (afterCased : Bool) :
    lowerFrom afterCased s = s := by
  induction s generalizing afterCased with
  | nil => rfl
  | cons c rest ih =>
    obtain ⟨hc, hrest⟩ := List.forall_mem_cons.1 h
    rw [lowerFrom_cons_of_ne hc.1, hc.2, ih hrest]
    rfl

theorem lower_lower (s : List Char) : lower (lower s) = lower s :=
  lowerFrom_of_isSmall (fun _ => isSmall_of_mem_lowerFrom) false

theorem toList_lowered (s : String) : (lowered s).toList = lower s.toList := String.toList_ofList

/-- Lower-casing a text a second time changes nothing. -/
theorem lowered_lowered (s : String) : lowered (lowered s) = lowered s := by
  rw [lowered, lowered, String.toList_ofList, lower_lower]

/-! ## Characters without case -/

/-- The signs and digits of ASCII, the blanks, and the digits of all scripts. -/
def caselessRanges : CodeRanges :=
  (0, 0x40) :: (blanks ++ otherDigits ++ zeros.map fun z => (z, z + 9))

/-- The character is a sign or a digit of ASCII, a blank, or a digit of any script. -/
def isCaseless (c : Char) : Bool := caselessRanges.has c

/-- No run moves a character without case, and none moves a character there. -/
theorem caselessRanges_apart : ∀ range ∈ caselessRanges, ∀ run ∈ caseRuns,
    (range.2 < run.first ∨ run.last < range.1) ∧
      (range.2 < run.target ∨ run.lastTarget < range.1) := by
  have hall : (caselessRanges.all fun range => caseRuns.all fun run =>
      (Nat.blt range.2 run.first || Nat.blt run.last range.1) &&
        (Nat.blt range.2 run.target || Nat.blt run.lastTarget range.1)) = true := by decide +kernel
  simpa only [List.all_eq_true, Bool.and_eq_true, Bool.or_eq_true, Nat.blt_eq] using hall

theorem isCaseless_iff {c : Char} : isCaseless c = true ↔
    ∃ range ∈ caselessRanges, range.1 ≤ c.toNat ∧ c.toNat ≤ range.2 := by
  simp [isCaseless, CodeRanges.has]

/-- A run moves no character without case, and moves none there. -/
theorem lowerChar_run {c : Char} {run : CaseRun} (hrun : run ∈ caseRuns)
    (hhas : run.has c.toNat = true) :
    isCaseless c = false ∧
      isCaseless (Char.ofNat (run.target + (c.toNat - run.first))) = false := by
  have hcode := toNat_ofNat_target hrun hhas
  simp only [CaseRun.has, Bool.and_eq_true, decide_eq_true_eq] at hhas
  constructor <;>
  · refine Bool.eq_false_iff.2 fun h => ?_
    obtain ⟨range, hrange, hlow, hhigh⟩ := isCaseless_iff.1 h
    have hapart := caselessRanges_apart range hrange run hrun
    simp only [CaseRun.lastTarget] at hapart
    omega

theorem isCaseless_of_toNat_le {c : Char} (h : c.toNat ≤ 0x40) : isCaseless c = true :=
  isCaseless_iff.2 ⟨_, List.mem_cons_self, Nat.zero_le _, h⟩

theorem isCaseless_of_isDigit {c : Char} (h : c.isDigit = true) : isCaseless c = true := by
  have hcode : 48 ≤ c.toNat ∧ c.toNat ≤ 57 := Char.isDigit_iff_toNat.1 h
  exact isCaseless_of_toNat_le (by omega)

theorem isCaseless_of_isBlank {c : Char} (h : isBlank c = true) : isCaseless c = true := by
  simp only [isBlank, isCaseless, CodeRanges.has, List.any_eq_true] at h ⊢
  obtain ⟨range, hrange, hc⟩ := h
  exact ⟨range, List.mem_cons_of_mem _ (by simp [hrange]), hc⟩

theorem isCaseless_of_isDecimal {c : Char} (h : isDecimal c = true) : isCaseless c = true := by
  unfold isDecimal digitValue? at h
  rw [Option.isSome_map, List.find?_isSome] at h
  obtain ⟨z, hz, hc⟩ := h
  simp only [Bool.and_eq_true, decide_eq_true_eq] at hc
  refine isCaseless_iff.2 ⟨(z, z + 9), ?_, hc.1, by omega⟩
  simp only [caselessRanges, List.mem_cons, List.mem_append, List.mem_map]
  exact .inr (.inr ⟨z, hz, rfl⟩)

theorem isCaseless_of_isDigitLike {c : Char} (h : isDigitLike c = true) : isCaseless c = true := by
  rw [isDigitLike, Bool.or_eq_true] at h
  rcases h with h | h
  · exact isCaseless_of_isDecimal h
  · simp only [isCaseless, CodeRanges.has, List.any_eq_true] at h ⊢
    obtain ⟨range, hrange, hc⟩ := h
    exact ⟨range, List.mem_cons_of_mem _ (by simp [hrange]), hc⟩

end ShelfRules.Text
