import Mathlib.Data.List.TakeWhile
import ShelfRules.Json.Printer
import ShelfRules.Proofs.DecimalReading

/-!
# Written numbers are read back

A double is written with the fewest digits that tell it from its neighbours, as a plain decimal or
with an exponent; an integer is written with all its digits. The reader of JSON takes both back,
whatever stands behind them, as long as that cannot be taken for more of the number.

Results:
* `significant_spec`: the digits of a number are its significant ones and zeros.
* `readsUnits_decimalText`: the layout of a decimal is read as a decimal of the same units.
* `readScalar_double`: every double, a NaN and the infinities included, is read back as itself.
* `readScalar_integer`: so is every integer that is not too long to be written.
-/

namespace ShelfRules

/-! ## Significant digits -/

theorem eq_replicate_of_all_zero {s : List Char} (h : ∀ c ∈ s, (c == '0') = true) :
    s = List.replicate s.length '0' :=
  List.eq_replicate_of_mem fun c hc => by simpa using h c hc

/-- The first digit of a positive number is no zero. -/
theorem toDigits_head_ne_zero {n : Nat} (hn : n ≠ 0) : (Nat.toDigits 10 n).head? ≠ some '0' := by
  induction n using Nat.strongRecOn with
  | _ n ih =>
    by_cases hlt : n < 10
    · rw [Nat.toDigits_of_lt_base hlt]
      have : ∀ m, m < 10 → m ≠ 0 → [m.digitChar].head? ≠ some '0' := by decide
      exact this n hlt hn
    · rw [Nat.toDigits_of_base_le (by decide) (by omega), List.head?_append]
      have hrest := ih (n / 10) (by omega) (by omega)
      cases hd : (Nat.toDigits 10 (n / 10)).head? with
      | none => exact absurd (List.head?_eq_none_iff.1 hd) Nat.toDigits_ne_nil
      | some c => rw [hd] at hrest; exact hrest

namespace Double

/-- The digits of a number are its significant ones, and zeros behind them. -/
theorem toDigits_eq_significant (n : Nat) :
    ∃ k, Nat.toDigits 10 n = significant n ++ List.replicate k '0' := by
  have hzeros := eq_replicate_of_all_zero
    (s := (Nat.toDigits 10 n).reverse.takeWhile (· == '0')) fun c hc =>
      List.mem_takeWhile_imp (p := (· == '0')) hc
  refine ⟨((Nat.toDigits 10 n).reverse.takeWhile (· == '0')).length, ?_⟩
  have hsplit := congrArg List.reverse
    (List.takeWhile_append_dropWhile (p := (· == '0')) (l := (Nat.toDigits 10 n).reverse))
  rw [List.reverse_append, List.reverse_reverse, hzeros, List.reverse_replicate] at hsplit
  exact hsplit.symm

/-- The significant digits of a positive number start with a digit that is no zero, and the number
    is theirs times a power of ten. -/
theorem significant_spec {n : Nat} (hn : n ≠ 0) :
    ∃ c ds k, significant n = c :: ds ∧ c ≠ '0' ∧ (∀ d ∈ c :: ds, d.isDigit = true) ∧
      n = Nat.ofDigitChars 10 (c :: ds) 0 * 10 ^ k ∧
      (Nat.toDigits 10 n).length = (c :: ds).length + k := by
  obtain ⟨k, hk⟩ := toDigits_eq_significant n
  have hvalue : n = Nat.ofDigitChars 10 (significant n) 0 * 10 ^ k := by
    have h := Nat.ofDigitChars_ten_toDigits (n := n)
    rw [hk, Nat.ofDigitChars_append, Nat.ofDigitChars_replicate_zero, Nat.mul_comm] at h
    exact h.symm
  have hdigits : ∀ d ∈ significant n, d.isDigit = true := fun d hd =>
    Nat.isDigit_of_mem_toDigits (b := 10) (n := n) (by decide) (by decide)
      (hk ▸ List.mem_append_left _ hd)
  cases hs : significant n with
  | nil => rw [hs] at hvalue; simp at hvalue; exact absurd hvalue hn
  | cons c ds =>
    rw [hs] at hvalue hdigits hk
    refine ⟨c, ds, k, rfl, ?_, hdigits, hvalue, ?_⟩
    · have hhead := toDigits_head_ne_zero hn
      rw [hk] at hhead
      simpa using hhead
    · rw [hk, List.length_append, List.length_replicate]

end Double

namespace Json

/-! ## What ends a number -/

/-- No digit stands in front. -/
def NoDigit (s : List Char) : Prop := ∀ c ∈ s.head?, c.isDigit = false

/-- What stands in front is no more of a number. -/
def EndsNumber (s : List Char) : Prop :=
  ∀ c ∈ s.head?, c.isDigit = false ∧ c ≠ '.' ∧ c ≠ 'e' ∧ c ≠ 'E'

theorem EndsNumber.noDigit {s : List Char} (h : EndsNumber s) : NoDigit s :=
  fun c hc => (h c hc).1

theorem noDigit_cons {c : Char} {s : List Char} (h : c.isDigit = false) : NoDigit (c :: s) := by
  intro d hd
  cases hd
  exact h

theorem takeWhile_digits {ds s : List Char} (hds : ∀ c ∈ ds, c.isDigit = true) (hs : NoDigit s) :
    (ds ++ s).takeWhile Char.isDigit = ds := by
  rw [List.takeWhile_append_of_pos hds]
  cases s with
  | nil => simp
  | cons c t => simp [hs c rfl]

theorem dropWhile_digits {ds s : List Char} (hds : ∀ c ∈ ds, c.isDigit = true) (hs : NoDigit s) :
    (ds ++ s).dropWhile Char.isDigit = s := by
  rw [List.dropWhile_append_of_pos hds]
  cases s with
  | nil => rfl
  | cons c t => simp [hs c rfl]

/-! ## The parts of a number -/

/-- The digits before the point: a zero alone, or digits that start with none. -/
def IsWhole (s : List Char) : Prop :=
  s = ['0'] ∨ ∃ c ds, s = c :: ds ∧ c ≠ '0' ∧ ∀ d ∈ c :: ds, d.isDigit = true

theorem readIntegerDigits_append {whole s : List Char} (hw : IsWhole whole) (hs : NoDigit s) :
    readIntegerDigits (whole ++ s) = some (whole, s) := by
  obtain rfl | ⟨c, ds, rfl, hc, hds⟩ := hw
  · rfl
  · have hcd : c.isDigit = true := hds c List.mem_cons_self
    have htail : ∀ d ∈ ds, d.isDigit = true := fun d hd => hds d (List.mem_cons_of_mem c hd)
    rw [List.cons_append, readIntegerDigits.eq_2 _ _ (by simpa using hc), if_pos hcd,
      takeWhile_digits htail hs, dropWhile_digits htail hs]

theorem readFractionDigits_append {ds s : List Char} (hne : ds ≠ [])
    (hds : ∀ c ∈ ds, c.isDigit = true) (hs : NoDigit s) :
    readFractionDigits ('.' :: (ds ++ s)) = (ds, s) := by
  cases ds with
  | nil => exact absurd rfl hne
  | cons c ds =>
    have hcd : c.isDigit = true := hds c List.mem_cons_self
    have htail : ∀ d ∈ ds, d.isDigit = true := fun d hd => hds d (List.mem_cons_of_mem c hd)
    simp only [List.cons_append, readFractionDigits, hcd, if_true, takeWhile_digits htail hs,
      dropWhile_digits htail hs]

theorem readFractionDigits_none {s : List Char} (hs : ∀ c ∈ s.head?, c ≠ '.') :
    readFractionDigits s = ([], s) := by
  unfold readFractionDigits
  split
  · exact absurd rfl (hs '.' rfl)
  · rfl

theorem readExponent_none {s : List Char} (hs : ∀ c ∈ s.head?, c ≠ 'e' ∧ c ≠ 'E') :
    readExponent s = (none, s) := by
  cases s with
  | nil => rfl
  | cons c t =>
    obtain ⟨he, hE⟩ := hs c rfl
    simp [readExponent, he, hE]

theorem readExponent_append (negative : Bool) {ds s : List Char} (hne : ds ≠ [])
    (hds : ∀ c ∈ ds, c.isDigit = true) (hs : NoDigit s) :
    readExponent ('e' :: (if negative then '-' else '+') :: (ds ++ s)) =
      (some (if negative then -(Nat.ofDigitChars 10 ds 0 : Int) else Nat.ofDigitChars 10 ds 0),
        s) := by
  cases negative <;>
    simp [readExponent, takeWhile_digits hds hs, dropWhile_digits hds hs, hne]

/-- A number without a sign stands in front: its digits before and behind the point, its exponent,
    and the text behind it. -/
def HasParts (s whole fraction : List Char) (exponent : Option Int) (rest : List Char) : Prop :=
  ∃ t u, readIntegerDigits s = some (whole, t) ∧ readFractionDigits t = (fraction, u) ∧
    readExponent u = (exponent, rest)

theorem hasParts_fraction {whole fraction rest : List Char} (hw : IsWhole whole)
    (hne : fraction ≠ []) (hf : ∀ c ∈ fraction, c.isDigit = true) (hr : EndsNumber rest) :
    HasParts (whole ++ '.' :: (fraction ++ rest)) whole fraction none rest :=
  ⟨_, _, readIntegerDigits_append hw (noDigit_cons rfl),
    readFractionDigits_append hne hf hr.noDigit,
    readExponent_none fun c hc => (hr c hc).2.2⟩

theorem hasParts_integer {whole rest : List Char} (hw : IsWhole whole) (hr : EndsNumber rest) :
    HasParts (whole ++ rest) whole [] none rest :=
  ⟨_, _, readIntegerDigits_append hw hr.noDigit,
    readFractionDigits_none fun c hc => (hr c hc).2.1,
    readExponent_none fun c hc => (hr c hc).2.2⟩

/-! ## The layout of a decimal -/

/-- The value of the parts of a number, in units. -/
def partsUnits (whole fraction : List Char) (exponent : Option Int) : Nat :=
  Decimal.units ⟨Nat.ofDigitChars 10 (whole ++ fraction) 0, exponent.getD 0 - fraction.length⟩

/-- A text without sign is read as a double of so many units. -/
def ReadsUnits (s : List Char) (units : Nat) (rest : List Char) : Prop :=
  ∃ whole fraction exponent, HasParts s whole fraction exponent rest ∧
    ¬(fraction = [] ∧ exponent = none) ∧ partsUnits whole fraction exponent = units

theorem isDigit_of_mem_zeros {k : Nat} {d : Char} (h : d ∈ List.replicate k '0') :
    d.isDigit = true := by
  rw [List.eq_of_mem_replicate h]; rfl

section Layout

variable {c : Char} {ds rest : List Char} (hc : c ≠ '0') (hds : ∀ d ∈ c :: ds, d.isDigit = true)
  (hr : EndsNumber rest)
include hds hr

/-- All digits stand behind the point, zeros in front of them. -/
theorem readsUnits_behindPoint (k : Nat) :
    ReadsUnits (['0'] ++ '.' :: (List.replicate k '0' ++ c :: ds ++ rest))
      (Decimal.units ⟨Nat.ofDigitChars 10 (c :: ds) 0, -k - (c :: ds).length⟩) rest := by
  have hf : ∀ d ∈ List.replicate k '0' ++ c :: ds, d.isDigit = true := fun d hd => by
    rcases List.mem_append.1 hd with hd | hd
    · exact isDigit_of_mem_zeros hd
    · exact hds d hd
  refine ⟨['0'], _, none, hasParts_fraction (.inl rfl) (by simp) hf hr, by simp, ?_⟩
  unfold partsUnits
  congr 2
  · rw [Nat.ofDigitChars_append, Nat.ofDigitChars_append, Nat.ofDigitChars_replicate_zero]
    simp [Nat.ofDigitChars_cons]
  · simp only [List.length_append, List.length_replicate, Option.getD_none]
    omega

include hc

/-- All digits stand before the point, zeros behind them. -/
theorem readsUnits_beforePoint (k : Nat) :
    ReadsUnits (c :: ds ++ List.replicate k '0' ++ '.' :: (['0'] ++ rest))
      (Decimal.units ⟨Nat.ofDigitChars 10 (c :: ds) 0, k⟩) rest := by
  have hw : IsWhole (c :: ds ++ List.replicate k '0') := by
    refine .inr ⟨c, _, rfl, hc, fun d hd => ?_⟩
    rcases List.mem_append.1 (show d ∈ c :: ds ++ _ from hd) with hd | hd
    · exact hds d hd
    · exact isDigit_of_mem_zeros hd
  refine ⟨_, ['0'], none, hasParts_fraction hw (by simp) (List.forall_mem_singleton.2 rfl) hr, by simp, ?_⟩
  have hvalue : Nat.ofDigitChars 10 (c :: ds ++ List.replicate k '0' ++ ['0']) 0 =
      Nat.ofDigitChars 10 (c :: ds) 0 * 10 ^ (k + 1) := by
    rw [List.append_assoc, ← List.replicate_succ', Nat.ofDigitChars_append,
      Nat.ofDigitChars_replicate_zero, Nat.mul_comm]
  unfold partsUnits
  rw [hvalue, Decimal.units_shift]
  congr 2
  simp only [List.length_singleton, Option.getD_none]
  omega

/-- The point stands among the digits, `k` of them and the first one before it. -/
theorem readsUnits_aroundPoint {k : Nat} (hk : k < ds.length) :
    ReadsUnits (c :: ds.take k ++ '.' :: (ds.drop k ++ rest))
      (Decimal.units ⟨Nat.ofDigitChars 10 (c :: ds) 0, (k : Int) + 1 - (c :: ds).length⟩) rest := by
  have hw : IsWhole (c :: ds.take k) := by
    refine .inr ⟨c, _, rfl, hc, fun d hd => ?_⟩
    rcases List.mem_cons.1 hd with rfl | hd
    · exact hds d List.mem_cons_self
    · exact hds d (List.mem_cons_of_mem c (List.mem_of_mem_take hd))
  have hne : ds.drop k ≠ [] := by
    rw [ne_eq, List.drop_eq_nil_iff]
    omega
  have hf : ∀ d ∈ ds.drop k, d.isDigit = true := fun d hd =>
    hds d (List.mem_cons_of_mem c (List.mem_of_mem_drop hd))
  refine ⟨_, _, none, hasParts_fraction hw hne hf hr, by simp [hne], ?_⟩
  unfold partsUnits
  rw [List.cons_append, List.take_append_drop]
  congr 2
  simp only [List.length_drop, List.length_cons, Option.getD_none]
  omega

theorem readsUnits_positional (point : Int) :
    ReadsUnits (Double.positional (c :: ds) point ++ rest)
      (Decimal.units ⟨Nat.ofDigitChars 10 (c :: ds) 0, point - (c :: ds).length⟩) rest := by
  unfold Double.positional
  split
  · rename_i hp
    have h := readsUnits_behindPoint hds hr (-point).toNat
    rw [show (-((-point).toNat : Int)) = point by omega] at h
    simpa using h
  · rename_i hp
    split
    · rename_i hl
      have h := readsUnits_beforePoint hc hds hr (point.toNat - (c :: ds).length)
      rw [show ((point.toNat - (c :: ds).length : Nat) : Int) = point - (c :: ds).length by omega]
        at h
      simpa using h
    · rename_i hl
      obtain ⟨k, hk⟩ : ∃ k, point.toNat = k + 1 := ⟨point.toNat - 1, by omega⟩
      rw [hk] at hl ⊢
      rw [List.length_cons] at hl
      have h := readsUnits_aroundPoint hc hds hr (show k < ds.length by omega)
      rw [show (k : Int) + 1 = point by omega] at h
      simpa using h

theorem readsUnits_scientific (exponent : Int) :
    ReadsUnits (Double.scientific (c :: ds) exponent ++ rest)
      (Decimal.units ⟨Nat.ofDigitChars 10 (c :: ds) 0, exponent + 1 - (c :: ds).length⟩) rest := by
  generalize hk : 2 - (Nat.toDigits 10 exponent.natAbs).length = k
  have hsize : ∀ d ∈ List.replicate k '0' ++ Nat.toDigits 10 exponent.natAbs,
      d.isDigit = true := fun d hd => by
    rcases List.mem_append.1 hd with hd | hd
    · exact isDigit_of_mem_zeros hd
    · exact Nat.isDigit_of_mem_toDigits (by decide) (by decide) hd
  have hvalue : Nat.ofDigitChars 10 (List.replicate k '0' ++ Nat.toDigits 10 exponent.natAbs) 0 =
      exponent.natAbs := by
    rw [Nat.ofDigitChars_append, Nat.ofDigitChars_replicate_zero, Nat.mul_zero,
      Nat.ofDigitChars_ten_toDigits]
  have hread := readExponent_append (decide (exponent < 0)) (s := rest)
    (by simp [Nat.toDigits_ne_nil]) hsize hr.noDigit
  have hsign : (some (if exponent < 0 then -(exponent.natAbs : Int) else exponent.natAbs)) =
      some exponent := by
    congr 1; split <;> omega
  simp only [hvalue, decide_eq_true_eq, hsign] at hread
  have hone : IsWhole [c] :=
    .inr ⟨c, [], rfl, hc, by simpa using hds c List.mem_cons_self⟩
  have htext : Double.scientific (c :: ds) exponent ++ rest =
      [c] ++ ((if ds = [] then [] else '.' :: ds) ++ 'e' :: (if exponent < 0 then '-' else '+') ::
        (List.replicate k '0' ++ Nat.toDigits 10 exponent.natAbs ++ rest)) := by
    cases ds <;> simp [Double.scientific, hk]
  rw [htext]
  refine ⟨[c], ds, some exponent, ?_, by simp, ?_⟩
  · cases ds with
    | nil =>
      exact ⟨_, _, readIntegerDigits_append hone (noDigit_cons rfl),
        readFractionDigits_none (by simp), hread⟩
    | cons d ds =>
      have hf : ∀ x ∈ d :: ds, x.isDigit = true := fun x hx => hds x (List.mem_cons_of_mem c hx)
      exact ⟨_, _, readIntegerDigits_append hone (noDigit_cons rfl),
        readFractionDigits_append (by simp) hf (noDigit_cons rfl), hread⟩
  · unfold partsUnits
    congr 2
    simp only [List.length_cons, Option.getD_some]
    omega

end Layout

/-- The layout of a positive decimal is read as a double of the same units. -/
theorem readsUnits_decimalText {d : Decimal} (hd : d.digits ≠ 0) {rest : List Char}
    (hr : EndsNumber rest) : ReadsUnits (Double.decimalText d ++ rest) d.units rest := by
  obtain ⟨c, ds, k, hs, hc, hds, hvalue, hlength⟩ := Double.significant_spec hd
  have hunits : d.units = Decimal.units ⟨Nat.ofDigitChars 10 (c :: ds) 0, d.exponent + k⟩ := by
    rw [← Decimal.units_shift, ← hvalue]
  generalize hx : d.exponent + (Nat.toDigits 10 d.digits).length - 1 = exponent
  have hexp : d.exponent + k = exponent + 1 - (c :: ds).length := by omega
  rw [hunits, hexp]
  unfold Double.decimalText
  simp only [hs, hx]
  split
  · exact readsUnits_positional hc hds hr _
  · exact readsUnits_scientific hc hds hr _

/-! ## Numbers -/

theorem readIntegerDigits_head {s : List Char} {r : List Char × List Char}
    (h : readIntegerDigits s = some r) : ∃ c t, s = c :: t ∧ c.isDigit = true := by
  match s, h with
  | '0' :: t, _ => exact ⟨'0', t, rfl, rfl⟩
  | c :: t, h =>
    by_cases hc : c.isDigit = true
    · exact ⟨c, t, rfl, hc⟩
    · rw [readIntegerDigits.eq_def] at h
      split at h
      · rename_i heq
        cases heq
        exact absurd rfl hc
      · rename_i heq
        cases heq
        rw [if_neg hc] at h
        cases h
      · cases h

/-- No word stands where a number starts. -/
theorem readLiteral_of_digit {c : Char} (hc : c.isDigit = true) (negative : Bool) (t : List Char) :
    readLiteral ((if negative then ['-'] else []) ++ c :: t) = none := by
  have hne : c ≠ 'n' ∧ c ≠ 't' ∧ c ≠ 'f' ∧ c ≠ 'N' ∧ c ≠ 'I' ∧ c ≠ '-' := by
    refine ⟨?_, ?_, ?_, ?_, ?_, ?_⟩ <;> (rintro rfl; revert hc; decide)
  obtain ⟨h1, h2, h3, h4, h5, h6⟩ := hne
  cases negative <;>
    simp [readLiteral, literals, afterWord?, h1.symm, h2.symm, h3.symm, h4.symm, h5.symm, h6.symm]

/-- A sign and the parts of a number are read as the number of them. -/
theorem readScalar_of_hasParts {s whole fraction rest : List Char} {exponent : Option Int}
    (h : HasParts s whole fraction exponent rest) (negative : Bool) :
    readScalar ((if negative then ['-'] else []) ++ s) =
      (numberOf negative whole fraction exponent).map (·, rest) := by
  obtain ⟨t, u, hw, hf, he⟩ := h
  obtain ⟨c, s, rfl, hc⟩ := readIntegerDigits_head hw
  have hminus : c ≠ '-' := by rintro rfl; revert hc; decide
  unfold readScalar
  rw [readLiteral_of_digit hc]
  cases negative with
  | true => simp [readNumber, hw, hf, he]
  | false => simp [readNumber, hw, hf, he, hminus]

/-- Every double is read back from its text. -/
theorem readScalar_double (d : Double) {rest : List Char} (hr : EndsNumber rest) :
    readScalar (d.chars words ++ rest) = .ok (.float d, rest) := by
  cases d with
  | nan => simp [readScalar, readLiteral, literals, afterWord?, Double.chars, words]
  | infinite negative =>
    cases negative <;> simp [readScalar, readLiteral, literals, afterWord?, Double.chars, words]
  | finite negative units fits =>
    obtain ⟨whole, fraction, exponent, hparts, hfloat, hunits⟩ :
        ReadsUnits (Double.unitsText units ++ rest) units rest := by
      unfold Double.unitsText
      split
      · rename_i h0
        subst h0
        refine ⟨['0'], ['0'], none, hasParts_fraction (.inl rfl) (by simp)
          (List.forall_mem_singleton.2 rfl) hr, by simp, ?_⟩
        exact Decimal.units_of_digits_eq_zero rfl
      · rename_i h0
        have hshort := Double.units_shortest fits
        have hd : (Double.shortest units).digits ≠ 0 := fun h =>
          h0 (hshort ▸ Decimal.units_of_digits_eq_zero h)
        have h := readsUnits_decimalText hd hr
        rwa [hshort] at h
    unfold Double.chars
    dsimp only
    rw [List.append_assoc, readScalar_of_hasParts hparts]
    unfold numberOf
    rw [if_neg hfloat, Decimal.toDouble_eq]
    have hd : Decimal.units ⟨Nat.ofDigitChars 10 (whole ++ fraction) 0,
        exponent.getD 0 - fraction.length⟩ = units := hunits
    rw [hd, Double.ofUnits_of_fits fits]
    rfl

theorem isWhole_toDigits (n : Nat) : IsWhole (Nat.toDigits 10 n) := by
  by_cases hn : n = 0
  · subst hn; exact .inl rfl
  · have hhead := toDigits_head_ne_zero hn
    cases hd : Nat.toDigits 10 n with
    | nil => exact absurd hd Nat.toDigits_ne_nil
    | cons c ds =>
      rw [hd] at hhead
      refine .inr ⟨c, ds, rfl, by simpa using hhead, fun d h => ?_⟩
      exact Nat.isDigit_of_mem_toDigits (b := 10) (n := n) (by decide) (by decide) (hd ▸ h)

theorem length_toDigits_of_not_long {n : Int} (h : isLongInteger n = false) :
    (Nat.toDigits 10 n.natAbs).length ≤ maxIntegerDigits := by
  unfold isLongInteger at h
  rw [Nat.length_toDigits_le_iff (by decide) (by decide)]
  simpa using h

/-- Every integer that is not too long is read back from its digits. -/
theorem readScalar_integer {n : Int} (hn : isLongInteger n = false) {rest : List Char}
    (hr : EndsNumber rest) : readScalar (integerChars n ++ rest) = .ok (.int n, rest) := by
  have hparts := hasParts_integer (isWhole_toDigits n.natAbs) hr
  have hread := readScalar_of_hasParts hparts (decide (n < 0))
  unfold integerChars
  simp only [decide_eq_true_eq] at hread
  rw [List.append_assoc, hread]
  unfold numberOf
  rw [if_pos ⟨rfl, rfl⟩, if_neg (Nat.not_lt.2 (length_toDigits_of_not_long hn)),
    Nat.ofDigitChars_ten_toDigits]
  simp only [decide_eq_true_eq, Except.map, Except.ok.injEq, Prod.mk.injEq, Value.int.injEq, and_true]
  split <;> omega

end Json

end ShelfRules
