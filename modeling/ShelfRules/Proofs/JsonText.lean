import ShelfRules.Json.Printer

/-!
# Written texts are read back

Between its quotes a text is written with escapes for quotes, backslashes and control characters. The
reader turns the characters and escapes into code points, and the code points into characters; no
character is half of a pair, so that nothing is joined that was written apart.

Results:
* `readUnits_escapeChar`: an escaped character is read as its code point.
* `joinUnits_toNat`: code points of characters stand for those characters.
* `readText_escaped`: a text is read back from between its quotes.
-/

namespace ShelfRules.Json

/-! ## Code points -/

variable (stands : Text.Half → Char)

theorem not_isHalf (c : Char) : ¬Text.IsHalf c.toNat := by
  have hv : c.toNat < 0xD800 ∨ 0xDFFF < c.toNat ∧ c.toNat < 0x110000 := c.valid
  unfold Text.IsHalf
  omega

theorem not_isHighSurrogate (c : Char) : isHighSurrogate c.toNat = false := by
  have hc := not_isHalf c
  simp only [isHighSurrogate, Bool.and_eq_false_iff, decide_eq_false_iff_not]
  unfold Text.IsHalf at hc
  omega

theorem ofUnit_toNat (c : Char) : ofUnit stands c.toNat = c := by
  rw [ofUnit, dif_neg (not_isHalf c), Char.ofNat_toNat]

/-- Code points of characters stand for those characters. -/
theorem joinUnits_toNat (s : List Char) : joinUnits stands (s.map Char.toNat) = s := by
  induction s with
  | nil => rfl
  | cons c s ih =>
    cases s with
    | nil => simp [joinUnits, ofUnit_toNat]
    | cons d s =>
      simp only [List.map_cons] at ih ⊢
      simp only [joinUnits, not_isHighSurrogate c, Bool.false_and, Bool.false_eq_true, if_false,
        ofUnit_toNat, ih]

/-! ## Escapes -/

/-- Four hexadecimal digits of a number below `2 ^ 16` are read back. -/
theorem hex4?_hexDigits {n : Nat} (hn : n < 0x10000) :
    ∃ a b c d, Text.hexDigits 4 n = [a, b, c, d] ∧ hex4? a b c d = some n := by
  refine ⟨_, _, _, _, rfl, ?_⟩
  have hread : ∀ k, Text.hexValue? (Text.hexDigit (k % 16)) = some (k % 16) := fun k =>
    Text.hexValue?_hexDigit _ (Nat.mod_lt _ (by decide))
  simp only [hex4?, hread, Option.bind_eq_bind, Option.bind_some, Option.some.injEq]
  omega

/-- A character as it is written between quotes is read as its code point. -/
theorem readUnits_escapeChar (opening : Nat) (c d : Char) (s : List Char) :
    readUnits opening (escapeChar c ++ d :: s) =
      (readUnits opening (d :: s)).map fun (ns, rest) => (c.toNat :: ns, rest) := by
  unfold escapeChar
  split
  · subst_vars; rfl
  split
  · subst_vars; rfl
  split
  · subst_vars; rfl
  split
  · subst_vars; rfl
  split
  · subst_vars; rfl
  split
  · subst_vars; rfl
  split
  · subst_vars; rfl
  split
  · -- a control character stands as its four hexadecimal digits
    rename_i hc
    have hlt : c.toNat < 0x10000 := Nat.lt_trans (show c.toNat < 32 from hc) (by decide)
    obtain ⟨x1, x2, x3, x4, hx, hread⟩ := hex4?_hexDigits hlt
    simp only [hx, List.cons_append, List.nil_append]
    rw [readUnits.eq_def]
    simp only [hread]
  · rename_i hquote hback _ _ _ _ _ hc
    simp only [List.cons_append, List.nil_append]
    rw [readUnits, if_neg hc]
    all_goals simp [hquote, hback]

theorem readUnits_escaped (opening : Nat) (s rest : List Char) :
    readUnits opening (s.flatMap escapeChar ++ '"' :: rest) = .ok (s.map Char.toNat, rest) := by
  induction s with
  | nil => simp [readUnits]
  | cons c s ih =>
    rw [List.flatMap_cons, List.append_assoc]
    cases hs : s.flatMap escapeChar ++ '"' :: rest with
    | nil => simp at hs
    | cons d t => rw [readUnits_escapeChar, ← hs, ih]; rfl

/-- A text is read back from between its quotes. -/
theorem readText_escaped (opening : Nat) (s : String) (rest : List Char) :
    readText stands opening (s.toList.flatMap escapeChar ++ '"' :: rest) = .ok (s, rest) := by
  rw [readText, readUnits_escaped]
  simp [Except.map, joinUnits_toNat]

end ShelfRules.Json
