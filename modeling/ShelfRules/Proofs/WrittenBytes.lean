import ShelfRules.Proofs.JsonDocuments
import ShelfRules.Text.Utf8

/-!
# Texts in bytes are read back

A character stands as one to four bytes. The first byte tells how many follow, each of which holds six
bits of the code point; the decoder finds the bytes in the places that they may have, since no
character is written longer than it has to be. What it reads is a text whose bytes these are.

Results:
* `decodeFrom_utf8EncodeChar`: the bytes of a character are read as the character.
* `decode_encode`: a text is read back from its bytes.
* `decode_eq_ok_iff`: bytes are read as a text exactly when they are its bytes.
-/

namespace ShelfRules.Text.Utf8

/-! ## Bytes -/

/-- The bytes of an array in front of which some have been listed. -/
theorem toList_loop (bytes : ByteArray) (i : Nat) (listed : List UInt8) :
    ByteArray.toList.loop bytes i listed = listed.reverse ++ bytes.data.toList.drop i := by
  fun_induction ByteArray.toList.loop bytes i listed with
  | case1 i listed h ih =>
    have hi : i < bytes.data.toList.length := by simpa using h
    rw [ih, List.drop_eq_getElem_cons hi]
    simp [ByteArray.get!, h]
  | case2 i listed h =>
    rw [List.drop_eq_nil_of_le (by simpa using Nat.le_of_not_lt h), List.append_nil]

theorem toList_toByteArray (bytes : List UInt8) : bytes.toByteArray.toList = bytes := by
  rw [ByteArray.toList, toList_loop, List.toList_data_toByteArray]
  rfl

/-- The bytes of a text are those of its characters. -/
theorem encode_eq (s : String) : encode s = s.toList.flatMap String.utf8EncodeChar := by
  have hbytes : (String.ofList s.toList).toUTF8 =
      (s.toList.flatMap String.utf8EncodeChar).toByteArray := rfl
  rw [String.ofList_toList] at hbytes
  rw [encode, hbytes, toList_toByteArray]

/-! ## Characters -/

theorem toNat_ofNat {n : Nat} (h : n < 256) : (UInt8.ofNat n).toNat = n := by
  rw [UInt8.toNat_ofNat', Nat.mod_eq_of_lt h]

/-- A byte that holds six bits of a code point. -/
theorem isContinuation_iff {b : UInt8} :
    isContinuation b = true ↔ 0x80 ≤ b.toNat ∧ b.toNat ≤ 0xBF := by
  simp [isContinuation, UInt8.le_iff_toNat_le]

/-- A byte that may stand second: behind the lowest starts and the highest ones not every continuation may. -/
theorem isSecond_iff {a b : UInt8} : isSecond a b = true ↔ isContinuation b = true ∧
    (a.toNat = 0xE0 → 0xA0 ≤ b.toNat) ∧ (a.toNat = 0xED → b.toNat < 0xA0) ∧
    (a.toNat = 0xF0 → 0x90 ≤ b.toNat) ∧ (a.toNat = 0xF4 → b.toNat < 0x90) := by
  simp only [isSecond, Bool.and_eq_true, ← UInt8.toNat_inj]
  refine and_congr_right fun _ => ?_
  split
  · rename_i h
    simp [h, UInt8.le_iff_toNat_le]
  split
  · rename_i h
    simp [h, UInt8.lt_iff_toNat_lt]
  split
  · rename_i h
    simp [h, UInt8.le_iff_toNat_le]
  split
  · rename_i h
    simp [h, UInt8.lt_iff_toNat_lt]
  · simp_all

variable {a b c d : UInt8} {position : Nat} {rest : List UInt8}

theorem decodeFrom_one (ha : a.toNat < 0x80) : decodeFrom position (a :: rest) =
    (decodeFrom (position + 1) rest).map (Char.ofNat a.toNat :: ·) := by
  have hone : a < 0x80 := UInt8.lt_iff_toNat_lt.2 ha
  rw [decodeFrom.eq_def]
  exact if_pos hone

/-- The bytes that can start several, if they do not stand alone. -/
theorem several_iff : ¬(a < 0xC2 || 0xF4 < a) = true ↔ 0xC2 ≤ a.toNat ∧ a.toNat ≤ 0xF4 := by
  simp only [UInt8.lt_iff_toNat_lt, Bool.or_eq_true, decide_eq_true_eq, UInt8.reduceToNat]
  omega

/-- A byte that starts several neither stands alone nor starts nothing. -/
theorem starts_several (hlow : 0xC2 ≤ a.toNat) (hhigh : a.toNat ≤ 0xF4) :
    ¬a < 0x80 ∧ ¬(a < 0xC2 || 0xF4 < a) = true := by
  refine ⟨?_, several_iff.2 ⟨hlow, hhigh⟩⟩
  simp only [UInt8.lt_iff_toNat_lt, UInt8.reduceToNat]
  omega

theorem decodeFrom_two (hlow : 0xC2 ≤ a.toNat) (hhigh : a.toNat < 0xE0)
    (hb : isContinuation b = true) : decodeFrom position (a :: b :: rest) =
      (decodeFrom (position + 2) rest).map (assemble (a.toNat % 32) [b] :: ·) := by
  obtain ⟨hone, hstart⟩ := starts_several hlow (by omega)
  have htwo : a < 0xE0 := UInt8.lt_iff_toNat_lt.2 hhigh
  rw [decodeFrom, if_neg hone, if_neg hstart, if_pos htwo, if_pos hb]

theorem decodeFrom_three (hlow : 0xE0 ≤ a.toNat) (hhigh : a.toNat < 0xF0)
    (hb : isSecond a b = true) (hc : isContinuation c = true) :
    decodeFrom position (a :: b :: c :: rest) =
      (decodeFrom (position + 3) rest).map (assemble (a.toNat % 16) [b, c] :: ·) := by
  obtain ⟨hone, hstart⟩ := starts_several (a := a) (by omega) (by omega)
  have htwo : ¬a < 0xE0 := mt UInt8.lt_iff_toNat_lt.1 (Nat.not_lt.2 hlow)
  have hthree : a < 0xF0 := UInt8.lt_iff_toNat_lt.2 hhigh
  rw [decodeFrom, if_neg hone, if_neg hstart, if_neg htwo, if_pos hthree]
  simp only [hb, hc, Bool.not_true, Bool.false_eq_true, if_false]

theorem decodeFrom_four (hlow : 0xF0 ≤ a.toNat) (hhigh : a.toNat ≤ 0xF4)
    (hb : isSecond a b = true) (hc : isContinuation c = true) (hd : isContinuation d = true) :
    decodeFrom position (a :: b :: c :: d :: rest) =
      (decodeFrom (position + 4) rest).map (assemble (a.toNat % 8) [b, c, d] :: ·) := by
  obtain ⟨hone, hstart⟩ := starts_several (a := a) (by omega) hhigh
  have htwo : ¬a < 0xE0 := mt UInt8.lt_iff_toNat_lt.1 (by simp; omega)
  have hthree : ¬a < 0xF0 := mt UInt8.lt_iff_toNat_lt.1 (Nat.not_lt.2 hlow)
  rw [decodeFrom, if_neg hone, if_neg hstart, if_neg htwo, if_neg hthree]
  simp only [hb, hc, hd, Bool.not_true, Bool.false_eq_true, if_false]

/-- A byte that holds six bits of a code point. -/
theorem continues (n : Nat) : isContinuation (UInt8.ofNat (n % 64 + 0x80)) = true ∧
    (UInt8.ofNat (n % 64 + 0x80)).toNat = n % 64 + 0x80 := by
  have hn := toNat_ofNat (n := n % 64 + 0x80) (by omega)
  exact ⟨isContinuation_iff.2 (by omega), hn⟩

/-! ## Code points

The bytes of a code point of each length, as the encoder cuts them, are put together to the code point. -/

variable {n : Nat}

theorem decodeFrom_codeOne (h : n < 0x80) : decodeFrom position (UInt8.ofNat n :: rest) =
    (decodeFrom (position + 1) rest).map (Char.ofNat n :: ·) := by
  have ha := toNat_ofNat (n := n) (by omega)
  rw [decodeFrom_one (by omega), ha]

theorem decodeFrom_codeTwo (hlow : 0x80 ≤ n) (hhigh : n < 0x800) :
    decodeFrom position
        (UInt8.ofNat (n / 64 % 0x20 + 0xC0) :: UInt8.ofNat (n % 0x40 + 0x80) :: rest) =
      (decodeFrom (position + 2) rest).map (Char.ofNat n :: ·) := by
  obtain ⟨hb, hbn⟩ := continues n
  have ha := toNat_ofNat (n := n / 64 % 0x20 + 0xC0) (by omega)
  have hpoint : (n / 64 % 0x20 + 0xC0) % 32 * 64 + (n % 0x40 + 0x80) % 64 = n := by omega
  rw [decodeFrom_two (by omega) (by omega) hb, assemble, List.foldl_cons, List.foldl_nil, ha, hbn,
    hpoint]

theorem decodeFrom_codeThree (hlow : 0x800 ≤ n) (hhigh : n < 0x10000)
    (hvalid : n < 0xD800 ∨ 0xDFFF < n) :
    decodeFrom position (UInt8.ofNat (n / 4096 % 0x10 + 0xE0) ::
        UInt8.ofNat (n / 64 % 0x40 + 0x80) :: UInt8.ofNat (n % 0x40 + 0x80) :: rest) =
      (decodeFrom (position + 3) rest).map (Char.ofNat n :: ·) := by
  obtain ⟨hb, hbn⟩ := continues (n / 64)
  obtain ⟨hc, hcn⟩ := continues n
  have ha := toNat_ofNat (n := n / 4096 % 0x10 + 0xE0) (by omega)
  have hpoint : ((n / 4096 % 0x10 + 0xE0) % 16 * 64 + (n / 64 % 0x40 + 0x80) % 64) * 64 +
      (n % 0x40 + 0x80) % 64 = n := by omega
  -- the lowest start is of no shorter code point, and the start of the surrogates of none of them
  have hsecond : isSecond (UInt8.ofNat (n / 4096 % 0x10 + 0xE0))
      (UInt8.ofNat (n / 64 % 0x40 + 0x80)) = true := isSecond_iff.2 ⟨hb, by omega⟩
  rw [decodeFrom_three (by omega) (by omega) hsecond hc, assemble, List.foldl_cons, List.foldl_cons,
    List.foldl_nil, ha, hbn, hcn, hpoint]

theorem decodeFrom_codeFour (hlow : 0x10000 ≤ n) (hhigh : n < 0x110000) :
    decodeFrom position (UInt8.ofNat (n / 262144 % 0x08 + 0xF0) ::
        UInt8.ofNat (n / 4096 % 0x40 + 0x80) :: UInt8.ofNat (n / 64 % 0x40 + 0x80) ::
        UInt8.ofNat (n % 0x40 + 0x80) :: rest) =
      (decodeFrom (position + 4) rest).map (Char.ofNat n :: ·) := by
  obtain ⟨hb, hbn⟩ := continues (n / 4096)
  obtain ⟨hc, hcn⟩ := continues (n / 64)
  obtain ⟨hd, hdn⟩ := continues n
  have ha := toNat_ofNat (n := n / 262144 % 0x08 + 0xF0) (by omega)
  have hpoint : (((n / 262144 % 0x08 + 0xF0) % 8 * 64 + (n / 4096 % 0x40 + 0x80) % 64) * 64 +
      (n / 64 % 0x40 + 0x80) % 64) * 64 + (n % 0x40 + 0x80) % 64 = n := by omega
  have hsecond : isSecond (UInt8.ofNat (n / 262144 % 0x08 + 0xF0))
      (UInt8.ofNat (n / 4096 % 0x40 + 0x80)) = true := isSecond_iff.2 ⟨hb, by omega⟩
  rw [decodeFrom_four (by omega) (by omega) hsecond hc hd, assemble, List.foldl_cons, List.foldl_cons,
    List.foldl_cons, List.foldl_nil, ha, hbn, hcn, hdn, hpoint]

/-- The bytes of a character are read as the character. -/
theorem decodeFrom_utf8EncodeChar (ch : Char) (position : Nat) (rest : List UInt8) :
    ∃ next, decodeFrom position (String.utf8EncodeChar ch ++ rest) =
      (decodeFrom next rest).map (ch :: ·) := by
  obtain ⟨n, hn⟩ : ∃ n, ch.val.toNat = n := ⟨_, rfl⟩
  have hvalid : n < 0xD800 ∨ 0xDFFF < n ∧ n < 0x110000 := hn ▸ ch.valid
  have hch : Char.ofNat n = ch := by
    rw [← hn]
    exact Char.ofNat_toNat ch
  unfold String.utf8EncodeChar
  rw [hn]
  dsimp only
  split
  · exact ⟨position + 1, hch ▸ decodeFrom_codeOne (by omega)⟩
  split
  · exact ⟨position + 2, hch ▸ decodeFrom_codeTwo (by omega) (by omega)⟩
  split
  · exact ⟨position + 3, hch ▸ decodeFrom_codeThree (by omega) (by omega) (by omega)⟩
  · exact ⟨position + 4, hch ▸ decodeFrom_codeFour (by omega) (by omega)⟩

/-- A text is read back from its bytes. -/
theorem decode_encode (s : String) : decode (encode s) = .ok s.toList := by
  have hfrom : ∀ (chars : List Char) (position : Nat),
      decodeFrom position (chars.flatMap String.utf8EncodeChar) = .ok chars := by
    intro chars
    induction chars with
    | nil => exact fun _ => rfl
    | cons ch rest ih =>
      intro position
      obtain ⟨next, hnext⟩ := decodeFrom_utf8EncodeChar ch position
        (rest.flatMap String.utf8EncodeChar)
      rw [List.flatMap_cons, hnext, ih next]
      rfl
  rw [decode, encode_eq, hfrom]

/-! ## Bytes that are read

Bytes that are read as one character are the bytes of this character. -/

theorem toNat_val_ofNat (h : n.isValidChar) : (Char.ofNat n).val.toNat = n := by
  rw [Char.ofNat, dif_pos h]
  rfl

theorem utf8EncodeChar_one (ha : a.toNat < 0x80) :
    String.utf8EncodeChar (Char.ofNat a.toNat) = [a] := by
  have hval := toNat_val_ofNat (n := a.toNat) (.inl (by omega))
  unfold String.utf8EncodeChar
  simp only [hval]
  rw [if_pos (by omega), UInt8.ofNat_toNat]

theorem utf8EncodeChar_two (hlow : 0xC2 ≤ a.toNat) (hhigh : a.toNat < 0xE0)
    (hb : isContinuation b = true) :
    String.utf8EncodeChar (assemble (a.toNat % 32) [b]) = [a, b] := by
  have hb := isContinuation_iff.1 hb
  obtain ⟨n, hn⟩ : ∃ n, a.toNat % 32 * 64 + b.toNat % 64 = n := ⟨_, rfl⟩
  have hval := toNat_val_ofNat (n := n) (.inl (by omega))
  have hbytes : n / 64 % 0x20 + 0xC0 = a.toNat ∧ n % 0x40 + 0x80 = b.toNat := by omega
  unfold String.utf8EncodeChar
  simp only [assemble, List.foldl_cons, List.foldl_nil, hn, hval]
  rw [if_neg (by omega), if_pos (by omega)]
  simp only [hbytes, UInt8.ofNat_toNat]

theorem utf8EncodeChar_three (hlow : 0xE0 ≤ a.toNat) (hhigh : a.toNat < 0xF0)
    (hb : isSecond a b = true) (hc : isContinuation c = true) :
    String.utf8EncodeChar (assemble (a.toNat % 16) [b, c]) = [a, b, c] := by
  obtain ⟨hb, hshort, hsurrogate, -⟩ := isSecond_iff.1 hb
  have hb := isContinuation_iff.1 hb
  have hc := isContinuation_iff.1 hc
  obtain ⟨n, hn⟩ : ∃ n, (a.toNat % 16 * 64 + b.toNat % 64) * 64 + c.toNat % 64 = n := ⟨_, rfl⟩
  have hval := toNat_val_ofNat (n := n) (by unfold Nat.isValidChar; omega)
  have hbytes : n / 4096 % 0x10 + 0xE0 = a.toNat ∧ n / 64 % 0x40 + 0x80 = b.toNat ∧
      n % 0x40 + 0x80 = c.toNat := by omega
  unfold String.utf8EncodeChar
  simp only [assemble, List.foldl_cons, List.foldl_nil, hn, hval]
  rw [if_neg (by omega), if_neg (by omega), if_pos (by omega)]
  simp only [hbytes, UInt8.ofNat_toNat]

theorem utf8EncodeChar_four (hlow : 0xF0 ≤ a.toNat) (hhigh : a.toNat ≤ 0xF4)
    (hb : isSecond a b = true) (hc : isContinuation c = true) (hd : isContinuation d = true) :
    String.utf8EncodeChar (assemble (a.toNat % 8) [b, c, d]) = [a, b, c, d] := by
  obtain ⟨hb, -, -, hshort, hlarge⟩ := isSecond_iff.1 hb
  have hb := isContinuation_iff.1 hb
  have hc := isContinuation_iff.1 hc
  have hd := isContinuation_iff.1 hd
  obtain ⟨n, hn⟩ : ∃ n, ((a.toNat % 8 * 64 + b.toNat % 64) * 64 + c.toNat % 64) * 64 +
      d.toNat % 64 = n := ⟨_, rfl⟩
  have hval := toNat_val_ofNat (n := n) (by unfold Nat.isValidChar; omega)
  have hbytes : n / 262144 % 0x08 + 0xF0 = a.toNat ∧ n / 4096 % 0x40 + 0x80 = b.toNat ∧
      n / 64 % 0x40 + 0x80 = c.toNat ∧ n % 0x40 + 0x80 = d.toNat := by omega
  unfold String.utf8EncodeChar
  simp only [assemble, List.foldl_cons, List.foldl_nil, hn, hval]
  rw [if_neg (by omega), if_neg (by omega), if_neg (by omega)]
  simp only [hbytes, UInt8.ofNat_toNat]

/-- Bytes that are read are the bytes of the characters that are read. -/
theorem eq_of_decodeFrom {bytes : List UInt8} {chars : List Char}
    (h : decodeFrom position bytes = .ok chars) : bytes = chars.flatMap String.utf8EncodeChar := by
  fun_induction decodeFrom position bytes generalizing chars with
  | case1 => cases h; rfl
  | case2 position a rest ha ih =>
    obtain ⟨others, hread, rfl⟩ := Json.except_map_eq_ok h
    rw [List.flatMap_cons, utf8EncodeChar_one (UInt8.lt_iff_toNat_lt.1 ha), ← ih hread]
    rfl
  | case5 position a hone hstart htwo b rest hb ih =>
    obtain ⟨others, hread, rfl⟩ := Json.except_map_eq_ok h
    obtain ⟨hlow, -⟩ := several_iff.1 hstart
    rw [List.flatMap_cons, utf8EncodeChar_two hlow (UInt8.lt_iff_toNat_lt.1 htwo) hb, ← ih hread]
    rfl
  | case12 position a hone hstart htwo hthree b c rest hb hc ih =>
    obtain ⟨others, hread, rfl⟩ := Json.except_map_eq_ok h
    have hlow : 0xE0 ≤ a.toNat := Nat.not_lt.1 fun h => htwo (UInt8.lt_iff_toNat_lt.2 h)
    simp only [Bool.not_eq_true', Bool.not_eq_false] at hb hc
    rw [List.flatMap_cons, utf8EncodeChar_three hlow (UInt8.lt_iff_toNat_lt.1 hthree) hb hc, ← ih hread]
    rfl
  | case22 position a hone hstart htwo hthree b c d rest hb hc hd ih =>
    obtain ⟨others, hread, rfl⟩ := Json.except_map_eq_ok h
    obtain ⟨-, hhigh⟩ := several_iff.1 hstart
    have hlow : 0xF0 ≤ a.toNat := Nat.not_lt.1 fun h => hthree (UInt8.lt_iff_toNat_lt.2 h)
    simp only [Bool.not_eq_true', Bool.not_eq_false] at hb hc hd
    rw [List.flatMap_cons, utf8EncodeChar_four hlow hhigh hb hc hd, ← ih hread]
    rfl
  | _ => cases h

/-- Bytes are read as a text exactly when they are the bytes of the text. -/
theorem decode_eq_ok_iff {bytes : List UInt8} {chars : List Char} :
    decode bytes = .ok chars ↔ bytes = encode (String.ofList chars) := by
  constructor
  · intro h
    rw [encode_eq, String.toList_ofList]
    exact eq_of_decodeFrom h
  · rintro rfl
    rw [decode_encode, String.toList_ofList]

end ShelfRules.Text.Utf8
