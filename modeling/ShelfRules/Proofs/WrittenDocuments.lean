import ShelfRules.Disk.Document
import ShelfRules.Proofs.JsonLayout
import ShelfRules.Proofs.WrittenBytes
import ShelfRules.Proofs.WrittenFilters

/-!
# Documents that are read back

What is written of a value over several lines are the letters of its texts and keys, and around them
characters of ASCII other than the carriage return, which is escaped in a text. So the reader of files,
which makes all line ends one, leaves the text as it is, and reads the value that was written; and
nothing stands in the way of the writing but halves of surrogate pairs in its texts and keys.

Results:
* `Json.any_indented`: which characters stand in a written value.
* `documentOf_indented`: every value of JSON is read back from the bytes of its file.
* `Json.written_pieces`, `Json.written_pieces_half`: when every value of JSON is written.
-/

namespace ShelfRules

/-! ## Line ends -/

theorem Text.unifyLines_of_noReturn {s : List Char} (h : '\r' ∉ s) : unifyLines s = s := by
  fun_induction unifyLines s with
  | case1 => rfl
  | case2 | case3 => exact absurd List.mem_cons_self h
  | case4 c s _ _ ih => rw [ih fun hs => h (List.mem_cons_of_mem c hs)]

/-! ## What stands around the texts -/

namespace Json

/-- A character that is written around the texts of a value: one of ASCII, and no carriage return. -/
def isFrame (c : Char) : Bool := c.toNat < 0x80 && c != '\r'

theorem isFrame_of_isDigit {c : Char} (h : c.isDigit = true) : isFrame c = true := by
  obtain ⟨-, hc⟩ := Char.isDigit_iff_toNat.1 h
  have hnine : '9'.toNat = 57 := rfl
  have hreturn : c ≠ '\r' := by
    rintro rfl
    cases h
  simp only [isFrame, Bool.and_eq_true, decide_eq_true_eq, bne_iff_ne]
  exact ⟨by omega, hreturn⟩

theorem toDigits_isFrame (n : Nat) : (Nat.toDigits 10 n).all isFrame = true :=
  List.all_eq_true.2 fun _ hc =>
    isFrame_of_isDigit (Nat.isDigit_of_mem_toDigits (by decide) (by decide) hc)

theorem integerChars_isFrame (n : Int) : (integerChars n).all isFrame = true := by
  unfold integerChars
  rw [List.all_append, toDigits_isFrame, Bool.and_true]
  split <;> decide

end Json

namespace Double

open Json (isFrame toDigits_isFrame)

theorem significant_isFrame (n : Nat) : (significant n).all isFrame = true := by
  obtain ⟨k, hk⟩ := toDigits_eq_significant n
  have hall := toDigits_isFrame n
  rw [hk, List.all_append, Bool.and_eq_true] at hall
  exact hall.1

theorem positional_isFrame {ds : List Char} (h : ds.all isFrame = true) (point : Int) :
    (positional ds point).all isFrame = true := by
  have hzero : isFrame '0' = true := by decide
  have hpoint : isFrame '.' = true := by decide
  rw [List.all_eq_true] at h
  unfold positional
  split
  · simpa [hzero, hpoint] using h
  split
  · simpa [hzero, hpoint] using h
  · simp only [List.all_append, List.all_cons, hpoint, Bool.true_and, Bool.and_eq_true, List.all_eq_true]
    exact ⟨fun c hc => h c (List.mem_of_mem_take hc), fun c hc => h c (List.mem_of_mem_drop hc)⟩

theorem scientific_isFrame {ds : List Char} (h : ds.all isFrame = true) (exponent : Int) :
    (scientific ds exponent).all isFrame = true := by
  have hpoint : isFrame '.' = true := by decide
  have hletter : isFrame 'e' = true := by decide
  have hzero : isFrame '0' = true := by decide
  have hsign : isFrame (if exponent < 0 then '-' else '+') = true := by split <;> decide
  have hsize := toDigits_isFrame exponent.natAbs
  unfold scientific
  rw [List.all_append, List.all_cons, List.all_cons, List.all_append, hletter, hsign, hsize,
    List.all_replicate, hzero]
  simp only [Bool.and_true, ite_self]
  split
  · rfl
  · exact h
  · simp only [List.all_cons, Bool.and_eq_true] at h ⊢
    exact ⟨h.1, hpoint, h.2⟩

theorem chars_isFrame (d : Double) : (d.chars Json.words).all isFrame = true := by
  cases d with
  | nan => decide
  | infinite negative => cases negative <;> decide
  | finite negative units fits =>
    have hunits : (unitsText units).all isFrame = true := by
      unfold unitsText
      split
      · decide
      · unfold decimalText
        dsimp only
        split
        · exact positional_isFrame (significant_isFrame _) _
        · exact scientific_isFrame (significant_isFrame _) _
    rw [chars]
    rw [List.all_append, hunits, Bool.and_true]
    split <;> decide

end Double

/-! ## Letters -/

namespace Value

mutual
/-- A character with a property stands in a text of the value or in a key. -/
def hasLetter (p : Char → Bool) : Value → Bool
  | .text s => s.toList.any p
  | .list items => anyHasLetter p items
  | .tuple items => anyHasLetter p items
  | .object entries => entryHasLetter p entries
  | _ => false
/-- Such a character stands in one of the items. -/
def anyHasLetter (p : Char → Bool) : List Value → Bool
  | [] => false
  | v :: rest => v.hasLetter p || anyHasLetter p rest
/-- Such a character stands in one of the entries. -/
def entryHasLetter (p : Char → Bool) : List (String × Value) → Bool
  | [] => false
  | (k, v) :: rest => k.toList.any p || v.hasLetter p || entryHasLetter p rest
end

mutual
theorem hasLetter_false : ∀ v : Value, v.hasLetter (fun _ => false) = false
  | .text s => by simp [hasLetter]
  | .list items | .tuple items => anyHasLetter_false items
  | .object entries => entryHasLetter_false entries
  | .null | .bool _ | .int _ | .float _ | .date _ | .stamp _ | .status _ => rfl
theorem anyHasLetter_false : ∀ items : List Value, anyHasLetter (fun _ => false) items = false
  | [] => rfl
  | v :: rest => by rw [anyHasLetter, hasLetter_false v, anyHasLetter_false rest]; rfl
theorem entryHasLetter_false : ∀ entries : List (String × Value),
    entryHasLetter (fun _ => false) entries = false
  | [] => rfl
  | (k, v) :: rest => by
    rw [entryHasLetter, hasLetter_false v, entryHasLetter_false rest]
    simp
end

end Value

namespace Json

theorem hexDigits_isFrame (count n : Nat) : (Text.hexDigits count n).all isFrame = true := by
  induction count generalizing n with
  | zero => rfl
  | succ count ih =>
    have hdigit : ∀ k, k < 16 → isFrame (Text.hexDigit k) = true := by decide
    rw [Text.hexDigits, List.all_append, ih, List.all_cons, hdigit _ (Nat.mod_lt n (by decide))]
    rfl

section Letters

variable {p : Char → Bool} (hp : ∀ c, isFrame c = true → p c = false)
include hp

theorem any_of_isFrame {s : List Char} (h : s.all isFrame = true) : s.any p = false :=
  List.any_eq_false.2 fun c hc => Bool.eq_false_iff.1 (hp c (List.all_eq_true.1 h c hc))

theorem any_escapeChar (c : Char) : (escapeChar c).any p = (decide (0x80 ≤ c.toNat) && p c) := by
  -- an escape is of ASCII, and so is the character that it stands for
  have hescape : ∀ {s : List Char}, c.toNat < 0x80 → s.all isFrame = true →
      s.any p = (decide (0x80 ≤ c.toNat) && p c) := by
    intro s hc hs
    rw [any_of_isFrame hp hs, decide_eq_false (Nat.not_le.2 hc), Bool.false_and]
  unfold escapeChar
  split
  · subst_vars; exact hescape (by decide) (by decide)
  split
  · subst_vars; exact hescape (by decide) (by decide)
  split
  · subst_vars; exact hescape (by decide) (by decide)
  split
  · subst_vars; exact hescape (by decide) (by decide)
  split
  · subst_vars; exact hescape (by decide) (by decide)
  split
  · subst_vars; exact hescape (by decide) (by decide)
  split
  · subst_vars; exact hescape (by decide) (by decide)
  split
  · rename_i hc
    have hlow : c.toNat < 0x80 := Nat.lt_trans (show c.toNat < 32 from hc) (by decide)
    refine hescape hlow ?_
    rw [List.all_cons, List.all_cons, hexDigits_isFrame]
    decide
  · rename_i hreturn _ _ _ _
    rw [List.any_cons, List.any_nil, Bool.or_false]
    by_cases hc : c.toNat < 0x80
    · rw [hp c (by simp [isFrame, hc, hreturn]), Bool.and_false]
    · rw [decide_eq_true (Nat.not_lt.1 hc), Bool.true_and]

theorem any_textChars (s : String) :
    (textChars s).any p = s.toList.any fun c => decide (0x80 ≤ c.toNat) && p c := by
  have hquote : p '"' = false := hp '"' (by decide)
  simp [textChars, List.any_flatMap, hquote, any_escapeChar hp]

theorem any_newline (level : Nat) : (newline level).any p = false := by
  have hspace : p ' ' = false := hp ' ' (by decide)
  have hline : p '\n' = false := hp '\n' (by decide)
  simp [newline, hspace, hline]

mutual
/-- The characters of a written value beside those around its texts are the letters of these. -/
theorem any_indented : ∀ (v : Value) (level : Nat), v.isDocument = true → (indented level v).any p =
    v.hasLetter fun c => decide (0x80 ≤ c.toNat) && p c
  | .null, _, _ => any_of_isFrame hp (s := "null".toList) (by decide)
  | .bool true, _, _ => any_of_isFrame hp (s := "true".toList) (by decide)
  | .bool false, _, _ => any_of_isFrame hp (s := "false".toList) (by decide)
  | .int n, _, _ => any_of_isFrame hp (integerChars_isFrame n)
  | .float d, _, _ => any_of_isFrame hp d.chars_isFrame
  | .text s, _, _ => any_textChars hp s
  | .list [], _, _ => any_of_isFrame hp (s := ['[', ']']) (by decide)
  | .object [], _, _ => any_of_isFrame hp (s := ['\x7b', '\x7d']) (by decide)
  | .list (v :: rest), level, h => by
    have hitems := any_indentedItems (v :: rest) (level + 1) (Value.isDocument_list.1 h)
    have hopen : p '[' = false := hp '[' (by decide)
    have hclose : p ']' = false := hp ']' (by decide)
    simp [indented, hitems, any_newline hp, hopen, hclose, Value.hasLetter]
  | .object (e :: rest), level, h => by
    have hentries := any_indentedEntries (e :: rest) (level + 1) (Value.isDocument_of_mem_entries h)
    have hopen : p '\x7b' = false := hp '\x7b' (by decide)
    have hclose : p '\x7d' = false := hp '\x7d' (by decide)
    simp [indented, hentries, any_newline hp, hopen, hclose, Value.hasLetter]
theorem any_indentedItems : ∀ (items : List Value) (level : Nat), (∀ v ∈ items, v.isDocument = true) →
    (indentedItems level items).any p = Value.anyHasLetter (fun c => decide (0x80 ≤ c.toNat) && p c) items
  | [], _, _ => rfl
  | [v], level, hv => by
    have hitem := any_indented v level (hv v List.mem_cons_self)
    simp [indentedItems, hitem, any_newline hp, Value.anyHasLetter]
  | v :: w :: rest, level, hv => by
    obtain ⟨hv, hrest⟩ := List.forall_mem_cons.1 hv
    have hcomma : p ',' = false := hp ',' (by decide)
    have hitem := any_indented v level hv
    have hitems := any_indentedItems (w :: rest) level hrest
    simp [indentedItems, hitem, hitems, any_newline hp, hcomma, Value.anyHasLetter]
theorem any_indentedEntries : ∀ (entries : List (String × Value)) (level : Nat),
    (∀ e ∈ entries, e.2.isDocument = true) → (indentedEntries level entries).any p =
      Value.entryHasLetter (fun c => decide (0x80 ≤ c.toNat) && p c) entries
  | [], _, _ => rfl
  | [(k, v)], level, hv => by
    have hvalue := any_indented v level (hv (k, v) List.mem_cons_self)
    have hcolon : p ':' = false := hp ':' (by decide)
    have hspace : p ' ' = false := hp ' ' (by decide)
    simp [indentedEntries, hvalue, any_newline hp, any_textChars hp, hcolon, hspace,
      Value.entryHasLetter]
  | (k, v) :: e :: rest, level, hv => by
    obtain ⟨hv, hrest⟩ := List.forall_mem_cons.1 hv
    have hvalue := any_indented v level hv
    have hentries := any_indentedEntries (e :: rest) level hrest
    have hcolon : p ':' = false := hp ':' (by decide)
    have hspace : p ' ' = false := hp ' ' (by decide)
    have hcomma : p ',' = false := hp ',' (by decide)
    simp [indentedEntries, hvalue, hentries, any_newline hp, any_textChars hp, hcolon, hspace, hcomma,
      Value.entryHasLetter, Bool.or_assoc]
end

end Letters

/-- A written value holds no carriage return. -/
theorem indented_noReturn {v : Value} (hv : v.isDocument = true) (level : Nat) :
    '\r' ∉ indented level v := by
  have hframe : ∀ c, isFrame c = true → (c == '\r') = false := by
    intro c hc
    simp only [isFrame, Bool.and_eq_true, bne_iff_ne] at hc
    exact beq_false_of_ne hc.2
  -- no letter from the end of ASCII on is a carriage return
  have hletter : (fun c : Char => decide (0x80 ≤ c.toNat) && (c == '\r')) = fun _ => false := by
    funext c
    by_cases hc : c = '\r'
    · subst hc
      decide
    · rw [beq_false_of_ne hc, Bool.and_false]
  intro hmem
  have hany := any_indented hframe v level hv
  rw [hletter, Value.hasLetter_false, List.any_eq_false] at hany
  exact hany '\r' hmem rfl

theorem obstacle?_of_isDocument {v : Value} (hv : v.isDocument = true) : obstacle? v = none := by
  rw [Value.isDocument_eq, Bool.and_eq_true, Bool.not_eq_true'] at hv
  rw [obstacle?_of_isLoaded hv.1, hv.2, if_neg Bool.false_ne_true]

end Json

/-! ## Halves of surrogate pairs -/

/-- Half of a surrogate pair stands in a text of the value or in a key. -/
def Value.holdsHalf (code : Text.HalfCode) (v : Value) : Bool := v.hasLetter code.stands

namespace Json

variable {code : Text.HalfCode} {v : Value}

theorem stands_of_isFrame (c : Char) (hc : isFrame c = true) : code.stands c = false := by
  simp only [isFrame, Bool.and_eq_true, decide_eq_true_eq] at hc
  exact Text.HalfCode.stands_eq_false_of_lt hc.1

theorem any_indented_stands (hv : v.isDocument = true) (level : Nat) :
    (indented level v).any code.stands = v.holdsHalf code := by
  have hletter : (fun c : Char => decide (0x80 ≤ c.toNat) && code.stands c) = code.stands := by
    funext c
    by_cases hc : c.toNat < 0x80
    · rw [Text.HalfCode.stands_eq_false_of_lt hc, Bool.and_false]
    · rw [decide_eq_true (Nat.not_lt.1 hc), Bool.true_and]
  rw [any_indented stands_of_isFrame v level hv, hletter]
  rfl

/-- Every value of JSON without halves is written whole. -/
theorem written_pieces (hv : v.isDocument = true) (hwhole : v.holdsHalf code = false) :
    written code (pieces 0 v) = (indented 0 v, none) :=
  (pieces_makeUp v 0 (obstacle?_of_isDocument hv)).written ((any_indented_stands hv 0).trans hwhole)

/-- No value of JSON with halves is. -/
theorem written_pieces_half (hv : v.isDocument = true) (hhalf : v.holdsHalf code = true) :
    ∃ e, (written code (pieces 0 v)).2 = some (.unencodable e) :=
  (pieces_makeUp v 0 (obstacle?_of_isDocument hv)).written_half ((any_indented_stands hv 0).trans hhalf)

theorem written_eq_indented {text : List Char} (hv : v.isDocument = true)
    (h : written code (pieces 0 v) = (text, none)) : text = indented 0 v := by
  cases hwhole : v.holdsHalf code with
  | false =>
    rw [written_pieces hv hwhole] at h
    exact (Prod.mk.inj h).1.symm
  | true =>
    obtain ⟨e, he⟩ := written_pieces_half hv hwhole
    rw [h] at he
    cases he

end Json

/-- Every value of JSON is read back from the bytes of its text over several lines. -/
theorem documentOf_indented {code : Text.HalfCode} {v : Value} (hv : v.isDocument = true) :
    documentOf code (Text.Utf8.encode (String.ofList (Json.indented 0 v))) = .ok v := by
  rw [documentOf, Text.Utf8.decode_encode, String.toList_ofList]
  dsimp only
  rw [Text.unifyLines_of_noReturn (Json.indented_noReturn hv 0), Json.parseWith_indented hv]

end ShelfRules
