import ShelfRules.Json.Parser
import ShelfRules.Value.Written
import Mathlib.Data.List.TakeWhile

/-!
# Values of JSON

What a text in JSON can stand for: null, booleans, numbers, texts, lists, and objects whose keys
differ. Integers that are too long are not read.

Results:
* `readScalar_suffix`, `readText_suffix`: readers leave what stands behind.
* `read_meets`: what is known of the texts and scalars of a document is known of all of it.
* `parseWith_isDocument`: a text that is read stands for a value of JSON.
* `parseWith_integerTooLong`: an integer that is not read is a run of more digits than are read.
-/

namespace ShelfRules

/-! ## Entries -/

namespace Entries

@[simp] theorem has_nil (key : String) : has [] key = false := rfl

@[simp] theorem has_cons (k key : String) (v : Value) (rest : Entries) :
    has ((k, v) :: rest) key = (key == k || has rest key) := by
  unfold has
  rw [List.lookup_cons]
  cases key == k <;> rfl

theorem get_cons (k key : String) (v : Value) (rest : Entries) :
    get ((k, v) :: rest) key = if k = key then v else get rest key := by
  unfold get
  rw [List.lookup_cons]
  by_cases h : k = key
  · simp [h]
  · have hne : (key == k) = false := beq_false_of_ne (Ne.symm h)
    simp [h, hne]

theorem has_eq_false_iff {entries : Entries} {key : String} :
    entries.has key = false ↔ ∀ e ∈ entries, e.1 ≠ key := by
  induction entries with
  | nil => simp
  | cons entry rest ih =>
    obtain ⟨k, v⟩ := entry
    rw [has_cons, Bool.or_eq_false_iff, ih, List.forall_mem_cons, beq_eq_false_iff_ne]
    exact and_congr_left' ne_comm

theorem has_set (k key : String) (v : Value) (entries : Entries) :
    has (set k v entries) key = (key == k || has entries key) := by
  induction entries with
  | nil => simp [set]
  | cons entry rest ih =>
    obtain ⟨l, w⟩ := entry
    unfold set
    split
    · rename_i h
      subst h
      simp only [has_cons]
      cases key == l <;> rfl
    · simp only [has_cons, ih]
      cases key == k <;> cases key == l <;> rfl

/-- A key that is not there is put at the end. -/
theorem set_fresh {k : String} {entries : Entries} (h : entries.has k = false) (v : Value) :
    set k v entries = entries ++ [(k, v)] := by
  induction entries with
  | nil => rfl
  | cons entry rest ih =>
    obtain ⟨l, w⟩ := entry
    simp only [has_cons, Bool.or_eq_false_iff, beq_eq_false_iff_ne] at h
    rw [set, if_neg (Ne.symm h.1), ih h.2, List.cons_append]

end Entries

/-! ## Values -/

namespace Value

mutual
/-- The value is one of JSON. -/
def isJson : Value → Bool
  | .null | .bool _ | .int _ | .float _ | .text _ => true
  | .list items => areJson items
  | .object entries => entriesAreJson entries
  | .tuple _ | .date _ | .stamp _ | .status _ => false
/-- The values are values of JSON. -/
def areJson : List Value → Bool
  | [] => true
  | v :: rest => v.isJson && areJson rest
/-- The values of the entries are values of JSON, and the keys differ. -/
def entriesAreJson : List (String × Value) → Bool
  | [] => true
  | (k, v) :: rest => !Entries.has rest k && v.isJson && entriesAreJson rest
end

/-- The value is one of JSON without an integer that is too long to be written. -/
def isDocument (v : Value) : Bool := v.isJson && !v.holdsLongInteger

theorem entriesAreJson_set {entries : Entries} {k : String} {v : Value}
    (he : entriesAreJson entries = true) (hv : v.isJson = true) :
    entriesAreJson (entries.set k v) = true := by
  induction entries with
  | nil => simp [Entries.set, entriesAreJson, hv]
  | cons entry rest ih =>
    obtain ⟨l, w⟩ := entry
    simp only [entriesAreJson, Bool.and_eq_true, Bool.not_eq_true'] at he
    obtain ⟨⟨hl, hw⟩, hrest⟩ := he
    unfold Entries.set
    split
    · rename_i h
      subst h
      simp [entriesAreJson, hl, hv, hrest]
    · rename_i h
      simp [entriesAreJson, Entries.has_set, hl, hw, ih hrest, h]

theorem anyEntryHoldsLongInteger_set {entries : Entries} {k : String} {v : Value}
    (he : anyEntryHoldsLongInteger entries = false) (hv : v.holdsLongInteger = false) :
    anyEntryHoldsLongInteger (entries.set k v) = false := by
  induction entries with
  | nil => simp [Entries.set, anyEntryHoldsLongInteger, hv]
  | cons entry rest ih =>
    obtain ⟨l, w⟩ := entry
    simp only [anyEntryHoldsLongInteger, Bool.or_eq_false_iff] at he
    unfold Entries.set
    split
    · simp [anyEntryHoldsLongInteger, hv, he.2]
    · simp [anyEntryHoldsLongInteger, he.1, ih he.2]

theorem isDocument_list {items : List Value} :
    (list items).isDocument = true ↔ ∀ v ∈ items, v.isDocument = true := by
  induction items with
  | nil => simp [isDocument, isJson, areJson, holdsLongInteger, anyHoldsLongInteger]
  | cons v rest ih =>
    simp only [isDocument, isJson, areJson, holdsLongInteger, anyHoldsLongInteger,
      Bool.and_eq_true, Bool.not_eq_true', Bool.or_eq_false_iff, List.forall_mem_cons] at ih ⊢
    rw [← ih]
    exact and_and_and_comm

theorem isDocument_of_mem_entries {entries : Entries} (h : (object entries).isDocument = true) :
    ∀ e ∈ entries, e.2.isDocument = true := by
  induction entries with
  | nil => simp
  | cons e rest ih =>
    obtain ⟨k, v⟩ := e
    simp only [isDocument, isJson, entriesAreJson, holdsLongInteger, anyEntryHoldsLongInteger,
      Bool.and_eq_true, Bool.not_eq_true', Bool.or_eq_false_iff, List.forall_mem_cons] at h ih ⊢
    exact ⟨⟨h.1.1.2, h.2.1⟩, ih ⟨h.1.2, h.2.2⟩⟩

theorem isDocument_object_set {entries : Entries} {k : String} {v : Value}
    (he : (object entries).isDocument = true) (hv : v.isDocument = true) :
    (object (entries.set k v)).isDocument = true := by
  simp only [isDocument, isJson, holdsLongInteger, Bool.and_eq_true, Bool.not_eq_true'] at he hv ⊢
  exact ⟨entriesAreJson_set he.1 hv.1, anyEntryHoldsLongInteger_set he.2 hv.2⟩

/-- Putting values of JSON under keys keeps an object one of JSON. -/
theorem isDocument_object_foldl {es : List (String × Value)}
    (hes : ∀ e ∈ es, e.2.isDocument = true) {entries : Entries}
    (he : (object entries).isDocument = true) :
    (object (es.foldl (fun es (k, v) => Entries.set k v es) entries)).isDocument = true := by
  induction es generalizing entries with
  | nil => exact he
  | cons e es ih =>
    obtain ⟨hv, hes⟩ := List.forall_mem_cons.1 hes
    exact ih hes (isDocument_object_set he hv)

end Value

/-! ## Reading -/

namespace Json

variable {stands : Text.Half → Char}

/-- Digits write a number below the power of ten of their count. -/
theorem ofDigitChars_lt {ds : List Char} (hds : ∀ c ∈ ds, c.isDigit = true) :
    Nat.ofDigitChars 10 ds 0 < 10 ^ ds.length := by
  suffices h : ∀ init, Nat.ofDigitChars 10 ds init < (init + 1) * 10 ^ ds.length by
    simpa using h 0
  induction ds with
  | nil => simp
  | cons c ds ih =>
    intro init
    have hc : c.toNat - '0'.toNat < 10 := by
      have hc9 := (Char.isDigit_iff_toNat.1 (hds c List.mem_cons_self)).2
      have h9 : '9'.toNat = 57 := rfl
      have h0 : '0'.toNat = 48 := rfl
      omega
    rw [Nat.ofDigitChars_cons, List.length_cons, Nat.pow_succ']
    refine Nat.lt_of_lt_of_le (ih (fun d hd => hds d (List.mem_cons_of_mem c hd)) _) ?_
    rw [← Nat.mul_assoc]
    exact Nat.mul_le_mul_right _ (by omega)

theorem except_map_eq_ok {ε α β : Type} {r : Except ε α} {f : α → β} {b : β}
    (h : r.map f = .ok b) : ∃ a, r = .ok a ∧ f a = b := by
  cases r with
  | error e => cases h
  | ok a => exact ⟨a, rfl, Except.ok.inj h⟩

theorem readIntegerDigits_isDigit {s whole t : List Char}
    (h : readIntegerDigits s = some (whole, t)) : ∀ c ∈ whole, c.isDigit = true := by
  rw [readIntegerDigits.eq_def] at h
  split at h
  · cases h
    exact List.forall_mem_singleton.2 rfl
  · rename_i c u _
    split at h
    · rename_i hc
      cases h
      intro d hd
      rcases List.mem_cons.1 hd with rfl | hd
      · exact hc
      · exact (List.mem_takeWhile_imp hd)
    · cases h
  · cases h

theorem ofDigitChars_lt_pow {ds : List Char} {k : Nat} (hds : ∀ c ∈ ds, c.isDigit = true)
    (hk : ds.length ≤ k) : Nat.ofDigitChars 10 ds 0 < 10 ^ k :=
  Nat.lt_of_lt_of_le (ofDigitChars_lt hds) (Nat.pow_le_pow_right (Nat.succ_pos 9) hk)

theorem isLongInteger_eq_false {n : Int} (h : n.natAbs < 10 ^ maxIntegerDigits) :
    isLongInteger n = false := by
  unfold isLongInteger
  exact decide_eq_false (Nat.not_le.2 h)

theorem numberOf_isDocument {negative : Bool} {whole fraction : List Char} {exponent : Option Int}
    {v : Value} (hw : ∀ c ∈ whole, c.isDigit = true)
    (h : numberOf negative whole fraction exponent = .ok v) : v.isDocument = true := by
  unfold numberOf at h
  split at h
  · split at h
    · cases h
    · rename_i hlen
      rw [← Except.ok.inj h]
      have hlt := ofDigitChars_lt_pow hw (Nat.not_lt.1 hlen)
      have hn : isLongInteger (if negative then -(Nat.ofDigitChars 10 whole 0 : Int)
          else Nat.ofDigitChars 10 whole 0) = false := by
        refine isLongInteger_eq_false ?_
        split
        · rwa [Int.natAbs_neg, Int.natAbs_natCast]
        · rwa [Int.natAbs_natCast]
      simp only [Value.isDocument, Value.isJson, Value.holdsLongInteger, hn, Bool.not_false,
        Bool.and_self]
  · cases h
    rfl

/-- A number is a sign, and the parts behind it. -/
theorem readNumber_eq (s : List Char) : ∃ negative unsigned, unsigned <:+ s ∧
    readNumber s = (readIntegerDigits unsigned).map fun (whole, t) =>
      (numberOf negative whole (readFractionDigits t).1
        (readExponent (readFractionDigits t).2).1).map
          (·, (readExponent (readFractionDigits t).2).2) := by
  refine ⟨_, _, ?_, rfl⟩
  split
  · exact List.suffix_cons _ _
  · exact List.suffix_rfl

/-- The digits of an integer stand in front of what they leave. -/
theorem eq_append_of_readIntegerDigits {s whole t : List Char}
    (h : readIntegerDigits s = some (whole, t)) : s = whole ++ t := by
  rw [readIntegerDigits.eq_def] at h
  split at h
  · cases h
    rfl
  · split at h
    · cases h
      rw [List.cons_append, List.takeWhile_append_dropWhile]
    · cases h
  · cases h

theorem readFractionDigits_suffix (s : List Char) : (readFractionDigits s).2 <:+ s := by
  unfold readFractionDigits
  split
  · split
    · exact (List.dropWhile_suffix _).trans ⟨[_, _], rfl⟩
    · exact List.suffix_rfl
  · exact List.suffix_rfl

theorem readExponent_suffix (s : List Char) : (readExponent s).2 <:+ s := by
  -- Whatever the exponent is, its digits are dropped from what stands behind the sign.
  have hdigits : ∀ (exponent : Option Int) {u t : List Char}, u <:+ t →
      (if u.takeWhile Char.isDigit = [] then (none, t)
        else (exponent, u.dropWhile Char.isDigit)).2 <:+ t := by
    intro exponent u t hu
    split
    · exact List.suffix_rfl
    · exact (List.dropWhile_suffix _).trans hu
  unfold readExponent
  split
  · split
    · dsimp only
      split
      · exact hdigits _ ⟨[_, _], rfl⟩
      · exact hdigits _ ⟨[_, _], rfl⟩
      · exact hdigits _ (List.suffix_cons _ _)
    · exact List.suffix_rfl
  · exact List.suffix_rfl

/-- A scalar leaves what stands behind it. -/
theorem readScalar_suffix {s rest : List Char} {v : Value} (h : readScalar s = .ok (v, rest)) :
    rest <:+ s := by
  unfold readScalar at h
  split at h
  · rename_i r hr
    obtain ⟨⟨word, w⟩, -, hword⟩ := List.exists_of_findSome?_eq_some hr
    obtain ⟨t, ht, rfl⟩ := Option.map_eq_some_iff.1 hword
    cases h
    unfold afterWord? at ht
    split at ht
    · cases ht
      exact List.drop_suffix _ _
    · cases ht
  · obtain ⟨negative, unsigned, hunsigned, hs⟩ := readNumber_eq s
    rw [hs] at h
    cases hw : readIntegerDigits unsigned with
    | none => simp [hw] at h
    | some parts =>
      obtain ⟨whole, t⟩ := parts
      simp only [hw, Option.map_some, Option.getD_some] at h
      obtain ⟨w, -, hv⟩ := except_map_eq_ok h
      cases hv
      have ht : t <:+ unsigned := ⟨whole, (eq_append_of_readIntegerDigits hw).symm⟩
      exact (readExponent_suffix _).trans ((readFractionDigits_suffix t).trans (ht.trans hunsigned))

theorem readUnits_suffix {opening : Nat} {s rest : List Char} {units : List Nat}
    (h : readUnits opening s = .ok (units, rest)) : rest <:+ s := by
  fun_induction readUnits opening s generalizing units rest with
  | case2 =>
    cases h
    exact List.suffix_cons _ _
  | case4 _ _ _ _ _ _ _ _ ih =>
    obtain ⟨⟨_, t⟩, ht, heq⟩ := except_map_eq_ok h
    cases heq
    exact (ih ht).trans ⟨['\\', 'u', _, _, _, _], rfl⟩
  | case8 _ _ _ _ _ _ ih =>
    obtain ⟨⟨_, t⟩, ht, heq⟩ := except_map_eq_ok h
    cases heq
    exact (ih ht).trans ⟨['\\', _], rfl⟩
  | case10 _ _ _ _ _ _ _ _ ih =>
    obtain ⟨⟨_, t⟩, ht, heq⟩ := except_map_eq_ok h
    cases heq
    exact (ih ht).trans (List.suffix_cons _ _)
  | _ => cases h

/-- A text leaves what stands behind it. -/
theorem readText_suffix {opening : Nat} {s rest : List Char} {text : String}
    (h : readText stands opening s = .ok (text, rest)) : rest <:+ s := by
  obtain ⟨⟨units, t⟩, hunits, heq⟩ := except_map_eq_ok h
  cases heq
  exact readUnits_suffix hunits

theorem readScalar_isDocument {s rest : List Char} {v : Value}
    (h : readScalar s = .ok (v, rest)) : v.isDocument = true := by
  unfold readScalar at h
  split at h
  · rename_i r hr
    obtain ⟨⟨word, w⟩, hmem, hword⟩ := List.exists_of_findSome?_eq_some hr
    obtain ⟨t, -, rfl⟩ := Option.map_eq_some_iff.1 hword
    cases h
    simp only [literals, List.mem_cons, Prod.mk.injEq, List.not_mem_nil, or_false] at hmem
    rcases hmem with ⟨-, rfl⟩ | ⟨-, rfl⟩ | ⟨-, rfl⟩ | ⟨-, rfl⟩ | ⟨-, rfl⟩ | ⟨-, rfl⟩ <;> rfl
  · obtain ⟨negative, unsigned, -, hs⟩ := readNumber_eq s
    rw [hs] at h
    cases hw : readIntegerDigits unsigned with
    | none => simp [hw] at h
    | some parts =>
      simp only [hw, Option.map_some, Option.getD_some] at h
      obtain ⟨w, hn, hv⟩ := except_map_eq_ok h
      cases hv
      exact numberOf_isDocument (readIntegerDigits_isDigit hw) hn

/-- The problem of a reading has a property, or what is read has another one and leaves an end of the
whole text. -/
def Meets {α : Type} (P : Problem → Prop) (Q : α → Prop) (whole : List Char) : Reading α → Prop
  | .error p => P p
  | .ok (a, rest) => Q a ∧ rest <:+ whole

theorem Meets.map {α β : Type} {P : Problem → Prop} {Q : α → Prop} {R : β → Prop} {whole : List Char}
    {r : Reading α} {f : α → β} (h : Meets P Q whole r) (hf : ∀ a, Q a → R (f a)) :
    Meets P R whole (r.map fun (a, rest) => (f a, rest)) := by
  cases r with
  | error p => exact h
  | ok a => exact ⟨hf a.1 h.1, h.2⟩

theorem skipSpace_suffix {s whole : List Char} (h : s <:+ whole) : skipSpace s <:+ whole :=
  (List.dropWhile_suffix _).trans h

section Readers

variable {P : Problem → Prop} {Q : Value → Prop} {whole : List Char}
  (hat : ∀ cause left, P (.at cause left))
  (htext : ∀ {opening s p}, readText stands opening s = .error p → P p) (htexts : ∀ s, Q (.text s))
  (hscalar : ∀ {s}, s <:+ whole → Meets P Q whole (readScalar s))
  (hlist : ∀ vs, (∀ v ∈ vs, Q v) → Q (.list vs))
  (hobject : ∀ es : List (String × Value), (∀ e ∈ es, Q e.2) →
    Q (.object (es.foldl (fun es (k, v) => Entries.set k v es) [])))
include hat htext htexts hscalar hlist hobject

/-- What is known of the problems of texts and of the scalars in a text is known of all problems, and what
is known of texts and scalars and kept by lists and objects is known of all values that are read, whatever
steps are allowed. -/
theorem read_meets (fuel : Nat) :
    (∀ {s}, s <:+ whole → Meets P Q whole (readValue stands fuel s)) ∧
    (∀ {s}, s <:+ whole → Meets P (∀ v ∈ ·, Q v) whole (readItems stands fuel s)) ∧
    (∀ {s}, s <:+ whole → Meets P (∀ e ∈ ·, Q e.2) whole (readEntries stands fuel s)) := by
  have hkey : ∀ opening {s}, s <:+ whole → Meets P (fun _ => True) whole (readText stands opening s) := by
    intro opening s hs
    cases h : readText stands opening s with
    | error p => exact htext h
    | ok a => exact ⟨trivial, (readText_suffix h).trans hs⟩
  induction fuel with
  | zero => exact ⟨fun _ => hat _ _, fun _ => hat _ _, fun _ => hat _ _⟩
  | succ fuel ih =>
    obtain ⟨ihValue, ihItems, ihEntries⟩ := ih
    refine ⟨fun {s} hs => ?_, fun {s} hs => ?_, fun {s} hs => ?_⟩
    · rw [readValue.eq_def]
      dsimp only
      split
      · exact (hkey _ ((List.suffix_cons _ _).trans hs)).map fun text _ => htexts text
      · have hitems := skipSpace_suffix ((List.suffix_cons _ _).trans hs)
        split
        · rename_i heq
          exact ⟨hlist [] (by simp), (List.suffix_cons _ _).trans (heq ▸ hitems)⟩
        · exact (ihItems hitems).map hlist
      · have hentries := skipSpace_suffix ((List.suffix_cons _ _).trans hs)
        split
        · rename_i heq
          exact ⟨hobject [] (by simp), (List.suffix_cons _ _).trans (heq ▸ hentries)⟩
        · exact (ihEntries hentries).map hobject
      · exact hscalar hs
    · rw [readItems.eq_def]
      dsimp only
      have hv := ihValue hs
      split
      · rename_i p hp
        rwa [hp] at hv
      · rename_i v rest hread
        rw [hread] at hv
        have hrest := skipSpace_suffix hv.2
        split
        · rename_i heq
          exact ⟨List.forall_mem_singleton.2 hv.1, (List.suffix_cons _ _).trans (heq ▸ hrest)⟩
        · rename_i heq
          have hnext := skipSpace_suffix ((List.suffix_cons _ _).trans (heq ▸ hrest))
          exact (ihItems hnext).map fun vs hvs => List.forall_mem_cons.2 ⟨hv.1, hvs⟩
        · exact hat _ _
    · rw [readEntries.eq_def]
      dsimp only
      split
      · rename_i t
        have htext := hkey ('"' :: t).length ((List.suffix_cons _ _).trans hs)
        split
        · rename_i p hp
          rwa [hp] at htext
        · rename_i key rest hread
          rw [hread] at htext
          have hcolon := skipSpace_suffix htext.2
          split
          · rename_i u heq
            have hv := ihValue (skipSpace_suffix ((List.suffix_cons _ u).trans (heq ▸ hcolon)))
            split
            · rename_i p hp
              rwa [hp] at hv
            · rename_i v rest hread
              rw [hread] at hv
              have hrest := skipSpace_suffix hv.2
              split
              · rename_i heq
                exact ⟨List.forall_mem_singleton.2 hv.1, (List.suffix_cons _ _).trans (heq ▸ hrest)⟩
              · rename_i heq
                have hnext := skipSpace_suffix ((List.suffix_cons _ _).trans (heq ▸ hrest))
                exact (ihEntries hnext).map fun es hes => List.forall_mem_cons.2 ⟨hv.1, hes⟩
              · exact hat _ _
          · exact hat _ _
      · exact hat _ _

end Readers

/-- A value that is read is one of JSON, whatever steps are allowed. -/
theorem readValue_isDocument {fuel : Nat} {s rest : List Char} {v : Value}
    (h : readValue stands fuel s = .ok (v, rest)) : v.isDocument = true := by
  have hscalar : ∀ {t}, t <:+ s →
      Meets (fun _ => True) (fun v => v.isDocument = true) s (readScalar t) := by
    intro t ht
    cases hread : readScalar t with
    | error p => trivial
    | ok a => exact ⟨readScalar_isDocument hread, (readScalar_suffix hread).trans ht⟩
  have hread : Meets (fun _ => True) (fun v => v.isDocument = true) s (readValue stands fuel s) :=
    (read_meets (fun _ _ => trivial) (fun _ => trivial) (fun _ => rfl) hscalar
      (fun _ => Value.isDocument_list.2) (fun _ hes => Value.isDocument_object_foldl hes rfl) fuel).1
      List.suffix_rfl
  rw [h] at hread
  exact hread.1

/-- A text that is read stands for a value of JSON. -/
theorem parseWith_isDocument {s : List Char} {v : Value} (h : parseWith stands s = .ok v) :
    v.isDocument = true := by
  unfold parseWith at h
  split at h
  · rename_i w hw
    cases h
    unfold readDocument at hw
    split at hw
    · cases hw
    · dsimp only at hw
      split at hw
      · cases hw
      · rename_i v rest hv
        split at hw
        · cases hw
          exact readValue_isDocument hv
        · cases hw
  · cases h
  · cases h

/-! ## Integers that are not read -/

theorem except_map_eq_error {ε α β : Type} {r : Except ε α} {f : α → β} {e : ε}
    (h : r.map f = .error e) : r = .error e := by
  cases r with
  | error e' => exact congrArg _ (Except.error.inj h)
  | ok a => cases h

theorem readUnits_problem {opening digits : Nat} {s : List Char} :
    readUnits opening s ≠ .error (.integerTooLong digits) := by
  fun_induction readUnits opening s with
  | case4 | case8 | case10 => rename_i ih; exact fun h => ih (except_map_eq_error h)
  | _ => exact fun h => nomatch h

/-- The text has a run of digits that is longer than those that are read. -/
def HasLongRun (s : List Char) (digits : Nat) : Prop :=
  maxIntegerDigits < digits ∧ ∃ run, run <:+: s ∧ (∀ c ∈ run, c.isDigit = true) ∧ run.length = digits

theorem HasLongRun.of_suffix {s t : List Char} {digits : Nat} (h : HasLongRun t digits) (ht : t <:+ s) :
    HasLongRun s digits :=
  ⟨h.1, h.2.imp fun _ hrun => ⟨hrun.1.trans ht.isInfix, hrun.2⟩⟩

theorem readScalar_problem {s : List Char} {digits : Nat}
    (h : readScalar s = .error (.integerTooLong digits)) : HasLongRun s digits := by
  unfold readScalar at h
  split at h
  · cases h
  · obtain ⟨negative, unsigned, hunsigned, hs⟩ := readNumber_eq s
    rw [hs] at h
    cases hw : readIntegerDigits unsigned with
    | none => simp [hw] at h
    | some parts =>
      obtain ⟨whole, t⟩ := parts
      have hwhole : whole <:+: unsigned :=
        (eq_append_of_readIntegerDigits hw ▸ List.prefix_append whole t).isInfix
      simp only [hw, Option.map_some, Option.getD_some] at h
      have h := except_map_eq_error h
      unfold numberOf at h
      split at h
      · split at h
        · rename_i hlen
          cases h
          exact ⟨hlen, whole, hwhole.trans hunsigned.isInfix, readIntegerDigits_isDigit hw, rfl⟩
        · cases h
      · cases h

theorem readValue_problem {fuel digits : Nat} {s : List Char}
    (h : readValue stands fuel s = .error (.integerTooLong digits)) : HasLongRun s digits := by
  have hscalar : ∀ {t}, t <:+ s → Meets (fun p => ∀ digits, p = .integerTooLong digits →
      HasLongRun s digits) (fun _ => True) s (readScalar t) := by
    intro t ht
    cases hread : readScalar t with
    | ok a => exact ⟨trivial, (readScalar_suffix hread).trans ht⟩
    | error p =>
      rintro digits rfl
      exact (readScalar_problem hread).of_suffix ht
  have htext : ∀ {opening t p}, readText stands opening t = .error p →
      ∀ digits, p = .integerTooLong digits → HasLongRun s digits := by
    rintro opening t p hread digits rfl
    exact absurd (except_map_eq_error hread) readUnits_problem
  have hread := (read_meets (fun _ _ _ hp => nomatch hp) htext (fun _ => trivial) hscalar
    (fun _ _ => trivial) (fun _ _ => trivial) fuel).1 List.suffix_rfl
  rw [h] at hread
  exact hread digits rfl

/-- An integer that is not read is a run of more digits in the text than are read. -/
theorem parseWith_integerTooLong {s : List Char} {digits : Nat}
    (h : parseWith stands s = .error (.integerTooLong digits)) : HasLongRun s digits := by
  unfold parseWith at h
  split at h
  · cases h
  · cases h
  · rename_i n hp
    cases h
    unfold readDocument at hp
    split at hp
    · cases hp
    · dsimp only at hp
      split at hp
      · rename_i p hv
        cases hp
        exact (readValue_problem hv).of_suffix (skipSpace_suffix List.suffix_rfl)
      · split at hp <;> cases hp

end Json

end ShelfRules
