import ShelfRules.Proofs.JsonDocuments
import ShelfRules.Proofs.JsonText
import ShelfRules.Proofs.WrittenNumbers

/-!
# Written values are read back

A layout of a value has its tokens with any blanks between them; the text on one line is one of the
layouts. A reader that meets a layout returns the value and what stands behind it, whatever that is,
unless it could go on with the digits of a number.

Results:
* `readValue_laidOut`: every value of JSON is read back from each of its layouts.
* `laidOut_compact`: the text on one line is a layout.
* `laidOut_indented`: so is the text over several lines.
* `parse_compact`, `parseWith_indented`: every value of JSON is read back from its text, on one line or over
  several.
-/

namespace ShelfRules.Json

/-! ## Blanks -/

/-- The text is of blanks alone. -/
def AllSpace (s : List Char) : Prop := ∀ c ∈ s, isSpace c = true

theorem allSpace_nil : AllSpace [] := fun _ h => nomatch h

theorem allSpace_blank : AllSpace [' '] := by simp [AllSpace, isSpace]

theorem skipSpace_append {b s : List Char} (hb : AllSpace b) : skipSpace (b ++ s) = skipSpace s := by
  unfold skipSpace
  rw [List.dropWhile_append_of_pos hb]

theorem skipSpace_cons {c : Char} {s : List Char} (hc : isSpace c = false) :
    skipSpace (c :: s) = c :: s := by
  simp [skipSpace, hc]

/-- A token behind blanks ends a number in front of it. -/
theorem endsNumber_append {b s : List Char} (hb : AllSpace b) (hs : EndsNumber s) :
    EndsNumber (b ++ s) := by
  cases b with
  | nil => exact hs
  | cons c b =>
    intro d hd
    have hc := hb c List.mem_cons_self
    obtain rfl : c = d := by simpa using hd
    simp only [isSpace, Bool.or_eq_true, beq_iff_eq] at hc
    rcases hc with ((rfl | rfl) | rfl) | rfl <;> decide

theorem endsNumber_cons {c : Char} {s : List Char}
    (hc : c.isDigit = false ∧ c ≠ '.' ∧ c ≠ 'e' ∧ c ≠ 'E') : EndsNumber (c :: s) := by
  intro d hd
  obtain rfl : c = d := by simpa using hd
  exact hc

/-! ## Layouts -/

mutual
/-- The text is a layout of the value. -/
def LaidOut : Value → List Char → Prop
  | .list (v :: rest), s => ∃ t, ItemsLaidOut (v :: rest) t ∧ s = '[' :: (t ++ [']'])
  | .object (e :: rest), s => ∃ t, EntriesLaidOut (e :: rest) t ∧ s = '\x7b' :: (t ++ ['\x7d'])
  | v, s => s = compact v
/-- The text is a layout of the items of a list. -/
def ItemsLaidOut : List Value → List Char → Prop
  | [], s => s = []
  | [v], s => ∃ b t b', AllSpace b ∧ LaidOut v t ∧ AllSpace b' ∧ s = b ++ (t ++ b')
  | v :: rest, s => ∃ b t b' u, AllSpace b ∧ LaidOut v t ∧ AllSpace b' ∧ ItemsLaidOut rest u ∧
      s = b ++ (t ++ (b' ++ ',' :: u))
/-- The text is a layout of the entries of an object. -/
def EntriesLaidOut : List (String × Value) → List Char → Prop
  | [], s => s = []
  | [(k, v)], s => ∃ b b₁ b₂ t b', AllSpace b ∧ AllSpace b₁ ∧ AllSpace b₂ ∧ LaidOut v t ∧
      AllSpace b' ∧ s = b ++ (textChars k ++ (b₁ ++ ':' :: (b₂ ++ (t ++ b'))))
  | (k, v) :: rest, s => ∃ b b₁ b₂ t b' u, AllSpace b ∧ AllSpace b₁ ∧ AllSpace b₂ ∧ LaidOut v t ∧
      AllSpace b' ∧ EntriesLaidOut rest u ∧
      s = b ++ (textChars k ++ (b₁ ++ ':' :: (b₂ ++ (t ++ (b' ++ ',' :: u)))))
end

/-! ## What starts a value -/

/-- A value can start with the character: it is no blank and no byte order mark, and closes neither a
list nor an object. -/
def StartsValue (c : Char) : Prop :=
  isSpace c = false ∧ c ≠ ']' ∧ c ≠ '\x7d' ∧ c ≠ '\uFEFF'

theorem startsValue_of_isDigit {c : Char} (hc : c.isDigit = true) : StartsValue c := by
  refine ⟨?_, ?_, ?_, ?_⟩
  · simp only [isSpace, Bool.or_eq_false_iff, beq_eq_false_iff_ne, ne_eq]
    refine ⟨⟨⟨?_, ?_⟩, ?_⟩, ?_⟩ <;> (rintro rfl; revert hc; decide)
  all_goals rintro rfl; revert hc; decide

/-- A word or a number does not start like a text, a list or an object. -/
theorem readScalar_head {s : List Char} {r : Value × List Char} (h : readScalar s = .ok r) :
    ∃ c t, s = c :: t ∧ StartsValue c ∧ c ≠ '"' ∧ c ≠ '[' ∧ c ≠ '\x7b' := by
  unfold readScalar at h
  split at h
  · rename_i r' hr
    obtain ⟨⟨word, w⟩, hmem, hword⟩ := List.exists_of_findSome?_eq_some hr
    obtain ⟨t, ht, -⟩ := Option.map_eq_some_iff.1 hword
    have hs : word <+: s := by
      unfold afterWord? at ht
      split at ht
      · rename_i hp
        exact List.isPrefixOf_iff_prefix.1 hp
      · cases ht
    obtain ⟨u, rfl⟩ := hs
    simp only [literals, List.mem_cons, Prod.mk.injEq, List.not_mem_nil, or_false] at hmem
    rcases hmem with ⟨rfl, -⟩ | ⟨rfl, -⟩ | ⟨rfl, -⟩ | ⟨rfl, -⟩ | ⟨rfl, -⟩ | ⟨rfl, -⟩ <;>
      exact ⟨_, _, rfl, ⟨by decide, by decide, by decide, by decide⟩, by decide, by decide, by decide⟩
  · cases s with
    | nil => simp [readNumber, readIntegerDigits] at h
    | cons c t =>
      refine ⟨c, t, rfl, ?_⟩
      by_cases hminus : c = '-'
      · subst hminus
        exact ⟨⟨by decide, by decide, by decide, by decide⟩, by decide, by decide, by decide⟩
      · have hdigit : c.isDigit = true := by
          cases hw : readIntegerDigits (c :: t) with
          | none => simp [readNumber, hminus, hw] at h
          | some parts =>
            obtain ⟨d, u, hd, hdigit⟩ := readIntegerDigits_head hw
            cases hd
            exact hdigit
        refine ⟨startsValue_of_isDigit hdigit, ?_, ?_, ?_⟩ <;>
          (rintro rfl; revert hdigit; decide)

variable {stands : Text.Half → Char}

theorem readValue_of_readScalar {fuel : Nat} {s : List Char} {r : Value × List Char}
    (h : readScalar s = .ok r) : readValue stands (fuel + 1) s = .ok r := by
  obtain ⟨c, t, rfl, -, hquote, hlist, hobject⟩ := readScalar_head h
  rw [readValue.eq_def]
  simp [h, hquote, hlist, hobject]

/-- Words and numbers are read back. -/
theorem readScalar_compact {v : Value} {rest : List Char} (hv : v.isDocument = true)
    (hr : EndsNumber rest) (hplain : match v with
      | .null | .bool _ | .int _ | .float _ => True
      | _ => False) : readScalar (compact v ++ rest) = .ok (v, rest) := by
  match v with
  | .null => simp [compact, readScalar, readLiteral, literals, afterWord?]
  | .bool b => cases b <;> simp [compact, readScalar, readLiteral, literals, afterWord?]
  | .int n =>
    have hn : isLongInteger n = false := by
      simpa [Value.isDocument, Value.isJson, Value.holdsLongInteger] using hv
    exact readScalar_integer hn hr
  | .float d => exact readScalar_double d hr

/-- A layout starts with a character that starts a value. -/
theorem laidOut_head {v : Value} {s : List Char} (hv : v.isDocument = true) (h : LaidOut v s) :
    ∃ c t, s = c :: t ∧ StartsValue c := by
  have hend : EndsNumber [] := fun _ h => nomatch h
  have hscalar := readScalar_compact (v := v) hv hend
  have hopen : ∀ c ∈ ['"', '[', '\x7b'], StartsValue c := by
    simp [StartsValue, isSpace]
  cases v with
  | null | bool | int | float =>
    obtain ⟨c, t, hs, hc, -⟩ := readScalar_head (hscalar trivial)
    rw [List.append_nil] at hs
    exact ⟨c, t, h.trans hs, hc⟩
  | text x => exact ⟨'"', _, h, hopen _ (by simp)⟩
  | list items =>
    cases items with
    | nil => exact ⟨'[', _, h, hopen _ (by simp)⟩
    | cons v rest =>
      obtain ⟨t, -, rfl⟩ := h
      exact ⟨'[', _, rfl, hopen _ (by simp)⟩
  | object entries =>
    cases entries with
    | nil => exact ⟨'\x7b', _, h, hopen _ (by simp)⟩
    | cons e rest =>
      obtain ⟨t, -, rfl⟩ := h
      exact ⟨'\x7b', _, rfl, hopen _ (by simp)⟩
  | tuple | date | stamp | status => cases hv

/-! ## Reading a layout -/

theorem skipSpace_laidOut {v : Value} {b s : List Char} (rest : List Char) (hb : AllSpace b)
    (hv : v.isDocument = true) (h : LaidOut v s) : skipSpace (b ++ (s ++ rest)) = s ++ rest := by
  obtain ⟨c, t, rfl, hc⟩ := laidOut_head hv h
  rw [skipSpace_append hb, List.cons_append, skipSpace_cons hc.1]

/-- One step into a list that has an item. -/
theorem readValue_list (fuel : Nat) {t : List Char} (ht : ∀ c ∈ (skipSpace t).head?, c ≠ ']') :
    readValue stands (fuel + 1) ('[' :: t) =
      (readItems stands fuel (skipSpace t)).map fun (items, rest) => (.list items, rest) := by
  simp only [readValue]
  split
  · rename_i rest h
    exact absurd rfl (ht ']' (by rw [h]; rfl))
  · rfl

/-- One step into an object that has an entry. -/
theorem readValue_object (fuel : Nat) {t : List Char} (ht : ∀ c ∈ (skipSpace t).head?, c ≠ '\x7d') :
    readValue stands (fuel + 1) ('\x7b' :: t) =
      (readEntries stands fuel (skipSpace t)).map fun (entries, rest) =>
        (.object (entries.foldl (fun es (k, v) => Entries.set k v es) []), rest) := by
  simp only [readValue]
  split
  · rename_i rest h
    exact absurd rfl (ht '\x7d' (by rw [h]; rfl))
  · rfl

/-- Putting entries whose keys differ under their keys gives them back. -/
theorem foldl_set_entries {es : Entries} (hes : Value.entriesAreJson es = true) {entries : Entries}
    (hfresh : ∀ e ∈ es, entries.has e.1 = false) :
    es.foldl (fun es (k, v) => Entries.set k v es) entries = entries ++ es := by
  induction es generalizing entries with
  | nil => simp
  | cons e es ih =>
    obtain ⟨k, v⟩ := e
    simp only [Value.entriesAreJson, Bool.and_eq_true, Bool.not_eq_true'] at hes
    obtain ⟨⟨hk, -⟩, hes⟩ := hes
    obtain ⟨hkfresh, hrest⟩ := List.forall_mem_cons.1 hfresh
    rw [List.foldl_cons, ih hes]
    · dsimp only
      rw [Entries.set_fresh hkfresh, List.append_assoc, List.singleton_append]
    · intro e he
      rw [Entries.has_set, hrest e he, Bool.or_false, beq_eq_false_iff_ne]
      rintro rfl
      rw [Entries.has_eq_false_iff] at hk
      exact hk e he rfl

theorem foldl_set_nil {es : Entries} (hes : Value.entriesAreJson es = true) :
    es.foldl (fun es (k, v) => Entries.set k v es) [] = es :=
  foldl_set_entries hes (fun _ _ => rfl)

mutual
/-- Every value of JSON is read back from each of its layouts. -/
theorem readValue_laidOut : ∀ (v : Value) (fuel : Nat) (rest : List Char) {s : List Char},
    v.isDocument = true → LaidOut v s → EndsNumber rest → 2 * s.length ≤ fuel + 1 →
      readValue stands fuel (s ++ rest) = .ok (v, rest)
  | v, 0, rest, s, hv, h, _, hf => by
    obtain ⟨c, t, rfl, -⟩ := laidOut_head hv h
    rw [List.length_cons] at hf
    omega
  | .null, fuel + 1, _, _, hv, rfl, hr, _ =>
    readValue_of_readScalar (readScalar_compact hv hr trivial)
  | .bool b, fuel + 1, _, _, hv, rfl, hr, _ =>
    readValue_of_readScalar (readScalar_compact hv hr trivial)
  | .int n, fuel + 1, _, _, hv, rfl, hr, _ =>
    readValue_of_readScalar (readScalar_compact hv hr trivial)
  | .float d, fuel + 1, _, _, hv, rfl, hr, _ =>
    readValue_of_readScalar (readScalar_compact hv hr trivial)
  | .text x, fuel + 1, rest, _, _, rfl, _, _ => by
    have hx := readText_escaped stands (compact (.text x) ++ rest).length x rest
    simp only [compact, textChars, List.cons_append, List.append_assoc, List.nil_append] at hx ⊢
    simp only [readValue, hx]
    rfl
  | .list [], fuel + 1, _, _, _, rfl, _, _ => rfl
  | .list (v :: items), fuel + 1, rest, _, hv, h, _, hf => by
    obtain ⟨t, ht, rfl⟩ := h
    obtain ⟨hhead, hread⟩ := readItems_laidOut (v :: items) fuel rest (by simp)
      (Value.isDocument_list.1 hv) ht (by simp at hf; omega)
    rw [List.cons_append, List.append_assoc, List.singleton_append, readValue_list fuel hhead, hread]
    rfl
  | .object [], fuel + 1, _, _, _, rfl, _, _ => rfl
  | .object (e :: entries), fuel + 1, rest, _, hv, h, _, hf => by
    obtain ⟨t, ht, rfl⟩ := h
    obtain ⟨hjson, hlong⟩ := Bool.and_eq_true_iff.1 hv
    obtain ⟨hhead, hread⟩ := readEntries_laidOut (e :: entries) fuel rest (by simp)
      (Value.isDocument_of_mem_entries hv) ht (by simp at hf; omega)
    rw [List.cons_append, List.append_assoc, List.singleton_append, readValue_object fuel hhead,
      hread]
    simp only [Except.map, foldl_set_nil hjson]
theorem readItems_laidOut : ∀ (items : List Value) (fuel : Nat) (rest : List Char) {t : List Char},
    items ≠ [] → (∀ v ∈ items, v.isDocument = true) → ItemsLaidOut items t →
      2 * t.length ≤ fuel →
      (∀ c ∈ (skipSpace (t ++ ']' :: rest)).head?, c ≠ ']') ∧
        readItems stands fuel (skipSpace (t ++ ']' :: rest)) = .ok (items, rest)
  | [], _, _, _, hne, _, _, _ => absurd rfl hne
  | [v], fuel, rest, _, _, hv, ⟨b, s, b', hb, hs, hb', h⟩, hf => by
    subst h
    have hv := hv v List.mem_cons_self
    obtain ⟨c, u, hcu, hc⟩ := laidOut_head hv hs
    have hread := readValue_laidOut v (fuel - 1) (b' ++ ']' :: rest) hv hs
      (endsNumber_append hb' (endsNumber_cons (by decide)))
      (by simp only [List.length_append] at hf; omega)
    rw [List.append_assoc, List.append_assoc, skipSpace_laidOut _ hb hv hs]
    refine ⟨by simp [hcu, hc.2.1], ?_⟩
    obtain ⟨f, rfl⟩ : ∃ f, fuel = f + 1 := ⟨fuel - 1, by simp [hcu] at hf; omega⟩
    rw [Nat.add_sub_cancel] at hread
    simp only [readItems, hread]
    rw [skipSpace_append hb', skipSpace_cons (by decide)]
    rfl
  | v :: w :: items, fuel, rest, _, _, hv, ⟨b, s, b', u, hb, hs, hb', hu, h⟩, hf => by
    subst h
    obtain ⟨hv, hrest⟩ := List.forall_mem_cons.1 hv
    obtain ⟨c, x, hcx, hc⟩ := laidOut_head hv hs
    have hread := readValue_laidOut v (fuel - 1) (b' ++ ',' :: (u ++ ']' :: rest)) hv hs
      (endsNumber_append hb' (endsNumber_cons (by decide)))
      (by simp only [List.length_append, List.length_cons] at hf; omega)
    obtain ⟨_, hitems⟩ := readItems_laidOut (w :: items) (fuel - 1) rest (by simp) hrest hu
      (by simp only [hcx, List.length_append, List.length_cons] at hf; omega)
    simp only [List.append_assoc, List.cons_append]
    rw [skipSpace_laidOut _ hb hv hs]
    refine ⟨by simp [hcx, hc.2.1], ?_⟩
    obtain ⟨f, rfl⟩ : ∃ f, fuel = f + 1 := ⟨fuel - 1, by simp [hcx] at hf; omega⟩
    rw [Nat.add_sub_cancel] at hread hitems
    simp only [readItems, hread]
    rw [skipSpace_append hb', skipSpace_cons (by decide)]
    simp only [hitems]
    rfl
theorem readEntries_laidOut : ∀ (entries : List (String × Value)) (fuel : Nat) (rest : List Char)
    {t : List Char}, entries ≠ [] → (∀ e ∈ entries, e.2.isDocument = true) →
      EntriesLaidOut entries t → 2 * t.length ≤ fuel →
      (∀ c ∈ (skipSpace (t ++ '\x7d' :: rest)).head?, c ≠ '\x7d') ∧
        readEntries stands fuel (skipSpace (t ++ '\x7d' :: rest)) = .ok (entries, rest)
  | [], _, _, _, hne, _, _, _ => absurd rfl hne
  | [(k, v)], fuel, rest, _, _, hv, ⟨b, b₁, b₂, s, b', hb, hb₁, hb₂, hs, hb', h⟩, hf => by
    subst h
    have hv : v.isDocument = true := hv (k, v) List.mem_cons_self
    have hread := readValue_laidOut v (fuel - 1) (b' ++ '\x7d' :: rest) hv hs
      (endsNumber_append hb' (endsNumber_cons (by decide)))
      (by simp only [List.length_append, List.length_cons] at hf; omega)
    simp only [textChars, List.append_assoc, List.cons_append, List.nil_append]
    rw [skipSpace_append hb, skipSpace_cons (by decide)]
    refine ⟨by simp, ?_⟩
    obtain ⟨f, rfl⟩ : ∃ f, fuel = f + 1 := ⟨fuel - 1, by simp [textChars] at hf; omega⟩
    rw [Nat.add_sub_cancel] at hread
    simp only [readEntries, readText_escaped]
    rw [skipSpace_append hb₁, skipSpace_cons (by decide)]
    simp only [skipSpace_laidOut _ hb₂ hv hs, hread]
    rw [skipSpace_append hb', skipSpace_cons (by decide)]
    rfl
  | (k, v) :: e :: entries, fuel, rest, _, _, hv,
      ⟨b, b₁, b₂, s, b', u, hb, hb₁, hb₂, hs, hb', hu, h⟩, hf => by
    subst h
    obtain ⟨hv, hrest⟩ := List.forall_mem_cons.1 hv
    have hread := readValue_laidOut v (fuel - 1) (b' ++ ',' :: (u ++ '\x7d' :: rest)) hv hs
      (endsNumber_append hb' (endsNumber_cons (by decide)))
      (by simp only [List.length_append, List.length_cons] at hf; omega)
    obtain ⟨_, hentries⟩ := readEntries_laidOut (e :: entries) (fuel - 1) rest (by simp) hrest hu
      (by simp only [List.length_append, List.length_cons] at hf; omega)
    simp only [textChars, List.append_assoc, List.cons_append, List.nil_append]
    rw [skipSpace_append hb, skipSpace_cons (by decide)]
    refine ⟨by simp, ?_⟩
    obtain ⟨f, rfl⟩ : ∃ f, fuel = f + 1 := ⟨fuel - 1, by simp [textChars] at hf; omega⟩
    rw [Nat.add_sub_cancel] at hread hentries
    simp only [readEntries, readText_escaped]
    rw [skipSpace_append hb₁, skipSpace_cons (by decide)]
    simp only [skipSpace_laidOut _ hb₂ hv hs, hread]
    rw [skipSpace_append hb', skipSpace_cons (by decide)]
    simp only [hentries]
    rfl
end

/-- A text that is read as one value, with nothing behind it, stands for this value. -/
theorem parseWith_of_readValue {c : Char} {t : List Char} {v : Value} (hc : StartsValue c)
    (h : readValue stands (2 * (c :: t).length + 2) (c :: t) = .ok (v, [])) :
    parseWith stands (c :: t) = .ok v := by
  obtain ⟨hspace, -, -, hmark⟩ := hc
  have hdocument : readDocument stands (c :: t) = .ok v := by
    unfold readDocument
    split
    · rename_i heq
      cases heq
      exact absurd rfl hmark
    · simp only [skipSpace_cons hspace, h]
      rfl
  rw [parseWith, hdocument]

/-- A text that is a layout stands for its value. -/
theorem parseWith_laidOut {v : Value} {s : List Char} (hv : v.isDocument = true) (h : LaidOut v s) :
    parseWith stands s = .ok v := by
  have hend : EndsNumber [] := fun _ h => nomatch h
  have hread : readValue stands _ (s ++ []) = .ok (v, []) :=
    readValue_laidOut v (2 * s.length + 2) [] hv h hend (by omega)
  rw [List.append_nil] at hread
  obtain ⟨c, t, rfl, hstart⟩ := laidOut_head hv h
  exact parseWith_of_readValue hstart hread

/-! ## On one line -/

mutual
/-- The text on one line is a layout. -/
theorem laidOut_compact : ∀ v : Value, v.isDocument = true → LaidOut v (compact v)
  | .null, _ | .bool _, _ | .int _, _ | .float _, _ | .text _, _ | .list [], _ | .object [], _ => rfl
  | .list (v :: rest), h =>
    ⟨_, itemsLaidOut_compact (v :: rest) (by simp) (Value.isDocument_list.1 h) allSpace_nil, rfl⟩
  | .object (e :: rest), h =>
    ⟨_, entriesLaidOut_compact (e :: rest) (by simp) (Value.isDocument_of_mem_entries h)
      allSpace_nil, rfl⟩
theorem itemsLaidOut_compact : ∀ (items : List Value) {b : List Char}, items ≠ [] →
    (∀ v ∈ items, v.isDocument = true) → AllSpace b → ItemsLaidOut items (b ++ compactItems items)
  | [], _, h, _, _ => absurd rfl h
  | [v], b, _, hv, hb =>
    ⟨b, _, [], hb, laidOut_compact v (hv v List.mem_cons_self), allSpace_nil, by simp [compactItems]⟩
  | v :: w :: rest, b, _, hv, hb => by
    obtain ⟨hv, hrest⟩ := List.forall_mem_cons.1 hv
    exact ⟨b, _, [], _, hb, laidOut_compact v hv, allSpace_nil,
      itemsLaidOut_compact (w :: rest) (b := [' ']) (by simp) hrest allSpace_blank,
      by simp [compactItems]⟩
theorem entriesLaidOut_compact : ∀ (entries : List (String × Value)) {b : List Char},
    entries ≠ [] → (∀ e ∈ entries, e.2.isDocument = true) → AllSpace b →
      EntriesLaidOut entries (b ++ compactEntries entries)
  | [], _, h, _, _ => absurd rfl h
  | [(k, v)], b, _, hv, hb =>
    ⟨b, [], [' '], _, [], hb, allSpace_nil, allSpace_blank,
      laidOut_compact v (hv (k, v) List.mem_cons_self), allSpace_nil, by simp [compactEntries]⟩
  | (k, v) :: e :: rest, b, _, hv, hb => by
    obtain ⟨hv, hrest⟩ := List.forall_mem_cons.1 hv
    exact ⟨b, [], [' '], _, [], _, hb, allSpace_nil, allSpace_blank,
      laidOut_compact v hv, allSpace_nil,
      entriesLaidOut_compact (e :: rest) (b := [' ']) (by simp) hrest allSpace_blank,
      by simp [compactEntries]⟩
end

/-- Every value of JSON is read back from its text on one line. -/
theorem parse_compact {v : Value} (hv : v.isDocument = true) : parse (compact v) = .ok v :=
  parseWith_laidOut hv (laidOut_compact v hv)

/-! ## Over several lines -/

theorem allSpace_newline (level : Nat) : AllSpace (newline level) := by
  intro c hc
  rcases List.mem_cons.1 hc with rfl | hc
  · rfl
  · rw [List.eq_of_mem_replicate hc]
    rfl

mutual
/-- The text over several lines is a layout. -/
theorem laidOut_indented : ∀ (v : Value) (level : Nat), v.isDocument = true →
    LaidOut v (indented level v)
  | .null, _, _ | .bool _, _, _ | .int _, _, _ | .float _, _, _ | .text _, _, _ | .list [], _, _
  | .object [], _, _ => rfl
  | .list (v :: rest), level, h =>
    ⟨_, itemsLaidOut_indented (v :: rest) (level + 1) (by simp) (Value.isDocument_list.1 h)
      (allSpace_newline level), rfl⟩
  | .object (e :: rest), level, h =>
    ⟨_, entriesLaidOut_indented (e :: rest) (level + 1) (by simp) (Value.isDocument_of_mem_entries h)
      (allSpace_newline level), rfl⟩
theorem itemsLaidOut_indented : ∀ (items : List Value) (level : Nat) {b : List Char}, items ≠ [] →
    (∀ v ∈ items, v.isDocument = true) → AllSpace b →
      ItemsLaidOut items (indentedItems level items ++ b)
  | [], _, _, h, _, _ => absurd rfl h
  | [v], level, b, _, hv, hb =>
    ⟨newline level, _, b, allSpace_newline level, laidOut_indented v level (hv v List.mem_cons_self), hb,
      by simp [indentedItems]⟩
  | v :: w :: rest, level, b, _, hv, hb => by
    obtain ⟨hv, hrest⟩ := List.forall_mem_cons.1 hv
    exact ⟨newline level, _, [], _, allSpace_newline level, laidOut_indented v level hv, allSpace_nil,
      itemsLaidOut_indented (w :: rest) level (by simp) hrest hb, by simp [indentedItems]⟩
theorem entriesLaidOut_indented : ∀ (entries : List (String × Value)) (level : Nat) {b : List Char},
    entries ≠ [] → (∀ e ∈ entries, e.2.isDocument = true) → AllSpace b →
      EntriesLaidOut entries (indentedEntries level entries ++ b)
  | [], _, _, h, _, _ => absurd rfl h
  | [(k, v)], level, b, _, hv, hb =>
    ⟨newline level, [], [' '], _, b, allSpace_newline level, allSpace_nil, allSpace_blank,
      laidOut_indented v level (hv (k, v) List.mem_cons_self), hb, by simp [indentedEntries]⟩
  | (k, v) :: e :: rest, level, b, _, hv, hb => by
    obtain ⟨hv, hrest⟩ := List.forall_mem_cons.1 hv
    exact ⟨newline level, [], [' '], _, [], _, allSpace_newline level, allSpace_nil, allSpace_blank,
      laidOut_indented v level hv, allSpace_nil,
      entriesLaidOut_indented (e :: rest) level (by simp) hrest hb, by simp [indentedEntries]⟩
end

/-- Every value of JSON is read back from its text over several lines. -/
theorem parseWith_indented {v : Value} (hv : v.isDocument = true) :
    parseWith stands (indented 0 v) = .ok v :=
  parseWith_laidOut hv (laidOut_indented v 0 hv)

end ShelfRules.Json
