import Mathlib.Data.List.Basic
import ShelfRules.Calendar.Pattern

/-!
# What patterns read

Each piece of a date pattern reads at least one character, of a kind of its own, and leaves what stands
behind. So a text that a pattern reads has for each of its pieces a character of the kind: without a
slash, a point and a blank only the patterns are left that have none of them.

Results:
* `Piece.reads_leaves`: a piece reads a character of its kind, and leaves what stands behind.
* `Pattern.exists_starts`: a text that is read has a character for each piece.
* `Pattern.read?_year_cons`: no year is read where a character among the first four is no digit.
* `Pattern.read?_eq_none_of_piece`, `Pattern.read?_eq_none_of_head`: texts that lack a character that a
  piece starts with are not read.
* `Pattern.digits_le`, `Pattern.signs_le`: a text that is read has the digits and signs of the pieces.
-/

namespace ShelfRules

variable {s t : List Char}

/-! ## Digits -/

namespace Text

theorem digitValue?_of_isDigit {c : Char} (h : c.isDigit = true) :
    digitValue? c = some (c.toNat - 48) := by
  obtain ⟨hlow, hhigh⟩ : 48 ≤ c.toNat ∧ c.toNat ≤ 57 := Char.isDigit_iff_toNat.1 h
  have hzero : (decide (0x30 ≤ c.toNat) && decide (c.toNat < 0x30 + 10)) = true := by
    rw [Bool.and_eq_true, decide_eq_true_eq, decide_eq_true_eq]
    omega
  have hfind : zeros.find? (fun z => z ≤ c.toNat && c.toNat < z + 10) = some 0x30 :=
    List.find?_cons_of_pos (p := fun z => decide (z ≤ c.toNat) && decide (c.toNat < z + 10)) hzero
  rw [digitValue?, hfind]
  rfl

theorem isDecimal_of_isDigit {c : Char} (h : c.isDigit = true) : isDecimal c = true := by
  rw [isDecimal, digitValue?_of_isDigit h]
  rfl

end Text

/-! ## Pieces -/

namespace Piece

/-- The piece may start with the character. -/
def starts : Piece → Char → Bool
  | .year, c => Text.isDecimal c
  | .month, c => c.isDigit
  | .day, c => c.isDigit || c == ' '
  | .monthName, c => monthNames.any (·.head? == some c.toLower)
  | .monthAbbreviation, c => (monthNames.map (·.take 3)).any (·.head? == some c.toLower)
  | .blanks, c => Text.isBlank c
  | .sign d, c => c == d

/-- The text has a character of a kind in front, and ends with what is left. -/
def Leaves (kind : Char → Bool) (s t : List Char) : Prop :=
  ∃ c rest, s = c :: rest ∧ kind c = true ∧ t <:+ rest

theorem readUnit_leaves {base n : Nat} {digit? : Char → Option Nat}
    (h : (n, t) ∈ readUnit base digit? s) : Leaves (fun c => (digit? c).isSome) s t := by
  cases s with
  | nil => cases h
  | cons c rest =>
    rw [readUnit, Option.mem_toList, Option.map_eq_some_iff] at h
    obtain ⟨d, hd, heq⟩ := h
    cases heq
    exact ⟨c, t, rfl, Option.isSome_iff_exists.2 ⟨d, hd⟩, List.suffix_rfl⟩

theorem readPast_leaves {lead : Char} {read : List Char → List (Nat × List Char)} {n : Nat}
    (hread : ∀ {s}, (n, t) ∈ read s → t <:+ s) (h : (n, t) ∈ readPast lead read s) :
    Leaves (· == lead) s t := by
  cases s with
  | nil => cases h
  | cons c rest =>
    rw [readPast] at h
    split at h
    · rename_i hc
      exact ⟨c, rest, rfl, beq_iff_eq.2 hc, hread h⟩
    · cases h

theorem Leaves.suffix {kind : Char → Bool} (h : Leaves kind s t) : t <:+ s := by
  obtain ⟨c, rest, rfl, -, hrest⟩ := h
  exact hrest.trans (List.suffix_cons c rest)

theorem Leaves.imp {kind other : Char → Bool} (h : Leaves kind s t)
    (hkind : ∀ c, kind c = true → other c = true) : Leaves other s t := by
  obtain ⟨c, rest, hs, hc, hrest⟩ := h
  exact ⟨c, rest, hs, hkind c hc, hrest⟩

theorem isDigit_of_digitIn {low high : Nat} {c : Char} (h : (digitIn? low high c).isSome = true) :
    c.isDigit = true := by
  simp only [digitIn?, Option.isSome_ite, Bool.and_eq_true] at h
  exact h.1.1

theorem readNonzero_leaves {n : Nat} (h : (n, t) ∈ readNonzero s) : Leaves Char.isDigit s t :=
  (readUnit_leaves h).imp fun _ => isDigit_of_digitIn

theorem readMonth_leaves {n : Nat} (h : (n, t) ∈ readMonth s) : Leaves Char.isDigit s t := by
  have hlead : ∀ {lead : Char}, lead.isDigit = true →
      ∀ c, (c == lead) = true → c.isDigit = true := by
    intro lead hlead c hc
    rwa [eq_of_beq hc]
  rw [readMonth, List.mem_append, List.mem_append] at h
  rcases h with (h | h) | h
  · exact (readPast_leaves (fun h => (readUnit_leaves h).suffix) h).imp (hlead rfl)
  · exact (readPast_leaves (fun h => (readNonzero_leaves h).suffix) h).imp (hlead rfl)
  · exact readNonzero_leaves h

/-- A day has a digit in front, or behind a space. -/
theorem readDay_cases {n : Nat} (h : (n, t) ∈ readDay s) :
    Leaves Char.isDigit s t ∨ ∃ rest, s = ' ' :: rest ∧ Leaves Char.isDigit rest t := by
  have hlead : ∀ {lead : Char}, lead.isDigit = true →
      ∀ c, (c == lead) = true → c.isDigit = true := by
    intro lead hlead c hc
    rwa [eq_of_beq hc]
  simp only [readDay, List.mem_append] at h
  rcases h with ((((h | h) | h) | h) | h) | h
  · exact .inl ((readPast_leaves (fun h => (readUnit_leaves h).suffix) h).imp (hlead rfl))
  · exact .inl ((readPast_leaves (fun h => (readUnit_leaves h).suffix) h).imp (hlead rfl))
  · exact .inl ((readPast_leaves (fun h => (readUnit_leaves h).suffix) h).imp (hlead rfl))
  · exact .inl ((readPast_leaves (fun h => (readNonzero_leaves h).suffix) h).imp (hlead rfl))
  · exact .inl (readNonzero_leaves h)
  · cases s with
    | nil => cases h
    | cons c rest =>
      rw [readPast] at h
      split at h
      · rename_i hc
        exact .inr ⟨rest, congrArg (· :: rest) hc, readNonzero_leaves h⟩
      · cases h

theorem readDay_leaves {n : Nat} (h : (n, t) ∈ readDay s) :
    Leaves (fun c => c.isDigit || c == ' ') s t := by
  rcases readDay_cases h with hdigit | ⟨rest, rfl, hdigit⟩
  · exact hdigit.imp fun c hc => by rw [hc]; rfl
  · exact ⟨' ', rest, rfl, rfl, hdigit.suffix⟩

/-- A year is four digits. -/
theorem mem_readYear {n : Nat} (h : (n, t) ∈ readYear s) :
    ∃ ds, s = ds ++ t ∧ ds.length = 4 ∧ ∀ c ∈ ds, Text.isDecimal c = true := by
  rcases s with _ | ⟨a, _ | ⟨b, _ | ⟨c, _ | ⟨d, s⟩⟩⟩⟩
  · cases h
  · cases h
  · cases h
  · cases h
  · rw [readYear] at h
    split at h
    · rename_i hall
      cases List.mem_singleton.1 h
      exact ⟨[a, b, c, d], rfl, rfl, List.all_eq_true.1 hall⟩
    · cases h

theorem readYear_leaves {n : Nat} (h : (n, t) ∈ readYear s) : Leaves Text.isDecimal s t := by
  obtain ⟨ds, rfl, hlength, hds⟩ := mem_readYear h
  cases ds with
  | nil => cases hlength
  | cons c ds => exact ⟨c, ds ++ t, rfl, hds c List.mem_cons_self, List.suffix_append ds t⟩

theorem readName_leaves {names : List (List Char)} (hnames : ∀ name ∈ names, name ≠ []) {n : Nat}
    (h : (n, t) ∈ readName names s) :
    Leaves (fun c => names.any (·.head? == some c.toLower)) s t := by
  obtain ⟨⟨name, i⟩, hname, h⟩ := List.mem_filterMap.1 h
  have hmem : name ∈ names := List.fst_mem_of_mem_zipIdx hname
  dsimp only at h
  split at h
  · rename_i hfront
    cases h
    cases name with
    | nil => exact absurd rfl (hnames [] hmem)
    | cons x name =>
      cases s with
      | nil => cases hfront
      | cons c rest =>
        obtain ⟨rfl, -⟩ := List.cons.inj hfront
        have hstart : names.any (·.head? == some c.toLower) = true :=
          List.any_eq_true.2 ⟨_, hmem, beq_iff_eq.2 rfl⟩
        exact ⟨c, rest, rfl, hstart, List.drop_suffix name.length rest⟩
  · cases h

theorem passBlanks_leaves (h : t ∈ passBlanks s) : Leaves Text.isBlank s t := by
  obtain ⟨i, hi, rfl⟩ := List.mem_map.1 h
  cases s with
  | nil => cases hi
  | cons c rest =>
    have hi := List.mem_range.1 hi
    rw [List.takeWhile_cons] at hi ⊢
    split at hi
    · rename_i hc
      rw [List.length_cons] at hi
      rw [if_pos hc, List.length_cons, Nat.sub_add_comm (Nat.le_of_lt_succ hi), List.drop_succ_cons]
      exact ⟨c, rest, rfl, hc, List.drop_suffix _ _⟩
    · cases hi

theorem monthNames_ne_nil : (∀ name ∈ monthNames, name ≠ []) ∧
    ∀ name ∈ monthNames.map (·.take 3), name ≠ [] := by
  decide +kernel

/-- A piece reads a character of its kind, and leaves what stands behind. -/
theorem reads_leaves {piece : Piece} {parts parts' : DateParts}
    (h : (parts', t) ∈ piece.reads parts s) : Leaves piece.starts s t := by
  have hnumber : ∀ (f : Nat → DateParts) {numbers : List (Nat × List Char)},
      (parts', t) ∈ (numbers.map fun number => (f number.1, number.2)) →
      ∃ n, (n, t) ∈ numbers := by
    intro f numbers h
    obtain ⟨⟨n, u⟩, hn, heq⟩ := List.mem_map.1 h
    cases heq
    exact ⟨n, hn⟩
  cases piece with
  | year =>
    obtain ⟨n, hn⟩ := hnumber (fun n => { parts with year := n }) h
    exact readYear_leaves hn
  | month =>
    obtain ⟨n, hn⟩ := hnumber (fun n => { parts with month := n }) h
    exact readMonth_leaves hn
  | day =>
    obtain ⟨n, hn⟩ := hnumber (fun n => { parts with day := n }) h
    exact readDay_leaves hn
  | monthName =>
    obtain ⟨n, hn⟩ := hnumber (fun n => { parts with month := n }) h
    exact readName_leaves monthNames_ne_nil.1 hn
  | monthAbbreviation =>
    obtain ⟨n, hn⟩ := hnumber (fun n => { parts with month := n }) h
    exact readName_leaves monthNames_ne_nil.2 hn
  | blanks =>
    obtain ⟨u, hu, heq⟩ := List.mem_map.1 h
    cases heq
    exact passBlanks_leaves hu
  | sign c =>
    cases s with
    | nil => cases h
    | cons d rest =>
      simp only [reads] at h
      split at h
      · rename_i hd
        cases List.mem_singleton.1 h
        exact ⟨d, t, rfl, beq_iff_eq.2 hd, List.suffix_rfl⟩
      · cases h

/-! ## Counted characters of pieces -/

/-- The digits that a piece reads at least. -/
def digits : Piece → Nat
  | .year => 4
  | .month | .day => 1
  | _ => 0

/-- How often a piece reads a character as a sign. -/
def signs (c : Char) : Piece → Nat
  | .sign d => if d = c then 1 else 0
  | _ => 0

theorem Leaves.countP_lt {kind other : Char → Bool} (h : Leaves kind s t)
    (hkind : ∀ c, kind c = true → other c = true) : t.countP other < s.countP other := by
  obtain ⟨c, rest, rfl, hc, hrest⟩ := h
  rw [List.countP_cons_of_pos (hkind c hc)]
  exact Nat.lt_succ_of_le hrest.sublist.countP_le

theorem reads_digits {piece : Piece} {parts parts' : DateParts}
    (h : (parts', t) ∈ piece.reads parts s) :
    piece.digits + t.countP Text.isDecimal ≤ s.countP Text.isDecimal := by
  have hsuffix : t.countP Text.isDecimal ≤ s.countP Text.isDecimal :=
    (reads_leaves h).suffix.sublist.countP_le
  have hdigit : ∀ {u : List Char}, Leaves Char.isDigit u t →
      t.countP Text.isDecimal < u.countP Text.isDecimal := fun h =>
    h.countP_lt fun _ => Text.isDecimal_of_isDigit
  cases piece with
  | year =>
    obtain ⟨⟨n, u⟩, hread, heq⟩ := List.mem_map.1 h
    cases heq
    obtain ⟨ds, rfl, hlength, hds⟩ := mem_readYear hread
    rw [List.countP_append, List.countP_eq_length.2 hds, hlength]
    exact Nat.le_refl _
  | month =>
    obtain ⟨⟨n, u⟩, hread, heq⟩ := List.mem_map.1 h
    cases heq
    have := hdigit (readMonth_leaves hread)
    rw [digits]
    omega
  | day =>
    obtain ⟨⟨n, u⟩, hread, heq⟩ := List.mem_map.1 h
    cases heq
    rw [digits]
    rcases readDay_cases hread with hfront | ⟨rest, rfl, hbehind⟩
    · have := hdigit hfront
      omega
    · have hspace : rest.countP Text.isDecimal ≤ (' ' :: rest).countP Text.isDecimal :=
        (List.sublist_cons_self ' ' rest).countP_le
      have := hdigit hbehind
      omega
  | monthName | monthAbbreviation | blanks | sign =>
    exact (Nat.zero_add _).symm ▸ hsuffix

theorem reads_signs {c : Char} {piece : Piece} {parts parts' : DateParts}
    (h : (parts', t) ∈ piece.reads parts s) :
    piece.signs c + t.countP (· == c) ≤ s.countP (· == c) := by
  have hleaves := reads_leaves h
  have hsuffix : t.countP (· == c) ≤ s.countP (· == c) := hleaves.suffix.sublist.countP_le
  cases piece with
  | sign d =>
    rw [signs]
    split
    · rename_i hd
      subst hd
      have : t.countP (· == d) < s.countP (· == d) := hleaves.countP_lt fun _ => id
      omega
    · omega
  | _ => exact (Nat.zero_add _).symm ▸ hsuffix

end Piece

/-! ## Patterns -/

namespace Pattern

/-- What a pattern reads, its first piece reads in some way, and the other ones read behind it. -/
theorem readFrom_cons_eq_some {piece : Piece} {pattern : Pattern} {parts : DateParts}
    {read : DateParts × List Char} (h : readFrom (piece :: pattern) parts s = some read) :
    ∃ parts' u, (parts', u) ∈ piece.reads parts s ∧ readFrom pattern parts' u = some read := by
  unfold readFrom at h
  obtain ⟨⟨parts', u⟩, hread, hrest⟩ := List.exists_of_findSome?_eq_some h
  exact ⟨parts', u, hread, hrest⟩

/-- A date is read from the whole text. -/
theorem exists_readFrom {pattern : Pattern} {d : Date} (h : pattern.read? s = some d) :
    ∃ parts, pattern.readFrom {} s = some (parts, []) := by
  unfold read? at h
  split at h
  · rename_i parts hread
    exact ⟨parts, hread⟩
  · cases h

theorem exists_starts_of_readFrom {pattern : Pattern} {parts parts' : DateParts}
    (h : pattern.readFrom parts s = some (parts', t)) :
    ∀ piece ∈ pattern, ∃ c ∈ s, piece.starts c = true := by
  induction pattern generalizing parts s with
  | nil => exact List.forall_mem_nil _
  | cons piece pattern ih =>
    obtain ⟨read, u, hread, hrest⟩ := readFrom_cons_eq_some h
    obtain ⟨c, rest, rfl, hc, hsuffix⟩ := Piece.reads_leaves hread
    refine List.forall_mem_cons.2 ⟨⟨c, List.mem_cons_self, hc⟩, fun other hother => ?_⟩
    obtain ⟨d, hd, hstarts⟩ := ih hrest other hother
    exact ⟨d, List.mem_cons_of_mem c (hsuffix.subset hd), hstarts⟩

/-- A text that a pattern reads has a character of the kind of each of its pieces. -/
theorem exists_starts {pattern : Pattern} {d : Date} (h : pattern.read? s = some d) :
    ∀ piece ∈ pattern, ∃ c ∈ s, piece.starts c = true := by
  obtain ⟨parts, hread⟩ := exists_readFrom h
  exact exists_starts_of_readFrom hread

/-- A pattern does not read a text that its first piece does not read. -/
theorem read?_eq_none_of_reads {pattern : Pattern} {piece : Piece}
    (h : piece.reads {} s = []) : read? (piece :: pattern) s = none := by
  rw [read?, readFrom, h]
  rfl

/-- No year is read from a text of which one of the first four characters is no digit. -/
theorem read?_year_cons {pattern : Pattern} {c : Char} (hc : c ∈ s.take 4)
    (hdigit : Text.isDecimal c = false) : read? (.year :: pattern) s = none := by
  have hyear : Piece.readYear s = [] := by
    refine List.eq_nil_iff_forall_not_mem.2 fun ⟨n, t⟩ hread => ?_
    obtain ⟨ds, rfl, hlength, hds⟩ := Piece.mem_readYear hread
    rw [List.take_left' hlength] at hc
    rw [hds c hc] at hdigit
    cases hdigit
  exact read?_eq_none_of_reads (by rw [Piece.reads, hyear]; rfl)

/-- What a pattern reads that starts with a year has four digits in front. -/
theorem exists_year {pattern : Pattern} {parts : DateParts} {read : DateParts × List Char}
    (h : readFrom (.year :: pattern) parts s = some read) :
    ∃ ds u parts', s = ds ++ u ∧ ds.length = 4 ∧ (∀ c ∈ ds, Text.isDecimal c = true) ∧
      readFrom pattern parts' u = some read := by
  obtain ⟨parts', u, hread, hrest⟩ := readFrom_cons_eq_some h
  obtain ⟨⟨n, v⟩, hyear, heq⟩ := List.mem_map.1 hread
  cases heq
  obtain ⟨ds, hs, hlength, hds⟩ := Piece.mem_readYear hyear
  exact ⟨ds, _, _, hs, hlength, hds, hrest⟩

/-- A bare year is a text of four digits. -/
theorem read?_year_eq_some {d : Date} (h : read? [.year] s = some d) :
    s.length = 4 ∧ ∀ c ∈ s, Text.isDecimal c = true := by
  obtain ⟨parts, hread⟩ := exists_readFrom h
  obtain ⟨ds, u, parts', rfl, hlength, hds, hrest⟩ := exists_year hread
  cases hrest
  rw [List.append_nil]
  exact ⟨hlength, hds⟩

/-- A year and a sign are four digits with the sign behind them. -/
theorem read?_year_sign {pattern : Pattern} {c : Char} {d : Date}
    (h : read? (.year :: .sign c :: pattern) s = some d) :
    ∃ ds rest, s = ds ++ c :: rest ∧ ds.length = 4 ∧ ∀ x ∈ ds, Text.isDecimal x = true := by
  obtain ⟨parts, hread⟩ := exists_readFrom h
  obtain ⟨ds, u, parts', rfl, hlength, hds, hrest⟩ := exists_year hread
  obtain ⟨parts', v, hsign, -⟩ := readFrom_cons_eq_some hrest
  obtain ⟨x, rest, rfl, hx, -⟩ := Piece.reads_leaves hsign
  obtain rfl : x = c := eq_of_beq hx
  exact ⟨ds, rest, rfl, hlength, hds⟩

/-- A pattern does not read a text that has no character of the kind of one of its pieces. -/
theorem read?_eq_none_of_piece {pattern : Pattern} {piece : Piece} (hpiece : piece ∈ pattern)
    (h : ∀ c ∈ s, piece.starts c = false) : pattern.read? s = none := by
  refine Option.eq_none_iff_forall_ne_some.2 fun d hread => ?_
  obtain ⟨c, hc, hstarts⟩ := exists_starts hread piece hpiece
  rw [h c hc] at hstarts
  cases hstarts

/-- A pattern does not read a text that starts with a character that its first piece does not start
with. -/
theorem read?_eq_none_of_head {pattern : Pattern} {piece : Piece} {c : Char}
    (h : piece.starts c = false) : read? (piece :: pattern) (c :: s) = none := by
  refine read?_eq_none_of_reads (List.eq_nil_iff_forall_not_mem.2 fun ⟨parts, t⟩ hread => ?_)
  obtain ⟨d, rest, hcons, hd, -⟩ := Piece.reads_leaves hread
  obtain ⟨rfl, -⟩ := List.cons.inj hcons
  rw [h] at hd
  cases hd

/-! ## Counted characters -/

/-- The weights of the pieces of a pattern together. -/
def weigh (weight : Piece → Nat) : Pattern → Nat
  | [] => 0
  | piece :: rest => weight piece + weigh weight rest

/-- When each piece reads a number of characters of a kind, a pattern reads as many as its pieces do
together. -/
theorem weigh_le_of_readFrom {kind : Char → Bool} {weight : Piece → Nat}
    (hpiece : ∀ {piece : Piece} {parts parts' : DateParts} {s t : List Char},
      (parts', t) ∈ piece.reads parts s → weight piece + t.countP kind ≤ s.countP kind)
    {pattern : Pattern} {parts parts' : DateParts}
    (h : pattern.readFrom parts s = some (parts', t)) :
    pattern.weigh weight + t.countP kind ≤ s.countP kind := by
  induction pattern generalizing parts s with
  | nil =>
    cases h
    exact Nat.le_of_eq (Nat.zero_add _)
  | cons piece pattern ih =>
    obtain ⟨read, u, hread, hrest⟩ := readFrom_cons_eq_some h
    have hfront := hpiece hread
    have hbehind := ih hrest
    rw [weigh]
    omega

theorem weigh_le {kind : Char → Bool} {weight : Piece → Nat}
    (hpiece : ∀ {piece : Piece} {parts parts' : DateParts} {s t : List Char},
      (parts', t) ∈ piece.reads parts s → weight piece + t.countP kind ≤ s.countP kind)
    {pattern : Pattern} {d : Date} (h : pattern.read? s = some d) :
    pattern.weigh weight ≤ s.countP kind := by
  obtain ⟨parts, hread⟩ := exists_readFrom h
  exact Nat.le_trans (Nat.le_add_right _ _) (weigh_le_of_readFrom hpiece hread)

/-- A text that a pattern reads has the digits of its pieces. -/
theorem digits_le {pattern : Pattern} {d : Date} (h : pattern.read? s = some d) :
    pattern.weigh Piece.digits ≤ s.countP Text.isDecimal :=
  weigh_le Piece.reads_digits h

/-- A text that a pattern reads has the signs of its pieces. -/
theorem signs_le {pattern : Pattern} {d : Date} (c : Char) (h : pattern.read? s = some d) :
    pattern.weigh (Piece.signs c) ≤ s.countP (· == c) :=
  weigh_le Piece.reads_signs h

end Pattern

end ShelfRules
