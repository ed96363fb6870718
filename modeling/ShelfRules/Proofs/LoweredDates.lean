import ShelfRules.Calendar.Pattern
import ShelfRules.Proofs.LoweredTimes

/-!
# Dates in lower case

A pattern reads texts that resemble each other alike: each of its pieces reads both in the same
ways. With the ISO texts, a text is a date when a text that resembles it is one without the marker
of a week.

Results:
* `Pattern.read?_eq`: a pattern reads alike.
* `Moment.ofText?_of_resembles`: a text that resembles a date without the marker of a week is a
  date.
* `Moment.ofText?_eq`: without that marker texts that resemble each other are the same date.
-/

namespace ShelfRules

open Text (Resembles IsPlain)

variable {s l : List Char}

/-! ## Pieces of patterns -/

namespace Piece

/-- The same readings in the same order. -/
abbrev SameReadings {α : Type} (xs ys : List (α × List Char)) : Prop :=
  List.Forall₂ SameReading xs ys

theorem SameReadings.map {α β : Type} {xs ys : List (α × List Char)} (h : SameReadings xs ys)
    (f : α → β) : SameReadings (xs.map fun (a, s) => (f a, s)) (ys.map fun (a, s) => (f a, s)) := by
  rw [SameReadings, List.forall₂_map_left_iff, List.forall₂_map_right_iff]
  exact h.imp fun _ _ hxy => ⟨congrArg f hxy.1, hxy.2⟩

theorem readUnit_resembles {base : Nat} {digit? : Char → Option Nat}
    (hdigit : IsPlain fun c => (digit? c).isSome) (h : Resembles s l) :
    SameReadings (readUnit base digit? s) (readUnit base digit? l) := by
  rcases h.cases_head hdigit with ⟨rfl, rfl⟩ | ⟨c, s', l', rfl, rfl, -, hrest⟩ |
    ⟨c, s', d, l', rfl, rfl, hc, hd⟩
  · exact .nil
  · rw [readUnit, readUnit]
    cases digit? c with
    | none => exact .nil
    | some n => exact .cons ⟨rfl, hrest⟩ .nil
  · rw [Option.isSome_eq_false_iff, Option.isNone_iff_eq_none] at hc hd
    rw [readUnit, readUnit, hc, hd]
    exact .nil

theorem readPast_resembles {lead : Char} (hlead : lead.toNat ≤ 0x40)
    {read : List Char → List (Nat × List Char)}
    (hread : ∀ {s l}, Resembles s l → SameReadings (read s) (read l)) (h : Resembles s l) :
    SameReadings (readPast lead read s) (readPast lead read l) := by
  have hplain : IsPlain (· == lead) := fun c hc => .inr (by
    rw [eq_of_beq hc]
    exact Text.isCaseless_of_toNat_le hlead)
  rcases h.cases_head hplain with ⟨rfl, rfl⟩ | ⟨c, s', l', rfl, rfl, hc, hrest⟩ |
    ⟨c, s', d, l', rfl, rfl, hc, hd⟩
  · exact .nil
  · rw [readPast, readPast, if_pos (eq_of_beq hc), if_pos (eq_of_beq hc)]
    exact hread hrest
  · rw [readPast, readPast, if_neg (ne_of_beq_false hc), if_neg (ne_of_beq_false hd)]
    exact .nil

theorem isPlain_digitIn (low high : Nat) : IsPlain fun c => (digitIn? low high c).isSome := by
  intro c hc
  simp only [digitIn?, Option.isSome_ite, Bool.and_eq_true] at hc
  exact Text.isPlain_isDigit c hc.1.1

theorem isPlain_isDecimal : IsPlain Text.isDecimal :=
  fun _ h => .inr (Text.isCaseless_of_isDecimal h)

theorem readNonzero_resembles (h : Resembles s l) : SameReadings (readNonzero s) (readNonzero l) :=
  readUnit_resembles (isPlain_digitIn 1 9) h

theorem readMonth_resembles (h : Resembles s l) : SameReadings (readMonth s) (readMonth l) := by
  refine List.rel_append (List.rel_append ?_ ?_) (readNonzero_resembles h)
  · exact readPast_resembles (by decide) (readUnit_resembles (isPlain_digitIn 0 2)) h
  · exact readPast_resembles (by decide) readNonzero_resembles h

theorem readDay_resembles (h : Resembles s l) : SameReadings (readDay s) (readDay l) := by
  refine List.rel_append (List.rel_append (List.rel_append (List.rel_append (List.rel_append
    ?_ ?_) ?_) ?_) (readNonzero_resembles h)) ?_
  · exact readPast_resembles (by decide) (readUnit_resembles (isPlain_digitIn 0 1)) h
  · exact readPast_resembles (by decide) (readUnit_resembles isPlain_isDecimal) h
  · exact readPast_resembles (by decide) (readUnit_resembles isPlain_isDecimal) h
  · exact readPast_resembles (by decide) readNonzero_resembles h
  · exact readPast_resembles (by decide) readNonzero_resembles h

/-- A year is read from four digits in front. -/
theorem readYear_eq (s : List Char) : readYear s = if 4 ≤ (s.takeWhile Text.isDecimal).length then
    [(Text.digitsValue ((s.takeWhile Text.isDecimal).take 4), s.drop 4)] else [] := by
  rcases s with _ | ⟨a, _ | ⟨b, _ | ⟨c, _ | ⟨d, s⟩⟩⟩⟩ <;>
    grind [readYear, List.takeWhile_cons, List.takeWhile_nil]

theorem readYear_resembles (h : Resembles s l) : SameReadings (readYear s) (readYear l) := by
  rw [readYear_eq, readYear_eq, ← h.takeWhile_eq isPlain_isDecimal]
  split
  · rename_i hfour
    exact .cons ⟨rfl, h.drop isPlain_isDecimal hfour⟩ .nil
  · exact .nil

theorem passBlanks_resembles (h : Resembles s l) :
    List.Forall₂ Resembles (passBlanks s) (passBlanks l) := by
  rw [passBlanks, passBlanks, ← h.takeWhile_eq Text.isPlain_isBlank, List.forall₂_map_left_iff,
    List.forall₂_map_right_iff, List.forall₂_same]
  exact fun i _ => h.drop Text.isPlain_isBlank (Nat.sub_le _ _)

/-- The name is of characters of ASCII, the last of which is no `i`. -/
def isName (name : List Char) : Bool := name.all (·.toNat < 128) && name.getLast? != some 'i'

theorem toLower_of_not_ascii {c : Char} (h : 128 ≤ c.toNat) : c.toLower = c := by
  refine dif_neg ?_
  rintro ⟨-, hcode⟩
  have hupper : c.toNat ≤ 'Z'.toNat := UInt32.le_iff_toNat_le.1 hcode
  have hz : 'Z'.toNat < 128 := by decide
  omega

theorem toLower_eq_iff {c d x : Char} (h : Text.Similar c d) (hx : x.toNat < 128) :
    c.toLower = x ↔ d.toLower = x := by
  by_cases hc : c.toNat < 128
  · rw [h.letter hc]
  · have hkept : ∀ {e : Char}, 128 ≤ e.toNat → e.toLower ≠ x := fun he hlower => by
      rw [toLower_of_not_ascii he] at hlower
      subst hlower
      omega
    have hd : 128 ≤ d.toNat := Nat.le_of_not_lt (mt h.ascii.2 hc)
    exact iff_of_false (hkept (Nat.le_of_not_lt hc)) (hkept hd)

/-- A name stands in front of both texts or of neither. -/
theorem name_resembles {name : List Char} (hname : isName name = true) (h : Resembles s l) :
    ((s.take name.length).map Char.toLower = name ↔ (l.take name.length).map Char.toLower = name) ∧
      ((s.take name.length).map Char.toLower = name →
        Resembles (s.drop name.length) (l.drop name.length)) := by
  simp only [isName, Bool.and_eq_true, List.all_eq_true, decide_eq_true_eq, bne_iff_ne] at hname
  obtain ⟨hchars, hlast⟩ := hname
  induction name generalizing s l with
  | nil => simpa using h
  | cons x name ih =>
    obtain ⟨hx, hascii⟩ := List.forall_mem_cons.1 hchars
    cases h with
    | nil => simp
    | cons hcd hrest =>
      have hlast' : name.getLast? ≠ some 'i' := by
        cases name with
        | nil => simp
        | cons _ _ => simpa using hlast
      obtain ⟨hiff, hdrop⟩ := ih hrest hascii hlast'
      simp only [List.length_cons, List.take_succ_cons, List.map_cons, List.cons.injEq,
        List.drop_succ_cons, toLower_eq_iff hcd hx, hiff]
      exact ⟨trivial, fun hboth => hdrop (hiff.2 hboth.2)⟩
    | @dotted s' l' _ =>
      have hdotted : '\u0130'.toLower ≠ x := by
        rintro rfl
        exact absurd hx (by decide)
      -- Behind the `i` that a dotted capital I becomes stands no character of ASCII.
      have hi : ¬('i'.toLower = x ∧
          (('\u0307' :: l').take name.length).map Char.toLower = name) := by
        rintro ⟨rfl, hname⟩
        cases name with
        | nil => exact hlast rfl
        | cons y name =>
          obtain ⟨rfl, -⟩ := List.cons.inj hname
          exact absurd (hascii _ List.mem_cons_self) (by decide)
      simp only [List.length_cons, List.take_succ_cons, List.map_cons, List.cons.injEq,
        List.drop_succ_cons, hdotted, false_and, hi]
      exact ⟨trivial, False.elim⟩

theorem readName_resembles {names : List (List Char)} (hnames : ∀ name ∈ names, isName name = true)
    (h : Resembles s l) : SameReadings (readName names s) (readName names l) := by
  have hzip : ∀ entry ∈ names.zipIdx, isName entry.1 = true := fun entry hentry =>
    hnames _ (List.fst_mem_of_mem_zipIdx hentry)
  unfold readName
  generalize names.zipIdx = entries at hzip ⊢
  induction entries with
  | nil => exact .nil
  | cons entry rest ih =>
    obtain ⟨hentry, hrest⟩ := List.forall_mem_cons.1 hzip
    obtain ⟨hiff, hdrop⟩ := name_resembles hentry h
    by_cases hname : (s.take entry.1.length).map Char.toLower = entry.1
    · rw [List.filterMap_cons, List.filterMap_cons]
      simp only [if_pos hname, if_pos (hiff.1 hname)]
      exact .cons ⟨rfl, hdrop hname⟩ (ih hrest)
    · rw [List.filterMap_cons, List.filterMap_cons]
      simp only [if_neg hname, if_neg (mt hiff.2 hname)]
      exact ih hrest

/-- The piece asks for no sign with case. -/
def isCaseless : Piece → Bool
  | .sign c => Text.isCaseless c
  | _ => true

theorem monthNames_isName : (∀ name ∈ monthNames, isName name = true) ∧
    ∀ name ∈ monthNames.map (·.take 3), isName name = true := by
  decide +kernel

theorem reads_resembles {piece : Piece} (hpiece : piece.isCaseless = true) (parts : DateParts)
    (h : Resembles s l) : SameReadings (piece.reads parts s) (piece.reads parts l) := by
  cases piece with
  | year => exact (readYear_resembles h).map fun n => { parts with year := n }
  | month => exact (readMonth_resembles h).map fun n => { parts with month := n }
  | day => exact (readDay_resembles h).map fun n => { parts with day := n }
  | monthName =>
    exact (readName_resembles monthNames_isName.1 h).map fun n => { parts with month := n }
  | monthAbbreviation =>
    exact (readName_resembles monthNames_isName.2 h).map fun n => { parts with month := n }
  | blanks =>
    rw [reads, reads, SameReadings, List.forall₂_map_left_iff, List.forall₂_map_right_iff]
    exact (passBlanks_resembles h).imp fun _ _ hpass => ⟨rfl, hpass⟩
  | sign c =>
    have hplain : IsPlain (· == c) := fun d hd => .inr (by rwa [eq_of_beq hd])
    rcases h.cases_head hplain with ⟨rfl, rfl⟩ | ⟨d, s', l', rfl, rfl, hd, hrest⟩ |
      ⟨d, s', e, l', rfl, rfl, hd, he⟩
    · exact .nil
    · simp only [reads, eq_of_beq hd, if_true]
      exact .cons ⟨rfl, hrest⟩ .nil
    · simp only [reads, ne_of_beq_false hd, ne_of_beq_false he, if_false]
      exact .nil

end Piece

/-! ## Patterns -/

namespace Pattern

theorem findSome_resembles {α β : Type} {f : α × List Char → Option (β × List Char)}
    {xs ys : List (α × List Char)} (h : Piece.SameReadings xs ys)
    (hf : ∀ a {s l}, Resembles s l → Option.Rel SameReading (f (a, s)) (f (a, l))) :
    Option.Rel SameReading (xs.findSome? f) (ys.findSome? f) := by
  induction h with
  | nil => exact .none
  | @cons x y _ _ hxy _ ih =>
    obtain ⟨a, s⟩ := x
    obtain ⟨b, l⟩ := y
    obtain ⟨rfl, hrest⟩ := hxy
    rw [List.findSome?_cons, List.findSome?_cons]
    have hhead := hf a hrest
    revert hhead
    cases f (a, s) <;> cases f (a, l) <;> intro hhead
    · exact ih
    · cases hhead
    · cases hhead
    · exact hhead

theorem readFrom_resembles {pattern : Pattern}
    (hpattern : ∀ piece ∈ pattern, piece.isCaseless = true) (parts : DateParts) (h : Resembles s l) :
    Option.Rel SameReading (pattern.readFrom parts s) (pattern.readFrom parts l) := by
  induction pattern generalizing parts s l with
  | nil => exact .some ⟨rfl, h⟩
  | cons piece pattern ih =>
    obtain ⟨hpiece, hpattern⟩ := List.forall_mem_cons.1 hpattern
    exact findSome_resembles (Piece.reads_resembles hpiece parts h) fun parts _ _ hrest =>
      ih hpattern parts hrest

/-- A pattern reads alike. -/
theorem read?_eq {pattern : Pattern} (hpattern : ∀ piece ∈ pattern, piece.isCaseless = true)
    (h : Resembles s l) : pattern.read? s = pattern.read? l := by
  have hread := readFrom_resembles hpattern {} h
  rw [read?, read?]
  generalize pattern.readFrom {} s = x at hread ⊢
  generalize pattern.readFrom {} l = y at hread ⊢
  cases hread with
  | none => rfl
  | @some x y hxy =>
    obtain ⟨parts, s⟩ := x
    obtain ⟨_, l⟩ := y
    obtain ⟨rfl, hrest⟩ := hxy
    cases hrest <;> rfl

/-- The first pattern that reads one of the texts is the first that reads the other. -/
theorem findSome?_eq {patterns : List Pattern}
    (hpatterns : ∀ pattern ∈ patterns, ∀ piece ∈ pattern, piece.isCaseless = true)
    (h : Resembles s l) : patterns.findSome? (·.read? s) = patterns.findSome? (·.read? l) := by
  induction patterns with
  | nil => rfl
  | cons pattern patterns ih =>
    obtain ⟨hpattern, hpatterns⟩ := List.forall_mem_cons.1 hpatterns
    rw [List.findSome?_cons, List.findSome?_cons, read?_eq hpattern h, ih hpatterns]

theorem known_isCaseless : ∀ pattern ∈ known, ∀ piece ∈ pattern, piece.isCaseless = true := by
  decide +kernel

end Pattern

/-! ## Texts -/

theorem Text.mem_of_mem_strip {c : Char} (h : c ∈ Text.strip s) : c ∈ s := by
  rw [Text.strip, Text.stripStart, List.mem_reverse] at h
  have hstart := List.mem_reverse.1 ((List.dropWhile_sublist _).subset h)
  exact (List.dropWhile_sublist _).subset hstart

theorem isBareNumber_eq (h : Resembles s l) : isBareNumber s = isBareNumber l := by
  have hplain : IsPlain Text.isDigitLike := fun _ hc => .inr (Text.isCaseless_of_isDigitLike hc)
  have hall := h.all_eq hplain
  rw [isBareNumber, isBareNumber, hall]
  cases hl : l.all Text.isDigitLike with
  | false => rfl
  | true =>
    have hwhole : s = l := by
      rw [← List.takeWhile_eq_self_iff.2 (List.all_eq_true.1 (hall.trans hl)),
        h.takeWhile_eq hplain, List.takeWhile_eq_self_iff.2 (List.all_eq_true.1 hl)]
    rw [hwhole]

namespace Moment

theorem ofStripped?_of_resembles (h : Resembles s l) (hw : 'W' ∉ l)
    (hl : (ofStripped? l).isSome = true) : (ofStripped? s).isSome = true := by
  simp only [ofStripped?, ← h.nil_iff, ← isBareNumber_eq h,
    ← Pattern.findSome?_eq Pattern.known_isCaseless h] at hl ⊢
  split
  · rename_i hnone
    rw [if_pos hnone] at hl
    cases hl
  · rename_i hsome
    rw [if_neg hsome] at hl
    rw [Option.isSome_or, Bool.or_eq_true] at hl ⊢
    refine hl.imp_left fun hiso => ?_
    obtain ⟨t, hread, hutc⟩ := Option.bind_eq_some_iff.1 (Option.eq_some_of_isSome hiso)
    rw [Timestamp.ofIso?_of_resembles h hw hread, Option.bind_some, hutc]
    rfl

/-- A text that resembles a date without the marker of a week is a date. -/
theorem ofText?_of_resembles {s l : String} (h : Resembles s.toList l.toList) (hw : 'W' ∉ l.toList)
    (hl : (ofText? l).isSome = true) : (ofText? s).isSome = true :=
  ofStripped?_of_resembles h.strip (fun hmem => hw (Text.mem_of_mem_strip hmem)) hl

/-- Texts without the marker of a week that resemble each other both ways are the same date. -/
theorem ofText?_eq {s l : String} (h : Resembles s.toList l.toList)
    (hback : Resembles l.toList s.toList) (hs : 'W' ∉ s.toList) (hl : 'W' ∉ l.toList) :
    ofText? s = ofText? l := by
  have hiso : Timestamp.ofIso? (Text.strip s.toList) = Timestamp.ofIso? (Text.strip l.toList) :=
    Option.ext fun _ =>
      ⟨Timestamp.ofIso?_of_resembles hback.strip (fun hmem => hs (Text.mem_of_mem_strip hmem)),
        Timestamp.ofIso?_of_resembles h.strip fun hmem => hl (Text.mem_of_mem_strip hmem)⟩
  simp only [ofText?, ofStripped?, h.strip.nil_iff, isBareNumber_eq h.strip,
    Pattern.findSome?_eq Pattern.known_isCaseless h.strip, hiso]

end Moment

end ShelfRules
