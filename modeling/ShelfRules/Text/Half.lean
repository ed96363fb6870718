import ShelfRules.Text.Character

/-!
# Halves of surrogate pairs

A text in memory can hold halves of surrogate pairs that stand alone, as an escape in JSON writes them.
No file and no console can hold them, since UTF-8 has no bytes for a half. The texts here are made of
characters, so a half is stood for by one: a code gives each half a private character of its own. Which
characters these are does not matter as long as the texts at hand do not use them otherwise, so that
what holds for every code holds for every text.

Results:
* `HalfCode.errorIn?_eq_none`: a text without halves can be encoded, and no other one.
* `HalfCode.standard`: there is a code.
-/

namespace ShelfRules.Text

/-- The number is the code point of half of a surrogate pair. -/
def IsHalf (n : Nat) : Prop := 0xD800 ≤ n ∧ n < 0xE000

instance (n : Nat) : Decidable (IsHalf n) := inferInstanceAs (Decidable (_ ∧ _))

/-- Half of a surrogate pair. -/
structure Half where
  point : Nat
  isHalf : IsHalf point
deriving DecidableEq, Repr

/-- The code points for private use. -/
def privateUse : CodeRanges := [(0xE000, 0xF8FF), (0xF0000, 0xFFFFD), (0x100000, 0x10FFFD)]

/-- Which characters stand for halves of surrogate pairs. -/
structure HalfCode where
  /-- The character that stands for a half. -/
  char : Half → Char
  /-- The half that a character stands for. -/
  half? : Char → Option Half
  half?_eq_some {c : Char} {h : Half} : half? c = some h ↔ char h = c
  isPrivate (h : Half) : privateUse.has (char h) = true

/-- Halves in a row, the first ones of a text, and how many characters stand in front of them. -/
structure HalfError where
  position : Nat
  halves : List Half
deriving DecidableEq, Repr

/-- The message for a text with halves that is to be encoded. -/
def HalfError.message (e : HalfError) : String :=
  match e.halves with
  | [h] => "'utf-8' codec can't encode character '\\u" ++ String.ofList (hexDigits 4 h.point) ++
      s!"' in position {e.position}: surrogates not allowed"
  | halves => s!"'utf-8' codec can't encode characters in position {e.position}-" ++
      toString (e.position + halves.length - 1) ++ ": surrogates not allowed"

namespace HalfCode

variable {code : HalfCode}

/-- The character stands for a half. -/
def stands (code : HalfCode) (c : Char) : Bool := (code.half? c).isSome

/-- What keeps a text from being encoded. -/
def errorIn? (code : HalfCode) (s : List Char) : Option HalfError :=
  match s.dropWhile fun c => !code.stands c with
  | [] => none
  | rest => some ⟨s.length - rest.length, (rest.takeWhile code.stands).filterMap code.half?⟩

theorem errorIn?_eq_none {s : List Char} : code.errorIn? s = none ↔ s.any code.stands = false := by
  have hall : s.dropWhile (fun c => !code.stands c) = [] ↔ s.any code.stands = false := by
    induction s with
    | nil => simp
    | cons c rest ih => cases h : code.stands c <;> simp [h, ih]
  unfold errorIn?
  split
  · rename_i h
    exact iff_of_true rfl (hall.1 h)
  · rename_i h
    exact iff_of_false nofun (mt hall.2 h)

/-- No character of ASCII stands for a half. -/
theorem stands_eq_false_of_lt {c : Char} (hc : c.toNat < 0x80) : code.stands c = false := by
  unfold stands
  cases hhalf : code.half? c with
  | none => rfl
  | some h =>
    have hprivate := code.isPrivate h
    rw [code.half?_eq_some.1 hhalf] at hprivate
    simp only [privateUse, CodeRanges.has, List.any_cons, List.any_nil, Bool.or_false, Bool.or_eq_true,
      Bool.and_eq_true, decide_eq_true_eq] at hprivate
    omega

/-- The code point of the character that stands for a half in the standard code, from that of the half
    on. -/
def standardShift : Nat := 0xE2800

theorem toNat_ofNat_standard {n : Nat} (h : IsHalf n) :
    (Char.ofNat (n + standardShift)).toNat = n + standardShift := by
  obtain ⟨hlow, hhigh⟩ := h
  have hvalid : (n + standardShift).isValidChar := by
    unfold standardShift Nat.isValidChar
    omega
  rw [Char.ofNat, dif_pos hvalid]
  rfl

/-- The code with the first characters of a plane for private use. -/
def standard : HalfCode where
  char h := Char.ofNat (h.point + standardShift)
  half? c := if h : IsHalf (c.toNat - standardShift) then some ⟨c.toNat - standardShift, h⟩ else none
  half?_eq_some {c h} := by
    have hchar := toNat_ofNat_standard h.isHalf
    constructor
    · intro heq
      split at heq
      · rename_i hhalf
        rw [← Option.some.inj heq]
        refine Char.toNat_inj.1 ?_
        rw [toNat_ofNat_standard hhalf]
        obtain ⟨hlow, -⟩ := hhalf
        omega
      · cases heq
    · rintro rfl
      simp only [hchar, Nat.add_sub_cancel, h.isHalf, dif_pos]
  isPrivate h := by
    obtain ⟨hlow, hhigh⟩ := h.isHalf
    have hrange : 0xF0000 ≤ h.point + standardShift ∧ h.point + standardShift ≤ 0xFFFFD := by
      unfold standardShift
      omega
    simp only [CodeRanges.has, privateUse, List.any_cons, toNat_ofNat_standard h.isHalf, hrange.1, hrange.2,
      decide_true, Bool.and_self, Bool.true_or, Bool.or_true]

end HalfCode

end ShelfRules.Text
