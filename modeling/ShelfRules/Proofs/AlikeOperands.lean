import ShelfRules.Filter.Evaluation
import ShelfRules.Proofs.OperandReading
import Mathlib.Data.List.Forall2

/-!
# Operands that stand for one number

An integer and a double that is that integer are two values and one number. No test tells them apart:
they have the same text, they equal the same numbers and stand in the same order to all values. A rule
therefore answers the same whichever of the two it holds.

Results:
* `Value.SameNumber.congr`: what an integer and its double have in common.
* `Rule.verdict_congr`: rules with alike values answer alike.
-/

namespace ShelfRules

namespace Value

/-! ## Ranges -/

/-- Null lies nowhere, and nothing lies beyond it. -/
theorem isBetween?_of_null {v start finish : Value}
    (h : v = .null ∨ start = .null ∨ finish = .null) : v.isBetween? start finish = .ok false := by
  rcases h with rfl | rfl | rfl
  · rfl
  · cases v <;> rfl
  · cases v <;> cases start <;> rfl

/-- Values that are not all timestamps are compared as numbers. -/
theorem isBetween?_of_numbers {v start finish : Value} (hv : v ≠ .null) (hs : start ≠ .null)
    (hf : finish ≠ .null)
    (hstamps : ∀ a b c, ¬(v = .stamp a ∧ start = .stamp b ∧ finish = .stamp c)) :
    v.isBetween? start finish = v.number?.bind fun x =>
      Verdict.and (start.number?.map (·.le x)) (finish.number?.map (x.le ·)) := by
  unfold isBetween?
  split
  · exact absurd rfl hv
  · exact absurd rfl hs
  · exact absurd rfl hf
  · exact absurd ⟨rfl, rfl, rfl⟩ (hstamps _ _ _)
  · rfl

/-! ## Integers and doubles -/

/-- The two values are equal, or an integer and a double that is the integer. -/
inductive SameNumber : Value → Value → Prop
  | refl (v : Value) : SameNumber v v
  | intDouble {n : Int} {d : Double} : d.toInt? = some n → SameNumber (.int n) (.float d)
  | doubleInt {n : Int} {d : Double} : d.toInt? = some n → SameNumber (.float d) (.int n)

/-- What an integer and the double that is the integer have in common, values that stand for one number
have in common. -/
theorem SameNumber.congr {α : Type} {f : Value → α}
    (hf : ∀ {n : Int} {d : Double}, d.toInt? = some n → f (.int n) = f (.float d)) {v w : Value}
    (h : SameNumber v w) : f v = f w := by
  cases h with
  | refl => rfl
  | intDouble h => exact hf h
  | doubleInt h => exact (hf h).symm

section IntegerDouble

variable {n : Int} {d : Double} (h : d.toInt? = some n)
include h

theorem webText?_int : webText? (.int n) = webText? (.float d) := by
  simp only [webText?, holdsLongInteger, isLongInteger_of_toInt? h, webChars, h]
  rfl

theorem truthy_int : truthy (.int n) = truthy (.float d) := by
  cases d with
  | nan => cases h
  | infinite negative => cases h
  | finite negative units fits =>
    have hunits := (Double.units_of_toInt? h).1
    have hzero : units = 0 ↔ n = 0 := by
      rw [hunits, Nat.mul_eq_zero]
      have := Double.one_pos
      omega
    have hbeq : (n == 0) = (units == 0) := by
      rw [Bool.eq_iff_iff, beq_iff_eq, beq_iff_eq, hzero]
    rw [truthy, truthy, bne, hbeq]
    rfl

theorem number?_int : ∃ e, number? (.int n) = .ok e ∧ e.place = d.place := by
  obtain ⟨e, he, heInt⟩ := Double.ofInt?_of_toInt? h
  refine ⟨e, by rw [number?, he]; rfl, ?_⟩
  rw [Double.place_of_toInt? heInt, Double.place_of_toInt? h]

theorem equals_int (subject : Value) : subject.equals (.int n) = subject.equals (.float d) := by
  cases subject with
  | int m =>
    rw [equals, equals, Double.eqInt, h]
    by_cases hm : m = n
    · simp [hm]
    · simp [hm, Ne.symm hm]
  | float e => rw [equals, equals, Double.eqInt, Double.eq_iff_toInt? h]
  | _ => rfl

theorem compareNumbers?_int (subject : Value) :
    subject.compareNumbers? (.int n) = subject.compareNumbers? (.float d) := by
  obtain ⟨e, he, hplace⟩ := number?_int h
  unfold compareNumbers?
  rw [he]
  cases subject.number? with
  | error f => rfl
  | ok x =>
    simp only [Except.bind, Except.map, number?, Double.compare, hplace]

theorem compare?_int (subject : Value) :
    subject.compare? (.int n) = subject.compare? (.float d) := by
  have hnumbers := compareNumbers?_int h subject
  cases subject <;> exact hnumbers

/-- As a bound of a range an integer is as good as its double. -/
theorem isBetween?_int (subject other : Value) :
    subject.isBetween? (.int n) other = subject.isBetween? (.float d) other ∧
      subject.isBetween? other (.int n) = subject.isBetween? other (.float d) := by
  obtain ⟨e, he, hplace⟩ := number?_int h
  have hle : ∀ x : Double, e.le x = d.le x ∧ x.le e = x.le d := fun x => by
    simp only [Double.le, hplace, and_self]
  by_cases hnull : subject = .null ∨ other = .null
  · refine ⟨?_, ?_⟩
    · rw [isBetween?_of_null (hnull.imp_right .inr), isBetween?_of_null (hnull.imp_right .inr)]
    · rw [isBetween?_of_null (hnull.imp_right .inl), isBetween?_of_null (hnull.imp_right .inl)]
  · rw [not_or] at hnull
    have hint : int n ≠ null := fun h => nomatch h
    have hfloat : float d ≠ null := fun h => nomatch h
    refine ⟨?_, ?_⟩
    · rw [isBetween?_of_numbers hnull.1 hint hnull.2 (by simp),
        isBetween?_of_numbers hnull.1 hfloat hnull.2 (by simp), he]
      simp only [number?, Except.map, hle]
    · rw [isBetween?_of_numbers hnull.1 hnull.2 hint (by simp),
        isBetween?_of_numbers hnull.1 hnull.2 hfloat (by simp), he]
      simp only [number?, Except.map, hle]

end IntegerDouble

/-! ## Values and operands -/

theorem lowerList?_int {n : Int} {d : Double} (h : d.toInt? = some n) :
    lowerList? (.int n) = lowerList? (.float d) := by
  simp only [lowerList?, truthy_int h, webText?_int h]

/-- Lists of values that stand for the same numbers have the same texts. -/
theorem lowerItems?_congr {vs ws : List Value} (h : List.Forall₂ SameNumber vs ws) :
    lowerItems? vs = lowerItems? ws := by
  induction h with
  | nil => rfl
  | @cons v _ _ _ hv _ ih =>
    cases hv with
    | refl =>
      by_cases hnull : v = .null
      · subst hnull
        exact ih
      · rw [lowerItems?_cons hnull, lowerItems?_cons hnull, ih]
    | intDouble hd => simp only [lowerItems?, webText?_int hd, ih]
    | doubleInt hd => simp only [lowerItems?, webText?_int hd, ih]

/-- The values stand for one number, or are kept lists of such values. -/
inductive Alike : Value → Value → Prop
  | single {v w : Value} : SameNumber v w → Alike v w
  | tuple {vs ws : List Value} : List.Forall₂ SameNumber vs ws → Alike (.tuple vs) (.tuple ws)

theorem Alike.lowerList? {v w : Value} (h : Alike v w) : v.lowerList? = w.lowerList? := by
  cases h with
  | single h => exact h.congr lowerList?_int
  | tuple h => exact lowerItems?_congr h

/-- Alike values have alike normal shapes. -/
theorem Alike.normalize? {v w v' w' : Value} (h : Alike v w) (hv : v.normalize? = .ok v')
    (hw : w.normalize? = .ok w') : SameNumber v' w' := by
  cases h with
  | single h =>
    cases h with
    | refl => cases hv.symm.trans hw; exact .refl _
    | intDouble h => cases hv; cases hw; exact .intDouble h
    | doubleInt h => cases hv; cases hw; exact .doubleInt h
  | tuple h =>
    simp only [Value.normalize?, lowerItems?_congr h] at hv hw
    cases hv.symm.trans hw
    exact .refl _

end Value

namespace Operand

/-- The operands are of one kind and hold alike values. -/
inductive Alike : Operand → Operand → Prop
  | scalar {raw raw' value value' : Value} : raw.Alike raw' → value.SameNumber value' →
      Alike (.scalar raw value) (.scalar raw' value')
  | range {start start' finish finish' : Value} : start.SameNumber start' →
      finish.SameNumber finish' → Alike (.range start finish) (.range start' finish')
  | set (values : List Value) : Alike (.set values) (.set values)

theorem build?_range {value start finish : Value} {operand : Operand}
    (h : build? (.known .inBetween) value start finish = .ok operand) :
    ∃ a b, start.normalize? = .ok a ∧ finish.normalize? = .ok b ∧ operand = .range a b := by
  rw [build?_inBetween] at h
  obtain ⟨a, ha, h⟩ := except_bind_eq_ok h
  obtain ⟨b, hb, rfl⟩ := Json.except_map_eq_ok h
  exact ⟨a, b, ha, hb, rfl⟩

/-- An operator makes alike operands of alike values. -/
theorem build?_alike {name : OperatorName} {v w s s' e e' : Value} {operand operand' : Operand}
    (hv : v.Alike w) (hs : s.SameNumber s') (he : e.SameNumber e')
    (h : build? name v s e = .ok operand) (h' : build? name w s' e' = .ok operand') :
    operand.Alike operand' := by
  have hset : v.lowerList?.map ofTexts = .ok operand → w.lowerList?.map ofTexts = .ok operand' →
      operand.Alike operand' := by
    intro h h'
    rw [← hv.lowerList?, h] at h'
    obtain ⟨texts, -, rfl⟩ := Json.except_map_eq_ok h
    cases h'
    exact .set _
  have hscalar : v.normalize?.map (Operand.scalar v) = .ok operand →
      w.normalize?.map (Operand.scalar w) = .ok operand' → operand.Alike operand' := by
    intro h h'
    obtain ⟨v', hv', rfl⟩ := Json.except_map_eq_ok h
    obtain ⟨w', hw', rfl⟩ := Json.except_map_eq_ok h'
    exact .scalar hv (hv.normalize? hv' hw')
  cases name with
  | unknown raw fresh => exact hscalar h h'
  | known operator =>
    cases operator with
    | includesAny | excludesAll | includesAll => exact hset h h'
    | inBetween =>
      obtain ⟨a, b, ha, hb, rfl⟩ := build?_range h
      obtain ⟨a', b', ha', hb', rfl⟩ := build?_range h'
      exact .range ((Value.Alike.single hs).normalize? ha ha')
        ((Value.Alike.single he).normalize? hb hb')
    | _ => exact hscalar h h'

section Tests

variable {operand operand' : Operand} (h : operand.Alike operand')
include h

theorem Alike.value : operand.value.SameNumber operand'.value := by
  cases h with
  | scalar _ hvalue => exact hvalue
  | range | set => exact .refl _

theorem Alike.values? : operand.values? = operand'.values? := by
  cases h with
  | scalar hraw _ => simp only [Operand.values?, hraw.lowerList?]
  | range | set => rfl

theorem matches?_congr (subject : Value) : operand.matches? subject = operand'.matches? subject := by
  have hequals := h.value.congr (f := subject.equals) fun hd => Value.equals_int hd subject
  cases subject with
  | list items => simp only [matches?, h.values?]
  | _ => simp only [matches?, hequals]

theorem relates?_congr (relation : List Char → List Char → Bool) (negated : Bool) (subject : Value) :
    operand.relates? relation negated subject = operand'.relates? relation negated subject := by
  have hvalue := h.value
  unfold relates?
  generalize operand.value = v at hvalue ⊢
  generalize operand'.value = w at hvalue ⊢
  cases hvalue with
  | refl => rfl
  | intDouble | doubleInt => cases subject <;> rfl

theorem orders?_congr (test : Ordering → Bool) (subject : Value) :
    operand.orders? test subject = operand'.orders? test subject := by
  unfold orders?
  rw [h.value.congr (f := subject.compare?) fun hd => Value.compare?_int hd subject]

theorem surrounds?_congr (subject : Value) :
    operand.surrounds? subject = operand'.surrounds? subject := by
  cases h with
  | range hs he =>
    simp only [surrounds?]
    rw [hs.congr (f := fun v => subject.isBetween? v _) fun hd => (Value.isBetween?_int hd _ _).1,
      he.congr (f := subject.isBetween? _) fun hd => (Value.isBetween?_int hd _ _).2]
  | scalar | set => rfl

theorem Alike.setValues : operand.setValues = operand'.setValues := by
  cases h <;> rfl

/-- No operator tells alike operands apart. -/
theorem Alike.test? (operator : Operator) (subject : Value) (set : Except Fault (List Value)) :
    operator.test? subject operand set = operator.test? subject operand' set := by
  cases operator <;>
    simp only [Operator.test?, differs?_eq, matches?_congr h, relates?_congr h, orders?_congr h,
      surrounds?_congr h, meets?, misses?, within?, h.setValues]

end Tests

end Operand

/-- Rules with one field, one operator and alike values answer alike. -/
theorem Rule.verdict_congr {r s : Rule} (hf : r.field = s.field) (ho : r.operator = s.operator)
    (hv : r.value.Alike s.value) (hs : r.start.SameNumber s.start)
    (he : r.finish.SameNumber s.finish) (record : Record) : r.verdict record = s.verdict record := by
  have hoperand : r.operand.Alike s.operand :=
    Operand.build?_alike hv hs he r.operand_eq (ho ▸ s.operand_eq)
  unfold verdict
  rw [hf, ho]
  cases hname : s.operator with
  | unknown raw fresh => rfl
  | known operator => simp only [OperatorName.test?, hoperand.test?]

end ShelfRules
