import ShelfRules.Proofs.ClashingRules
import ShelfRules.Proofs.NumericTexts
import ShelfRules.Proofs.OrdinaryFilters
import ShelfRules.Proofs.QuotedTexts

/-!
# Comparisons agree with each other

Two values stand in one order or in none, and all comparisons ask about that order. They stand in none
when one of them stands for no number, but for two timestamps, which are compared by their instants.
A range asks for two comparisons at once; only a timestamp between a timestamp and another value is
compared by its number there, and by its instant alone.

Results:
* `Value.number?_eq_nan_iff`: the values that stand for no number.
* `Value.isOrderable_of_isOrdinary`: numbers inside of the range of doubles can be put in order.
* `Value.compare?_eq_none_iff`: the values that stand in no order.
* `Value.isBetween?_eq`: a range asks for two comparisons.
* `Operator.comparisons_coherent`: how the answers of the five comparisons hang together.
-/

namespace ShelfRules

/-! ## The order of doubles -/

namespace Double

variable {a b : Double}

theorem place_eq_none_iff : a.place = none ↔ a = .nan := by
  cases a <;> simp [place]

/-- Two doubles stand in no order when one is a NaN. -/
theorem compare_eq_none_iff : a.compare b = none ↔ a = .nan ∨ b = .nan := by
  rw [← place_eq_none_iff, ← place_eq_none_iff, compare]
  cases a.place <;> cases b.place <;> simp

theorem le_eq_isLE : a.le b = (a.compare b).any Ordering.isLE := by
  unfold le compare
  cases a.place with
  | none => rfl
  | some x =>
    cases b.place with
    | none => rfl
    | some y =>
      have hle : decide (x ≤ y) = (Ord.compare x y).isLE := by
        rw [Bool.eq_iff_iff, decide_eq_true_iff, Int.isLE_compare]
      exact hle

theorem compare_swap : b.compare a = (a.compare b).map Ordering.swap := by
  unfold compare
  cases a.place with
  | none => cases b.place <;> rfl
  | some x =>
    cases b.place with
    | none => rfl
    | some y => exact congrArg some Std.OrientedOrd.eq_swap

/-- What is below or equal is above or equal, seen from the other side. -/
theorem le_eq_isGE : a.le b = (b.compare a).any Ordering.isGE := by
  rw [le_eq_isLE, compare_swap (a := a)]
  cases a.compare b with
  | none => rfl
  | some o => cases o <;> rfl

theorem ofSign_ne_nan (b : Bool) : (if b then unit else zero false) ≠ .nan := by
  cases b
  · exact nofun
  · exact nofun

theorem ofRatio_ne_nan (negative : Bool) (num den : Nat) : ofRatio negative num den ≠ .nan := by
  unfold ofRatio
  exact ofUnits_ne_nan _ _

theorem ofInt?_ne_nan (n : Int) : ofInt? n ≠ some .nan := by
  intro h
  have hratio := ofRatio_ne_nan (n < 0) n.natAbs 1
  unfold ofInt? at h
  generalize ofRatio (n < 0) n.natAbs 1 = d at h hratio
  cases d with
  | infinite => cases h
  | nan => exact hratio rfl
  | finite => cases h

theorem mulNat_ne_nan {d : Double} (h : d ≠ .nan) (k : Nat) : d.mulNat k ≠ .nan := by
  cases d with
  | nan => exact absurd rfl h
  | infinite => exact nofun
  | finite => exact ofUnits_ne_nan _ _

end Double

theorem Moment.epochMillis_ne_nan (m : Moment) : m.epochMillis ≠ .nan :=
  Double.mulNat_ne_nan (Double.ofRatio_ne_nan _ _ _) 1000

theorem Fault.ifNone_eq_ok {α : Type} {f : Fault} {o : Option α} {a : α} :
    f.ifNone o = .ok a ↔ o = some a := by
  cases o <;> simp [ifNone]

/-! ## Values without a number -/

namespace Value

variable {v w : Value}

/-- The value is a timestamp. -/
def isStamp : Value → Bool
  | .stamp _ => true
  | _ => false

/-- The value stands for no number: it is null, a list, a NaN, a text in which neither a numeral nor an
infinity stands between blanks, or of a kind that has no order. -/
def IsUncounted : Value → Prop
  | .bool _ | .int _ | .stamp _ => False
  | .float d => d = .nan
  | .text s => (∀ n : Numeral, n.chars ≠ Text.strip s.toList) ∧
      Text.strip s.toList ∉ Double.infinityWords.map String.toList
  | _ => True

/-- The values in normal shape that stand for no number. -/
theorem number?_eq_nan_iff (h : v.IsNormal) : v.number? = .ok .nan ↔ v.IsUncounted := by
  cases v with
  | bool b => exact iff_of_false (fun hnan => Double.ofSign_ne_nan b (Except.ok.inj hnan)) id
  | int n =>
    refine iff_of_false (fun hnan => Double.ofInt?_ne_nan n ?_) id
    exact Fault.ifNone_eq_ok.1 hnan
  | stamp t =>
    obtain ⟨m, rfl⟩ := h.eq_naive
    exact iff_of_false (fun hnan => m.epochMillis_ne_nan (Except.ok.inj hnan)) id
  | float d => exact ⟨Except.ok.inj, congrArg _⟩
  | text s => exact ⟨fun hnan => Double.ofText_eq_nan_iff.1 (Except.ok.inj hnan),
      fun hs => congrArg _ (Double.ofText_eq_nan_iff.2 hs)⟩
  | null | list | tuple | object | date | status => exact iff_of_true rfl trivial

theorem normalize?_isHuge (h : v.normalize? = .ok w) : w.isHuge = v.isHuge := by
  cases v with
  | stamp t => cases ht : t.toUtc? <;> simp only [normalize?, ht] at h <;> cases h <;> rfl
  | text s => cases hs : Moment.ofText? s <;> simp only [normalize?, hs] at h <;> cases h <;> rfl
  | list items | tuple items =>
    obtain ⟨ss, -, rfl⟩ := Json.except_map_eq_ok h
    rfl
  | null | bool | int | float | object | date | status => cases h; rfl

/-- The value has a normal shape with a number or none: it is no integer past the largest double, and
lists none that is too long to be written. -/
def isOrderable (v : Value) : Bool := !v.isHuge && !v.listsLongInteger

/-- Values whose integers are inside of the range of doubles are orderable. -/
theorem isOrderable_of_isOrdinary (h : v.isOrdinary = true) : v.isOrderable = true := by
  have hlong : v.listsLongInteger = false := Bool.eq_false_iff.2 fun hlong => by
    have hholds := listsLongInteger_imp hlong
    rw [holdsLongInteger_of_isOrdinary h] at hholds
    cases hholds
  have hhuge : v.isHuge = false := by
    cases v with
    | int n =>
      rw [isOrdinary, Option.isSome_iff_exists] at h
      obtain ⟨d, hd⟩ := h
      rw [isHuge, hd]
      rfl
    | _ => rfl
  rw [isOrderable, hhuge, hlong]
  rfl

theorem exists_normalize? (h : v.isOrderable = true) :
    ∃ w, v.normalize? = .ok w ∧ w.IsNormal ∧ w.isHuge = false := by
  rw [isOrderable, Bool.and_eq_true, Bool.not_eq_true', Bool.not_eq_true'] at h
  have hnormal : ¬Fails v.normalize? := fun hfails => by
    rw [normalize?_fails, h.2] at hfails
    cases hfails
  obtain ⟨w, hw⟩ := not_fails_iff.1 hnormal
  exact ⟨w, hw, normalize?_isNormal hw, (normalize?_isHuge hw).trans h.1⟩

/-! ## The order of values -/

/-- Values that are not both timestamps stand in the order of their numbers. -/
theorem compare?_of_numbers (h : (v.isStamp && w.isStamp) = false) :
    v.compare? w = v.compareNumbers? w := by
  unfold compare?
  split
  · cases h
  · rfl

theorem exists_numbers {o : Option Ordering} (h : (v.isStamp && w.isStamp) = false)
    (ho : v.compare? w = .ok o) :
    ∃ x y, v.number? = .ok x ∧ w.number? = .ok y ∧ o = x.compare y := by
  rw [compare?_of_numbers h, compareNumbers?] at ho
  obtain ⟨x, hx, ho⟩ := except_bind_eq_ok ho
  obtain ⟨y, hy, rfl⟩ := Json.except_map_eq_ok ho
  exact ⟨x, y, hx, hy, rfl⟩

theorem exists_stamp (h : v.isStamp = true) (hv : v.IsNormal) : ∃ m, v = .moment m := by
  cases v with
  | stamp t =>
    obtain ⟨m, rfl⟩ := hv.eq_naive
    exact ⟨m, rfl⟩
  | _ => cases h

/-- Values in normal shape that have numbers stand in an order or in none. -/
theorem exists_compare? (hv : v.IsNormal) (hw : w.IsNormal) (hv' : v.isHuge = false)
    (hw' : w.isHuge = false) : ∃ o, v.compare? w = .ok o := by
  rw [← not_fails_iff, compare?_fails hv hw, hv', hw']
  simp

/-- Values stand in no order when one of them stands for no number, but for two timestamps. -/
theorem compare?_eq_none_iff (hv : v.IsNormal) (hw : w.IsNormal) (hv' : v.isHuge = false)
    (hw' : w.isHuge = false) : v.compare? w = .ok none ↔
      (v.isStamp && w.isStamp) = false ∧ (v.IsUncounted ∨ w.IsUncounted) := by
  by_cases hstamps : (v.isStamp && w.isStamp) = true
  · refine iff_of_false ?_ fun h => Bool.false_ne_true (h.1.symm.trans hstamps)
    rw [Bool.and_eq_true] at hstamps
    obtain ⟨m, rfl⟩ := exists_stamp hstamps.1 hv
    obtain ⟨n, rfl⟩ := exists_stamp hstamps.2 hw
    exact nofun
  · rw [Bool.not_eq_true] at hstamps
    obtain ⟨x, hx⟩ := not_fails_iff.1 (mt hv.number?_fails.1 (Bool.eq_false_iff.1 hv'))
    obtain ⟨y, hy⟩ := not_fails_iff.1 (mt hw.number?_fails.1 (Bool.eq_false_iff.1 hw'))
    have hcompare : v.compare? w = .ok (x.compare y) := by
      rw [compare?_of_numbers hstamps, compareNumbers?, hx, hy]
      rfl
    rw [hcompare, ← number?_eq_nan_iff hv, ← number?_eq_nan_iff hw, hx, hy]
    simp [Double.compare_eq_none_iff, hstamps]

/-- The order of two moments. -/
def momentOrder (m n : Moment) : Ordering :=
  Ord.compare (Timestamp.naive m).utcMicros (Timestamp.naive n).utcMicros

theorem compare?_moment (m n : Moment) :
    compare? (.moment m) (.moment n) = .ok (some (momentOrder m n)) := rfl

theorem isBetween?_moment (m a b : Moment) : isBetween? (.moment m) (.moment a) (.moment b) =
    .ok ((momentOrder m a).isGE && (momentOrder m b).isLE) := by
  have hswap : (momentOrder a m).isLE = (momentOrder m a).isGE := by
    unfold momentOrder
    rw [Std.OrientedOrd.eq_swap, Ordering.isLE_swap]
  have hbetween : isBetween? (.moment m) (.moment a) (.moment b) =
      Verdict.and (.ok (momentOrder a m).isLE) (.ok (momentOrder m b).isLE) := rfl
  rw [hbetween, hswap]
  cases (momentOrder m a).isGE <;> cases (momentOrder m b).isLE <;> rfl

/-- A range asks for two comparisons, unless a timestamp is asked about that stands between a timestamp
and another value. -/
theorem isBetween?_eq {start finish : Value} {low high : Option Ordering} (hv : v.IsNormal)
    (hs : start.IsNormal) (hf : finish.IsNormal)
    (hmixed : v.isStamp = true → start.isStamp = finish.isStamp)
    (hlow : v.compare? start = .ok low) (hhigh : v.compare? finish = .ok high) :
    v.isBetween? start finish = .ok (low.any Ordering.isGE && high.any Ordering.isLE) := by
  by_cases hstamps : v.isStamp = true ∧ start.isStamp = true
  · obtain ⟨m, rfl⟩ := exists_stamp hstamps.1 hv
    obtain ⟨a, rfl⟩ := exists_stamp hstamps.2 hs
    obtain ⟨b, rfl⟩ := exists_stamp ((hmixed hstamps.1).symm.trans hstamps.2) hf
    rw [compare?_moment] at hlow hhigh
    obtain rfl := Except.ok.inj hlow
    obtain rfl := Except.ok.inj hhigh
    rw [isBetween?_moment, Option.any_some, Option.any_some]
  · have hlow' : (v.isStamp && start.isStamp) = false := by
      rw [Bool.and_eq_false_iff]
      rcases not_and_or.1 hstamps with h | h
      · exact .inl (Bool.eq_false_iff.2 h)
      · exact .inr (Bool.eq_false_iff.2 h)
    have hhigh' : (v.isStamp && finish.isStamp) = false := by
      cases hstamp : v.isStamp with
      | false => rfl
      | true => rwa [hstamp, hmixed hstamp] at hlow'
    obtain ⟨x, y, hx, hy, rfl⟩ := exists_numbers hlow' hlow
    obtain ⟨x', z, hx', hz, rfl⟩ := exists_numbers hhigh' hhigh
    obtain rfl : x = x' := Except.ok.inj (hx.symm.trans hx')
    by_cases hnull : v = .null ∨ start = .null ∨ finish = .null
    · -- Null counts as a NaN, so that one of the two comparisons answers no.
      have hnan : ∀ {u : Value} {d : Double}, u = .null → u.number? = .ok d → d = .nan := by
        rintro u d rfl hd
        exact (Except.ok.inj hd).symm
      have hnone : v = .null ∨ start = .null → x.compare y = none := fun h =>
        Double.compare_eq_none_iff.2 (h.imp (hnan · hx) (hnan · hy))
      have hnone' : finish = .null → x.compare z = none := fun h =>
        Double.compare_eq_none_iff.2 (.inr (hnan h hz))
      rw [isBetween?_of_null hnull]
      rcases hnull with h | h | h
      · rw [hnone (.inl h)]
        rfl
      · rw [hnone (.inr h)]
        rfl
      · rw [hnone' h, Option.any_none, Bool.and_false]
    · obtain ⟨hv₀, hs₀, hf₀⟩ : v ≠ .null ∧ start ≠ .null ∧ finish ≠ .null := by
        simpa only [not_or] using hnull
      have hnumbers : ∀ a b c, ¬(v = .stamp a ∧ start = .stamp b ∧ finish = .stamp c) := by
        rintro a b c ⟨rfl, rfl, -⟩
        cases hlow'
      rw [isBetween?_of_numbers hv₀ hs₀ hf₀ hnumbers, hx, hy, hz, ← Double.le_eq_isGE,
        ← Double.le_eq_isLE]
      show Verdict.and (.ok (y.le x)) (.ok (x.le z)) = _
      cases y.le x <;> cases x.le z <;> rfl

end Value

/-! ## Comparisons -/

namespace Operator

/-- The answer of an operator for a value in normal shape and the values of a rule. The operator is
asked about no set. -/
def answer? (operator : Operator) (subject value start finish : Value) : Verdict :=
  (Operand.build? (.known operator) value start finish).bind fun operand =>
    operator.test? subject operand (.ok [])

/-- The question that a comparison with one value asks about an order. -/
def asks : Operator → Ordering → Bool
  | .greaterThan => Ordering.isGT
  | .greaterThanEqualTo => Ordering.isGE
  | .lessThan => Ordering.isLT
  | .lessThanEqualTo => Ordering.isLE
  | _ => fun _ => false

/-- The comparisons with one value. -/
def orders : List Operator := [.greaterThan, .greaterThanEqualTo, .lessThan, .lessThanEqualTo]

theorem takesOne_of_mem_orders : ∀ operator ∈ orders, operator.takesOne = true := by decide

variable {operator : Operator} {v a b : Value}

/-- A comparison asks about the order of the value and the operand. -/
theorem answer?_of_mem_orders (h : operator ∈ orders) (v value start finish : Value) :
    operator.answer? v value start finish =
      value.normalize?.bind fun a => (v.compare? a).map (·.any operator.asks) := by
  have htest : ∀ a, operator.test? v (.scalar value a) (.ok []) =
      (v.compare? a).map (·.any operator.asks) := by
    simp only [orders, List.mem_cons, List.not_mem_nil, or_false] at h
    rcases h with rfl | rfl | rfl | rfl <;> exact fun a => rfl
  rw [answer?, Operand.build?_takesOne (takesOne_of_mem_orders operator h)]
  cases value.normalize? with
  | error f => rfl
  | ok a => exact htest a

/-- A range asks whether the value lies between its bounds. -/
theorem answer?_inBetween (v value start finish : Value) : inBetween.answer? v value start finish =
    start.normalize?.bind fun a => finish.normalize?.bind fun b => v.isBetween? a b := by
  rw [answer?, Operand.build?_inBetween]
  cases start.normalize? with
  | error f => rfl
  | ok a =>
    cases finish.normalize? with
    | error f => rfl
    | ok b => rfl

theorem exists_isBetween? {start finish : Value} (hv : v.IsNormal) (hs : start.IsNormal)
    (hf : finish.IsNormal) (hv' : v.isHuge = false) (hs' : start.isHuge = false)
    (hf' : finish.isHuge = false) : ∃ answer, v.isBetween? start finish = .ok answer := by
  by_cases hnull : v = .null ∨ start = .null ∨ finish = .null
  · exact ⟨false, Value.isBetween?_of_null hnull⟩
  · obtain ⟨hv₀, hs₀, hf₀⟩ : v ≠ .null ∧ start ≠ .null ∧ finish ≠ .null := by
      simpa only [not_or] using hnull
    rw [← not_fails_iff, Value.isBetween?_fails hv hs hf ⟨hv₀, hs₀, hf₀⟩, hv', hs', hf']
    simp

/-- How the answers of the five comparisons hang together, for a value in normal shape and two operands.
All four comparisons with one operand answer no exactly when the two sides are not both timestamps and
one of them stands for no number; otherwise two of them are the opposites of the other two, and no value
is both above and below. A range answers as two comparisons do, unless a timestamp is asked about and
one of the bounds is a timestamp and the other one is not. -/
theorem comparisons_coherent (hv : v.IsNormal) (hv' : v.isHuge = false) (ha : a.isOrderable = true)
    (hb : b.isOrderable = true) (value start finish : Value) :
    ∃ (a' b' : Value) (gt ge lt le atMost within : Bool),
      a.normalize? = .ok a' ∧ b.normalize? = .ok b' ∧
      greaterThan.answer? v a start finish = .ok gt ∧
      greaterThanEqualTo.answer? v a start finish = .ok ge ∧
      lessThan.answer? v a start finish = .ok lt ∧
      lessThanEqualTo.answer? v a start finish = .ok le ∧
      lessThanEqualTo.answer? v b start finish = .ok atMost ∧
      inBetween.answer? v value a b = .ok within ∧
      (gt = false ∧ ge = false ∧ lt = false ∧ le = false ↔
        (v.isStamp && a'.isStamp) = false ∧ (v.IsUncounted ∨ a'.IsUncounted)) ∧
      (gt = false ∧ ge = false ∧ lt = false ∧ le = false ∨
        le = !gt ∧ lt = !ge ∧ ¬(gt = true ∧ lt = true)) ∧
      (¬(v.isStamp = true ∧ a'.isStamp ≠ b'.isStamp) → within = (ge && atMost)) := by
  obtain ⟨a', ha', hna, hha⟩ := Value.exists_normalize? ha
  obtain ⟨b', hb', hnb, hhb⟩ := Value.exists_normalize? hb
  obtain ⟨o, ho⟩ := Value.exists_compare? hv hna hv' hha
  obtain ⟨o', ho'⟩ := Value.exists_compare? hv hnb hv' hhb
  obtain ⟨within, hbetween⟩ := exists_isBetween? hv hna hnb hv' hha hhb
  have hanswer : ∀ operator ∈ orders,
      operator.answer? v a start finish = .ok (o.any operator.asks) := fun operator h => by
    rw [answer?_of_mem_orders h, ha', ok_bind, ho]
    rfl
  have hatMost : lessThanEqualTo.answer? v b start finish = .ok (o'.any Ordering.isLE) := by
    rw [answer?_of_mem_orders (by decide), hb', ok_bind, ho']
    rfl
  have hwithin : inBetween.answer? v value a b = .ok within := by
    rw [answer?_inBetween, ha', hb', ok_bind, ok_bind, hbetween]
  refine ⟨a', b', o.any Ordering.isGT, o.any Ordering.isGE, o.any Ordering.isLT,
    o.any Ordering.isLE, o'.any Ordering.isLE, within, ha', hb', hanswer _ (by decide),
    hanswer _ (by decide), hanswer _ (by decide), hanswer _ (by decide), hatMost,
    hwithin, ?_, ?_, fun hmixed => ?_⟩
  · have hnone : v.compare? a' = .ok none ↔ o = none := by rw [ho, Except.ok.injEq]
    rw [← Value.compare?_eq_none_iff hv hna hv' hha, hnone]
    rcases o with _ | _ | _ | _ <;> decide
  · rcases o with _ | _ | _ | _ <;> decide
  · have hsame : v.isStamp = true → a'.isStamp = b'.isStamp := fun hstamp =>
      Decidable.of_not_not fun h => hmixed ⟨hstamp, h⟩
    rw [Value.isBetween?_eq hv hna hnb hsame ho ho'] at hbetween
    exact (Except.ok.inj hbetween).symm

/-- The first of May 2020 lies between the first and the last day of the year, and is after the one and
before the other. -/
theorem mayDay_between :
    inBetween.answer? (.moment (.ofDate ⟨2020, 5, 1, by decide⟩)) .null
      (.date ⟨2020, 1, 1, by decide⟩) (.date ⟨2020, 12, 31, by decide⟩) = .ok true := by
  obtain ⟨_, _, _, ge, _, _, atMost, within, ha', hb', -, hge, -, -, hatMost, hwithin, -, -, hand⟩ :=
    comparisons_coherent (v := .moment (.ofDate ⟨2020, 5, 1, by decide⟩))
      (a := .date ⟨2020, 1, 1, by decide⟩) (b := .date ⟨2020, 12, 31, by decide⟩)
      (.moment _) rfl rfl rfl .null .null .null
  obtain rfl := Except.ok.inj ha'
  obtain rfl := Except.ok.inj hb'
  have ha : Value.normalize? (.date ⟨2020, 1, 1, by decide⟩) = .ok (.moment (.ofDate _)) := rfl
  have hb : Value.normalize? (.date ⟨2020, 12, 31, by decide⟩) = .ok (.moment (.ofDate _)) := rfl
  have hlow : Value.momentOrder (.ofDate ⟨2020, 5, 1, by decide⟩) (.ofDate ⟨2020, 1, 1, by decide⟩) =
      .gt := by decide +kernel
  have hhigh : Value.momentOrder (.ofDate ⟨2020, 5, 1, by decide⟩)
      (.ofDate ⟨2020, 12, 31, by decide⟩) = .lt := by decide +kernel
  rw [answer?_of_mem_orders (by decide), ha, ok_bind, Value.compare?_moment, hlow] at hge
  rw [answer?_of_mem_orders (by decide), hb, ok_bind, Value.compare?_moment, hhigh] at hatMost
  rw [hwithin, hand fun h => h.2 rfl, ← Except.ok.inj hge, ← Except.ok.inj hatMost]
  rfl

end Operator

end ShelfRules
