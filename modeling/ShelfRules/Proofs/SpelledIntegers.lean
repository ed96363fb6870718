import ShelfRules.Proofs.JsonLayout
import ShelfRules.Proofs.SpelledPieces
import ShelfRules.Proofs.StoredReading

/-!
# Spelled integers

An integer of at most 53 bits is a double without rounding. A document may spell it as an integer, as a
number with a zero behind the point, or as the text of its digits, with blanks around them or none. On a
field of integers all of these are read as the integer, under each key of a rule, so that the rule is one
and the same; a text of four digits is no year there.

Results:
* `isDoubleUnits_mul_one`: integers of at most 53 bits are doubles.
* `Double.toInt?_ofText`: the digits of such an integer write it.
* `Json.SpellsInteger.exists_parse`: its spellings in JSON stand for values that spell it.
* `Value.SpellsInteger.typed?`: the values that spell it are read as the integer.
* `Rule.spelled_integer_held`: rules with different spellings of an integer are one rule.
-/

namespace ShelfRules

/-! ## Integers that are doubles -/

theorem isDoubleUnits_mul_one {k : Nat} (h : k ≤ 2 ^ 53) : IsDoubleUnits (k * Double.one) := by
  rcases Nat.eq_or_lt_of_le h with rfl | hlt
  · rw [Double.one, ← Nat.pow_add]
    exact Double.isDoubleUnits_two_pow (by omega)
  · have hunits : k * Double.one < 2 ^ (53 + Double.depth) := by
      rw [Nat.pow_add]
      exact Nat.mul_lt_mul_of_pos_right hlt Double.one_pos
    refine ⟨?_, hunits.trans (Nat.pow_lt_pow_right (by decide) (by omega))⟩
    by_cases hk : k * Double.one = 0
    · rw [hk, Nat.zero_mod]
    -- All that is cut off are places below the one.
    have hlog : (k * Double.one).log2 < 53 + Double.depth := (Nat.log2_lt hk).2 hunits
    have hplace : 2 ^ ((k * Double.one).log2 - 52) ∣ Double.one :=
      Nat.pow_dvd_pow 2 (by omega)
    exact Nat.mod_eq_zero_of_dvd (Nat.dvd_mul_left_of_dvd hplace k)

namespace Double

variable {n : Int} (hn : n.natAbs ≤ 2 ^ 53)
include hn

/-- The double of the sign and the size of the integer is the integer. -/
theorem toInt?_sized : toInt? (.finite (decide (n < 0)) (n.natAbs * one) (isDoubleUnits_mul_one hn)) =
    some n := by
  refine toInt?_of_units rfl ?_
  by_cases hneg : n < 0
  · rw [if_pos (by simpa using hneg)]
    omega
  · rw [if_neg (by simpa using hneg)]
    omega

/-- The digits of the integer, with zeros that its exponent takes back, write the integer. -/
theorem toInt?_toDouble (k : Nat) :
    (Decimal.toDouble (decide (n < 0)) ⟨n.natAbs * 10 ^ k, -(k : Int)⟩).toInt? = some n := by
  have hfits := isDoubleUnits_mul_one hn
  have hround : roundUnits (n.natAbs * one) 1 = n.natAbs * one := by
    have h := roundUnits_units hfits Nat.one_pos
    rwa [Nat.mul_one] at h
  have hunits : Decimal.units ⟨n.natAbs, 0⟩ = n.natAbs * one := by
    rw [Decimal.units, if_pos (Int.le_refl 0), Int.toNat_zero, Nat.pow_zero, Nat.mul_one, hround]
  rw [Decimal.toDouble_eq, Decimal.units_shift, show -(k : Int) + k = 0 by omega, hunits, ofUnits_of_fits hfits]
  exact toInt?_sized hn

end Double

/-- The numeral of the digits of an integer. -/
def Numeral.ofInt (n : Int) : Numeral where
  sign := if n < 0 then .minus else .none
  whole := Nat.toDigits 10 n.natAbs
  fraction := none
  exponent := none
  nonempty := by simp [Nat.toDigits_ne_nil]
  isDecimal := fun c hc => by
    rw [Option.getD_none, List.append_nil] at hc
    exact Text.isDecimal_of_isDigit (Nat.isDigit_of_mem_toDigits (by decide) (by decide) hc)

theorem Numeral.chars_ofInt (n : Int) : (Numeral.ofInt n).chars = integerChars n := by
  by_cases hn : n < 0 <;> simp [Numeral.chars, Numeral.ofInt, integerChars, hn, NumberSign.chars,
    Numeral.pointed, Numeral.raised]

theorem Numeral.toInt?_value_ofInt {n : Int} (hn : n.natAbs ≤ 2 ^ 53) :
    (Numeral.ofInt n).value.toInt? = some n := by
  have hdigits : Text.digitsValue (Nat.toDigits 10 n.natAbs) = n.natAbs := by
    rw [Text.digitsValue_eq fun c hc => Nat.isDigit_of_mem_toDigits (by decide) (by decide) hc,
      Nat.ofDigitChars_ten_toDigits]
  have hsign : (Numeral.ofInt n).sign.isNegative = decide (n < 0) := by
    by_cases hneg : n < 0 <;> simp [Numeral.ofInt, hneg, NumberSign.isNegative]
  have hwhole : (Numeral.ofInt n).whole ++ (Numeral.ofInt n).places = Nat.toDigits 10 n.natAbs :=
    List.append_nil _
  have h := Double.toInt?_toDouble hn 0
  rw [Nat.pow_zero, Nat.mul_one] at h
  rw [Numeral.value, hsign, hwhole, hdigits]
  exact h

/-- The digits of the integer between blanks write it. -/
theorem Double.toInt?_ofText {n : Int} (hn : n.natAbs ≤ 2 ^ 53) {s : String}
    (h : Text.strip s.toList = integerChars n) : (Double.ofText s).toInt? = some n := by
  rw [Numeral.ofText_eq (h.trans (Numeral.chars_ofInt n).symm), Numeral.toInt?_value_ofInt hn]

/-! ## Spellings -/

/-- The value spells an integer: it is the integer, a double that is the integer, or a text of its digits
with blanks around them or none. -/
inductive Value.SpellsInteger (n : Int) : Value → Prop
  | integer : SpellsInteger n (.int n)
  | double {d : Double} : d.toInt? = some n → SpellsInteger n (.float d)
  | digits {s : String} : Text.strip s.toList = integerChars n → SpellsInteger n (.text s)

/-- What spells the integer is read as the integer on a field of integers. -/
theorem Value.SpellsInteger.typed? {n : Int} (hn : n.natAbs ≤ 2 ^ 53) {v : Value}
    (h : v.SpellsInteger n) : v.typed? (some .number) = .ok (.int n) := by
  have hread : ∀ {d : Double}, d.toInt? = some n → Except.ok (ofDouble true d) = .ok (.int n) :=
    fun hd => congrArg (Except.ok (ε := Fault)) (ofDouble_of_toInt? hd)
  cases h with
  | integer =>
    obtain ⟨d, hd, hint⟩ := Double.ofInt?_of_toInt? (Double.toInt?_sized hn)
    show (number? (.int n)).map (ofDouble true) = _
    rw [number?, hd]
    exact hread hint
  | double hd => exact hread hd
  | digits hs => exact hread (Double.toInt?_ofText hn hs)

namespace Json

/-- The text in JSON spells an integer: as an integer, as a number with a zero behind the point, or as a
text of its digits with blanks around them or none. -/
inductive SpellsInteger (n : Int) : List Char → Prop
  | integer : SpellsInteger n (integerChars n)
  | point : SpellsInteger n (integerChars n ++ ['.', '0'])
  | digits {before after : List Char} : (∀ c ∈ before, Text.isBlank c = true) →
      (∀ c ∈ after, Text.isBlank c = true) →
      SpellsInteger n (textChars (String.ofList (before ++ integerChars n ++ after)))

/-- A text that is a word or a number stands for its value. -/
theorem parse_of_readScalar {s : List Char} {v : Value} (h : readScalar s = .ok (v, [])) :
    parse s = .ok v := by
  obtain ⟨c, t, rfl, hstart, -⟩ := readScalar_head h
  exact parseWith_of_readValue hstart (readValue_of_readScalar h)

/-- The digits of the integer with a zero behind the point stand for a double that is the integer. -/
theorem parse_point {n : Int} (hn : n.natAbs ≤ 2 ^ 53) :
    ∃ d, parse (integerChars n ++ ['.', '0']) = .ok (.float d) ∧ d.toInt? = some n := by
  have hparts : HasParts (Nat.toDigits 10 n.natAbs ++ ['.', '0']) (Nat.toDigits 10 n.natAbs) ['0'] none [] :=
    hasParts_fraction (isWhole_toDigits n.natAbs) (by simp) (List.forall_mem_singleton.2 rfl) nofun
  have hread := readScalar_of_hasParts hparts (decide (n < 0))
  have hdigits : Nat.ofDigitChars 10 (Nat.toDigits 10 n.natAbs ++ ['0']) 0 = n.natAbs * 10 ^ 1 := by
    rw [Nat.ofDigitChars_append, Nat.ofDigitChars_ten_toDigits, Nat.mul_comm]
    rfl
  refine ⟨_, parse_of_readScalar ?_, Double.toInt?_toDouble hn 1⟩
  rw [integerChars, List.append_assoc]
  simp only [decide_eq_true_eq] at hread
  rw [hread, numberOf, if_neg (by simp), hdigits]
  rfl

/-- What spells the integer in JSON stands for a value that spells it. -/
theorem SpellsInteger.exists_parse {n : Int} (hn : n.natAbs ≤ 2 ^ 53) {s : List Char}
    (h : SpellsInteger n s) : ∃ v, parse s = .ok v ∧ v.SpellsInteger n := by
  have hlong : isLongInteger n = false := isLongInteger_eq_false <|
    Nat.lt_of_le_of_lt hn (Nat.lt_of_le_of_lt (Decimal.two_pow_le_ten_pow (k := 18) (by decide))
      (Nat.pow_lt_pow_right (by decide) (by decide)))
  cases h with
  | integer => exact ⟨.int n, parse_compact (v := .int n) (by
    rw [Value.isDocument, Value.holdsLongInteger, hlong]; rfl), .integer⟩
  | point =>
    obtain ⟨d, hd, hint⟩ := parse_point hn
    exact ⟨.float d, hd, .double hint⟩
  | @digits before after hbefore hafter =>
    refine ⟨_, parse_compact (v := .text (String.ofList (before ++ integerChars n ++ after))) rfl, .digits ?_⟩
    rw [String.toList_ofList, Text.strip_append hbefore hafter, ← Numeral.chars_ofInt, Numeral.strip_chars]

end Json

/-! ## Rules -/

namespace Rule

/-- The keys of the values in a stored rule. -/
def valueKeys : List String := ["value", "valueStart", "valueEnd"]

/-- The value that a rule holds under a key. -/
def held (r : Rule) (key : String) : Value :=
  if key = "value" then r.value
  else if key = "valueStart" then r.start
  else if key = "valueEnd" then r.finish
  else .null

variable {entries others : Entries} {field : FieldName} {key : String}

/-- Entries with one field, one operator and values that are read alike are read as one rule. -/
theorem ofEntries?_congr (hf : FieldName.ofValue? (entries.get "field") = .ok field)
    (hfield : others.get "field" = entries.get "field")
    (hoperator : others.get "operator" = entries.get "operator")
    (hvalues : ∀ key ∈ valueKeys,
      (others.get key).typed? field.type = (entries.get key).typed? field.type) :
    ofEntries? others = ofEntries? entries := by
  rw [ofEntries?_eq, ofEntries?_eq, hfield, hoperator, hf, ok_bind, ok_bind,
    hvalues "value" (by decide), hvalues "valueStart" (by decide), hvalues "valueEnd" (by decide)]

/-- A rule for a field of integers is read when its values have numbers. -/
theorem ofEntries?_isOk {type : FieldType} {operator : OperatorName}
    (hf : FieldName.ofValue? (entries.get "field") = .ok field) (htype : field.type = some type)
    (ho : OperatorName.ofValue? (entries.get "operator") = .ok operator)
    (hvalues : ∀ key ∈ valueKeys, (entries.get key).defiesNumber = false) :
    ∃ r, ofEntries? entries = .ok r := by
  refine not_fails_iff.1 fun hfails => ?_
  rw [ofEntries?_eq, hf, ok_bind, htype, ho] at hfails
  obtain ⟨-, h | h | h⟩ := (typedOperands_fail type).1 hfails
  · rw [hvalues "value" (by decide)] at h
    cases h
  · rw [hvalues "valueStart" (by decide)] at h
    cases h
  · rw [hvalues "valueEnd" (by decide)] at h
    cases h

theorem ne_of_mem_valueKeys (hkey : key ∈ valueKeys) : "field" ≠ key ∧ "operator" ≠ key := by
  constructor <;> rintro rfl <;> revert hkey <;> decide

/-- A rule holds under each key what is read there, a list as a tuple. -/
theorem held_of_ofEntries? {r : Rule} {v : Value} (h : ofEntries? entries = .ok r)
    (hf : FieldName.ofValue? (entries.get "field") = .ok field) (hkey : key ∈ valueKeys)
    (hv : (entries.get key).typed? field.type = .ok v) (hkept : v.asTuple = v) : r.held key = v := by
  obtain ⟨hfield, -, ⟨value, hvalue, hr⟩, hstart, hfinish⟩ := ofEntries?_eq_ok h
  obtain rfl := Except.ok.inj (hf.symm.trans hfield)
  simp only [valueKeys, List.mem_cons, List.not_mem_nil, or_false] at hkey
  rcases hkey with rfl | rfl | rfl
  · obtain rfl := Except.ok.inj (hv.symm.trans hvalue)
    exact hr.trans hkept
  · exact Except.ok.inj (hstart.symm.trans hv)
  · exact Except.ok.inj (hfinish.symm.trans hv)

/-- The entries of a rule for a field of integers, with the spelling of an integer of at most 53 bits
under the key of a value, are read as one rule whatever the spelling is, be it in the document or in its
text. The rule holds the integer under the key, and so it has one answer about each record. -/
theorem spelled_integer_held {operator : OperatorName} {n : Int}
    (hf : FieldName.ofValue? (entries.get "field") = .ok field) (htype : field.type = some .number)
    (ho : OperatorName.ofValue? (entries.get "operator") = .ok operator) (hkey : key ∈ valueKeys)
    (hothers : ∀ other ∈ valueKeys, other ≠ key → (entries.get other).defiesNumber = false)
    (hn : n.natAbs ≤ 2 ^ 53) :
    ∃ r, r.held key = .int n ∧
      (∀ v, v.SpellsInteger n → ofEntries? (Entries.set key v entries) = .ok r) ∧
      ∀ s, Json.SpellsInteger n s →
        ∃ v, Json.parse s = .ok v ∧ ofEntries? (Entries.set key v entries) = .ok r := by
  obtain ⟨hfield, hoperator⟩ := ne_of_mem_valueKeys hkey
  have hkept : ∀ v, (Entries.set key v entries).get "field" = entries.get "field" ∧
      (Entries.set key v entries).get "operator" = entries.get "operator" := fun v =>
    ⟨Entries.get_set_of_ne hfield v entries, Entries.get_set_of_ne hoperator v entries⟩
  have hfields : ∀ v, FieldName.ofValue? ((Entries.set key v entries).get "field") = .ok field :=
    fun v => (hkept v).1 ▸ hf
  have hread : (Value.int n).typed? (some .number) = .ok (.int n) := Value.SpellsInteger.integer.typed? hn
  have hint : (Value.int n).typed? field.type = .ok (.int n) := htype ▸ hread
  have hnumber : (Value.int n).defiesNumber = false := Bool.eq_false_iff.2 fun hdefies => by
    have hfails : Fails ((Value.int n).typed? (some .number)) :=
      (Value.typedAs?_fails .number (.int n)).2 ⟨rfl, hdefies⟩
    rw [hread] at hfails
    exact fails_ok _ hfails
  -- The other values are those of the entries, and the integer has a number.
  obtain ⟨r, hr⟩ : ∃ r, ofEntries? (Entries.set key (.int n) entries) = .ok r := by
    refine ofEntries?_isOk (hfields _) htype ((hkept _).2 ▸ ho) fun other hother => ?_
    by_cases h : other = key
    · rw [h, Entries.get_set, hnumber]
    · rw [Entries.get_set_of_ne h, hothers other hother h]
  have hspelled : ∀ v, v.SpellsInteger n → ofEntries? (Entries.set key v entries) = .ok r := by
    intro v hv
    rw [← hr]
    refine ofEntries?_congr (hfields _) ((hkept v).1.trans (hkept _).1.symm)
      ((hkept v).2.trans (hkept _).2.symm) fun other _ => ?_
    by_cases h : other = key
    · rw [h, Entries.get_set, Entries.get_set, hint, htype, hv.typed? hn]
    · rw [Entries.get_set_of_ne h, Entries.get_set_of_ne h]
  refine ⟨r, ?_, hspelled, fun s hs => ?_⟩
  · exact held_of_ofEntries? hr (hfields _) hkey (by rw [Entries.get_set, hint]) rfl
  · obtain ⟨v, hparse, hv⟩ := hs.exists_parse hn
    exact ⟨v, hparse, hspelled v hv⟩

/-- A text of four digits is a number of pages and no year. -/
theorem spelled_pages_held :
    let entries : Entries := [("field", .text "pageCount"), ("operator", .text "greater_than")]
    ∃ r : Rule, r.held "value" = .int 1984 ∧
      (∀ v : Value, v.SpellsInteger 1984 → ofEntries? (Entries.set "value" v entries) = .ok r) ∧
      ∀ s, Json.SpellsInteger 1984 s →
        ∃ v, Json.parse s = .ok v ∧ ofEntries? (Entries.set "value" v entries) = .ok r := by
  intro entries
  have hf : FieldName.ofValue? (entries.get "field") = .ok (.known .pageCount) := rfl
  have ho : OperatorName.ofValue? (entries.get "operator") = .ok (.known .greaterThan) := rfl
  exact spelled_integer_held hf rfl ho (by decide) (by decide) (by decide)

end Rule

end ShelfRules
