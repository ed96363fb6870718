import ShelfRules.Proofs.QuotedTexts

/-!
# Rules that quote a part of a text

A part of a text is looked for in lower case, unless the part or the text is a date, which holds no
text at all. In lower case a part stays a part of the text, but for its capital sigmas: one that closes
a word becomes a final sigma, and whether it does depends on what stands around the part.

Results:
* `Text.isPartOf_iff`: a part is found wherever it stands.
* `Text.lower_append`: the lower-case form of a text, part by part.
* `Text.lowerBetween_eq_iff`: a part has its own lower-case form exactly when its sigmas are kept.
* `Rule.quoted_part_found`: what the operators on text answer for the parts of a text.
* `Rule.quotedYear_missed`: a year is not found in a title, nor is a part that ends with a sigma.
-/

namespace ShelfRules

namespace Text

/-! ## Parts -/

theorem isPartOf_iff {part s : List Char} : isPartOf part s = true ↔ part <:+: s := by
  induction s with
  | nil => simp [isPartOf]
  | cons c s ih => rw [isPartOf, Bool.or_eq_true, List.isPrefixOf_iff_prefix, ih, List.infix_cons_iff]

/-! ## The lower-case form of a part -/

theorem casedNext_cons (c : Char) (s : List Char) :
    casedNext (c :: s) = if isCaseIgnorable c then casedNext s else isCased c := by
  rw [casedNext, List.dropWhile_cons]
  cases isCaseIgnorable c <;> rfl

/-- A capital sigma between two texts closes a word. -/
def closesWord (before behind : List Char) : Bool := casedNext before.reverse && !casedNext behind

/-- The lower-case form of a text that stands between two others. -/
def lowerBetween (before behind : List Char) : List Char → List Char
  | [] => []
  | c :: rest =>
    (if c = 'Σ' then [if closesWord before (rest ++ behind) then 'ς' else 'σ'] else lowerChar c) ++
      lowerBetween (before ++ [c]) behind rest

/-- The lower-case form of a text behind another one, as far as a part of it goes and from there. What is
known of the text in front is whether the last character that is not passed over has case. -/
theorem lowerFrom_append (before s behind : List Char) :
    lowerFrom (casedNext before.reverse) (s ++ behind) =
      lowerBetween before behind s ++ lowerFrom (casedNext (before ++ s).reverse) behind := by
  induction s generalizing before with
  | nil => rw [List.append_nil]; rfl
  | cons c rest ih =>
    have hnext : (if isCaseIgnorable c then casedNext before.reverse else isCased c) =
        casedNext (before ++ [c]).reverse := by
      rw [List.reverse_append, List.reverse_singleton, List.singleton_append, casedNext_cons]
    have hrest := ih (before ++ [c])
    rw [List.append_assoc, List.singleton_append] at hrest
    rw [List.cons_append, lowerFrom, hnext, hrest, lowerBetween, ← closesWord]
    split
    · rfl
    · rw [List.append_assoc]

theorem lowerFrom_eq (before s : List Char) :
    lowerFrom (casedNext before.reverse) s = lowerBetween before [] s := by
  have h := lowerFrom_append before s []
  rwa [List.append_nil, lowerFrom, List.append_nil] at h

theorem lower_eq (s : List Char) : lower s = lowerBetween [] [] s := lowerFrom_eq [] s

/-- The lower-case form of a text, part by part. -/
theorem lower_append (before s behind : List Char) : lower (before ++ s ++ behind) =
    lowerBetween [] (s ++ behind) before ++ lowerBetween before behind s ++
      lowerBetween (before ++ s) [] behind := by
  have hbefore := lowerFrom_append [] before (s ++ behind)
  have hs := lowerFrom_append before s behind
  rw [List.nil_append] at hbefore
  rw [List.append_assoc, lower, ← lowerFrom_eq, List.append_assoc, ← hs]
  exact hbefore

/-! ## Sigmas -/

/-- The capital sigmas of a text close words between two texts where they close words on their own. -/
def KeepsSigmas (before s behind : List Char) : Prop :=
  ∀ u v, s = u ++ 'Σ' :: v → closesWord (before ++ u) (v ++ behind) = closesWord u v

theorem keepsSigmas_of_no_sigma {before s behind : List Char} (h : 'Σ' ∉ s) :
    KeepsSigmas before s behind := by
  rintro u v rfl
  exact absurd (List.mem_append_right u List.mem_cons_self) h

theorem forall_sigma_cons {P : List Char → List Char → Prop} {c : Char} {rest : List Char} :
    (∀ u v, c :: rest = u ++ 'Σ' :: v → P u v) ↔
      (c = 'Σ' → P [] rest) ∧ ∀ u v, rest = u ++ 'Σ' :: v → P (c :: u) v := by
  refine ⟨fun h => ⟨?_, ?_⟩, fun ⟨hfirst, hrest⟩ u v huv => ?_⟩
  · rintro rfl
    exact h [] rest rfl
  · rintro u v rfl
    exact h (c :: u) v rfl
  · cases u with
    | nil =>
      obtain ⟨rfl, rfl⟩ := List.cons.inj huv
      exact hfirst rfl
    | cons d u =>
      obtain ⟨rfl, hv⟩ := List.cons.inj huv
      exact hrest u v hv

/-- Between two texts a text has the lower-case form that it has between two others exactly when its
capital sigmas close words where they do there. -/
theorem lowerBetween_eq_iff {before behind before' behind' s : List Char} :
    lowerBetween before behind s = lowerBetween before' behind' s ↔
      ∀ u v, s = u ++ 'Σ' :: v →
        closesWord (before ++ u) (v ++ behind) = closesWord (before' ++ u) (v ++ behind') := by
  induction s generalizing before before' with
  | nil => exact iff_of_true rfl fun u v h => absurd h.symm (by simp)
  | cons c rest ih =>
    have hrest := @ih (before ++ [c]) (before' ++ [c])
    simp only [List.append_assoc, List.singleton_append] at hrest
    rw [forall_sigma_cons, lowerBetween, lowerBetween, ← hrest, List.append_nil, List.append_nil]
    -- A capital sigma becomes one character on both sides, any other character the same ones.
    by_cases hc : c = 'Σ'
    · subst hc
      simp only [if_true, List.singleton_append, List.cons.injEq, forall_true_left]
      refine and_congr_left fun _ => ?_
      cases closesWord before (rest ++ behind) <;> cases closesWord before' (rest ++ behind') <;>
        decide
    · simp only [hc, if_false, List.append_cancel_left_eq, false_implies, true_and]

theorem lowerBetween_eq_lower_iff {before s behind : List Char} :
    lowerBetween before behind s = lower s ↔ KeepsSigmas before s behind := by
  rw [lower_eq, lowerBetween_eq_iff]
  simp only [List.append_nil, List.nil_append, KeepsSigmas]

instance (before s behind : List Char) : Decidable (KeepsSigmas before s behind) :=
  decidable_of_iff _ lowerBetween_eq_lower_iff

theorem length_lowerBetween (before behind before' behind' s : List Char) :
    (lowerBetween before behind s).length = (lowerBetween before' behind' s).length := by
  induction s generalizing before before' with
  | nil => rfl
  | cons c rest ih =>
    rw [lowerBetween, lowerBetween, List.length_append, List.length_append, ih _ (before' ++ [c])]
    split <;> rfl

theorem length_lowerBetween_eq (before behind s : List Char) :
    (lowerBetween before behind s).length = (lower s).length := by
  rw [lower_eq, length_lowerBetween]

/-- A part whose sigmas are kept is a part in lower case. -/
theorem lower_infix {before s behind : List Char} (h : KeepsSigmas before s behind) :
    lower s <:+: lower (before ++ s ++ behind) := by
  rw [lower_append, lowerBetween_eq_lower_iff.2 h]
  exact List.infix_append _ _ _

theorem lower_prefix_iff (s behind : List Char) :
    lower s <+: lower (s ++ behind) ↔ KeepsSigmas [] s behind := by
  have happend := lower_append [] s behind
  rw [List.nil_append, lowerBetween, List.nil_append] at happend
  rw [happend, List.prefix_iff_eq_take, List.take_left' (length_lowerBetween_eq [] behind s), eq_comm,
    lowerBetween_eq_lower_iff]

theorem lower_suffix_iff (before s : List Char) :
    lower s <:+ lower (before ++ s) ↔ KeepsSigmas before s [] := by
  have happend := lower_append before s []
  rw [List.append_nil, List.append_nil, lowerBetween, List.append_nil] at happend
  rw [happend, List.suffix_iff_eq_drop, List.drop_left' ?_, eq_comm, lowerBetween_eq_lower_iff]
  rw [List.length_append, length_lowerBetween_eq before [] s, Nat.add_sub_cancel]

end Text

/-! ## Rules -/

namespace Operand

variable {relation : List Char → List Char → Bool} {negated : Bool} {raw : Value} {s t : String}

/-- A date stands in no relation to a text. -/
theorem relates?_of_date (h : (Moment.ofText? t).isSome = true ∨ (Moment.ofText? s).isSome = true) :
    (scalar raw (.normalText t)).relates? relation negated (.normalText s) = .ok negated := by
  cases ht : Moment.ofText? t with
  | some m =>
    rw [Value.normalText_of_date ht]
    rfl
  | none =>
    obtain ⟨m, hs⟩ := Option.isSome_iff_exists.1 (h.resolve_left (by simp [ht]))
    rw [Value.normalText_of_date hs, Value.normalText_of_not_date ht]
    rfl

/-- Texts that are no dates are related by their lower-case forms. -/
theorem relates?_of_texts (ht : Moment.ofText? t = none)
    (hs : Moment.ofText? (Text.lowered s) = none) :
    (scalar raw (.normalText t)).relates? relation negated (.normalText (Text.lowered s)) =
      .ok (relation (Text.lower t.toList) (Text.lower s.toList) ^^ negated) := by
  rw [Value.normalText_of_not_date ht, Value.normalText_of_not_date hs, Text.lowered_lowered,
    ← Text.toList_lowered, ← Text.toList_lowered]
  cases negated <;> simp [relates?, Operand.value]

end Operand

theorem Operator.takesOne_of_text {operator : Operator} (h : operator.family = .text) :
    operator.takesOne = true := by
  cases operator with
  | contains | doesNotContain | startsWith | endsWith => rfl
  | _ => cases h

namespace Rule

variable {r : Rule} {field : Field} {operator : Operator} {s t : String} {record : Record}

/-- An operator on text finds no part in a date, and a date in no text. -/
theorem Quotes.verdict_of_date (h : r.Quotes field operator t) (htext : operator.family = .text)
    (hfield : field ∈ Field.singleTexts) (hs : record.fieldValue field = .text s)
    (hdate : (Moment.ofText? t).isSome = true ∨ (Moment.ofText? (Text.lowered s)).isSome = true) :
    r.verdict record = .ok (operator == .doesNotContain) := by
  rw [h.verdict_eq (Operator.takesOne_of_text htext) hfield hs]
  cases operator with
  | contains | doesNotContain | startsWith | endsWith => exact Operand.relates?_of_date hdate
  | _ => cases htext

/-- An operator on text relates two texts that are no dates by their lower-case forms. -/
theorem Quotes.verdict_of_texts (h : r.Quotes field operator t) (htext : operator.family = .text)
    {relation : List Char → List Char → Bool} {negated : Bool}
    (htest : ∀ subject operand set,
      operator.test? subject operand set = operand.relates? relation negated subject)
    (hfield : field ∈ Field.singleTexts) (hs : record.fieldValue field = .text s)
    (ht : Moment.ofText? t = none) (hlower : Moment.ofText? (Text.lowered s) = none) :
    r.verdict record = .ok (relation (Text.lower t.toList) (Text.lower s.toList) ^^ negated) := by
  rw [h.verdict_eq (Operator.takesOne_of_text htext) hfield hs, htest,
    Operand.relates?_of_texts ht hlower]

/-- A part of a book's text is found by the operators on text, unless the text or the part is a date:
nothing is found in a date, and a date nowhere. Where the part stands its capital sigmas have to close
words as they do in the part alone, or its lower-case form is another one there; a part without them
is always found. -/
theorem quoted_part_found (hfield : field ∈ Field.singleTexts)
    (hs : record.fieldValue field = .text s) :
    ((Moment.ofText? t).isSome = true ∨ (Moment.ofText? (Text.lowered s)).isSome = true →
      ∀ operator : Operator, operator.family = .text → ∀ r : Rule, r.Quotes field operator t →
        r.verdict record = .ok (operator == .doesNotContain)) ∧
    (Moment.ofText? t = none → Moment.ofText? (Text.lowered s) = none →
      (∀ before behind, s.toList = before ++ t.toList ++ behind →
        Text.KeepsSigmas before t.toList behind →
          (∀ r : Rule, r.Quotes field .contains t → r.verdict record = .ok true) ∧
          ∀ r : Rule, r.Quotes field .doesNotContain t → r.verdict record = .ok false) ∧
      (∀ behind, s.toList = t.toList ++ behind → ∀ r : Rule, r.Quotes field .startsWith t →
        r.verdict record = .ok (decide (Text.KeepsSigmas [] t.toList behind))) ∧
      ∀ before, s.toList = before ++ t.toList → ∀ r : Rule, r.Quotes field .endsWith t →
        r.verdict record = .ok (decide (Text.KeepsSigmas before t.toList []))) ∧
    ('Σ' ∉ t.toList → ∀ before behind, Text.KeepsSigmas before t.toList behind) := by
  refine ⟨fun hdate operator htext r hr => hr.verdict_of_date htext hfield hs hdate,
    fun ht hlower => ⟨fun before behind hpart hkept => ?_, fun behind hpart r hr => ?_,
      fun before hpart r hr => ?_⟩, fun hsigma _ _ => Text.keepsSigmas_of_no_sigma hsigma⟩
  · have hfound : Text.isPartOf (Text.lower t.toList) (Text.lower s.toList) = true := by
      rw [Text.isPartOf_iff, hpart]
      exact Text.lower_infix hkept
    refine ⟨fun r hr => ?_, fun r hr => ?_⟩
    · rw [hr.verdict_of_texts rfl (fun _ _ _ => rfl) hfield hs ht hlower, hfound, Bool.xor_false]
    · rw [hr.verdict_of_texts rfl (fun _ _ _ => rfl) hfield hs ht hlower, hfound, Bool.xor_self]
  · have hfound : (Text.lower t.toList).isPrefixOf (Text.lower s.toList) =
        decide (Text.KeepsSigmas [] t.toList behind) := by
      rw [Bool.eq_iff_iff, decide_eq_true_eq, List.isPrefixOf_iff_prefix, hpart, Text.lower_prefix_iff]
    rw [hr.verdict_of_texts rfl (fun _ _ _ => rfl) hfield hs ht hlower, hfound, Bool.xor_false]
  · have hfound : (Text.lower t.toList).isSuffixOf (Text.lower s.toList) =
        decide (Text.KeepsSigmas before t.toList []) := by
      rw [Bool.eq_iff_iff, decide_eq_true_eq, List.isSuffixOf_iff_suffix, hpart, Text.lower_suffix_iff]
    rw [hr.verdict_of_texts rfl (fun _ _ _ => rfl) hfield hs ht hlower, hfound, Bool.xor_false]

/-- A word is found at the end of a title though its last sigma becomes a final one, the author at its
start, and a year nowhere in another one. -/
theorem quotedIlias_found :
    ((quoting .title .contains "ΙΛΙΑΣ" rfl).verdict (Group.titledBook "Homer: ΙΛΙΑΣ" (.list [])) =
        .ok true ∧
      (quoting .title .doesNotContain "ΙΛΙΑΣ" rfl).verdict
          (Group.titledBook "Homer: ΙΛΙΑΣ" (.list [])) = .ok false ∧
      (quoting .title .endsWith "ΙΛΙΑΣ" rfl).verdict (Group.titledBook "Homer: ΙΛΙΑΣ" (.list [])) =
        .ok true) ∧
    (quoting .title .startsWith "Homer" rfl).verdict (Group.titledBook "Homer: ΙΛΙΑΣ" (.list [])) =
      .ok true ∧
    (quoting .title .contains "1984" rfl).verdict (Group.titledBook "Summer of 1984" (.list [])) =
      .ok false := by
  have hword : Moment.ofText? "ΙΛΙΑΣ" = none ∧
      Text.KeepsSigmas "Homer: ".toList "ΙΛΙΑΣ".toList [] := by decide +kernel
  have hauthor : Moment.ofText? "Homer" = none ∧ 'Σ' ∉ "Homer".toList := by decide +kernel
  have htitle : Moment.ofText? (Text.lowered "Homer: ΙΛΙΑΣ") = none := by decide +kernel
  have hyear : (Moment.ofText? "1984").isSome = true := by decide +kernel
  have htitled : Field.title ∈ Field.singleTexts := by decide
  have hbook : (Group.titledBook "Homer: ΙΛΙΑΣ" (.list [])).fieldValue .title =
      .text "Homer: ΙΛΙΑΣ" := rfl
  have hsummer : (Group.titledBook "Summer of 1984" (.list [])).fieldValue .title =
      .text "Summer of 1984" := rfl
  obtain ⟨-, hfound, -⟩ := quoted_part_found (t := "ΙΛΙΑΣ") htitled hbook
  obtain ⟨hpart, -, hends⟩ := hfound hword.1 htitle
  obtain ⟨hcontains, hmisses⟩ := hpart "Homer: ".toList [] (by decide) hword.2
  obtain ⟨-, hfound, hsigma⟩ := quoted_part_found (t := "Homer") htitled hbook
  obtain ⟨-, hstarts, -⟩ := hfound hauthor.1 htitle
  obtain ⟨hdate, -, -⟩ := quoted_part_found (t := "1984") htitled hsummer
  refine ⟨⟨hcontains _ (quoting_quotes rfl), hmisses _ (quoting_quotes rfl), ?_⟩, ?_, ?_⟩
  · rw [hends "Homer: ".toList (by decide) _ (quoting_quotes rfl), decide_eq_true hword.2]
  · rw [hstarts ": ΙΛΙΑΣ".toList (by decide) _ (quoting_quotes rfl),
      decide_eq_true (hsigma hauthor.2 _ _)]
  · exact hdate (.inl hyear) .contains rfl _ (quoting_quotes rfl)

/-- A year is a date, so that it is not found in a title, and in lower case a part that ends with a sigma
has another letter there than the word that it begins. -/
theorem quotedYear_missed :
    ((quoting .title .contains "1984" rfl).verdict (Group.titledBook "Summer of 1984" (.list [])) =
        .ok false ∧
      (quoting .title .doesNotContain "1984" rfl).verdict
          (Group.titledBook "Summer of 1984" (.list [])) = .ok true ∧
      (quoting .title .endsWith "1984" rfl).verdict (Group.titledBook "Summer of 1984" (.list [])) =
        .ok false) ∧
    (quoting .title .startsWith "ΟΔΥΣ" rfl).verdict (Group.titledBook "ΟΔΥΣΣΕΙΑ" (.list [])) =
      .ok false := by
  decide +kernel

end Rule

end ShelfRules
