import ShelfRules.Value.Normal
import ShelfRules.Proofs.JsonDocuments
import ShelfRules.Proofs.LoweredDates

/-!
# Values normalized again

A normal value is its own normal form, but for one kind of text. A text that is no date becomes a
text in lower case, and lower case can take from it what kept it from being a date: a `Z` that an
offset follows ends the time of day, and a `z` there is one character left over that is passed over.

Results:
* `Value.normalized_again_iff`: a normal value is normalized to itself, unless it was made of a text
  that is no date, but is one with its marks in lower case.
* `Value.zuluOffset_normalized_again`: such a text.
-/

namespace ShelfRules

namespace Moment

/-- The text is no date, but it is one with its marks in lower case. -/
def IsHidden (s : String) : Prop :=
  ofText? s = none ∧ (ofText? (Text.unmarked s)).isSome = true

instance (s : String) : Decidable (IsHidden s) := inferInstanceAs (Decidable (_ ∧ _))

/-- Of the case of a text its date depends on that of the marks alone. -/
theorem ofText?_lowered (s : String) : ofText? (Text.lowered s) = ofText? (Text.unmarked s) := by
  refine ofText?_eq ?_ ?_ ?_ ?_
  · rw [Text.toList_lowered, Text.toList_unmarked]
    exact Text.lower_resembles _
  · rw [Text.toList_lowered, Text.toList_unmarked]
    exact Text.unmark_resembles _
  · rw [Text.toList_lowered]
    exact Text.not_mem_lower _
  · rw [Text.toList_unmarked]
    exact Text.not_mem_unmark _

theorem isSome_ofText?_lowered (s : String) :
    (ofText? (Text.lowered s)).isSome = (ofText? (Text.unmarked s)).isSome :=
  congrArg Option.isSome (ofText?_lowered s)

/-- A text that is no date is one in lower case exactly when it is one with its marks in lower
case. -/
theorem ofText?_lowered_iff {s : String} (h : ofText? s = none) :
    ofText? (Text.lowered s) = none ↔ ¬IsHidden s := by
  rw [← Option.not_isSome_iff_eq_none, isSome_ofText?_lowered, IsHidden, not_and]
  exact ⟨fun hsome _ => hsome, fun hsome => hsome h⟩

/-- A hidden date has a `Z` or the Kelvin sign. -/
theorem IsHidden.mark_mem {s : String} (h : IsHidden s) :
    'Z' ∈ s.toList ∨ '\u212A' ∈ s.toList := by
  by_contra hmark
  rw [not_or] at hmark
  have hsome : (ofText? s).isSome = true := by
    refine ofText?_of_resembles ?_ ?_ ((isSome_ofText?_lowered s).trans h.2)
    · rw [Text.toList_lowered]
      exact Text.resembles_lower hmark.1 hmark.2
    · rw [Text.toList_lowered]
      exact Text.not_mem_lower _
  rw [h.1] at hsome
  cases hsome

end Moment

/-! ## Lists -/

/-- The texts of a list are in lower case. -/
theorem lowered_of_lowerItems? {items : List Value} {ss : List String}
    (h : lowerItems? items = .ok ss) : ∀ s ∈ ss, Text.lowered s = s := by
  induction items using lowerItems?.induct generalizing ss with
  | case1 =>
    cases h
    exact nofun
  | case2 rest ih => exact ih h
  | case3 v rest hnull fault hfault =>
    rw [lowerItems?, hfault] at h
    · cases h
    · exact hnull
  | case4 v rest hnull s htext ih =>
    rw [lowerItems?, htext] at h
    · obtain ⟨others, hothers, rfl⟩ := Json.except_map_eq_ok h
      exact List.forall_mem_cons.2 ⟨Text.lowered_lowered s, ih hothers⟩
    · exact hnull

/-- Texts in lower case stay as they are. -/
theorem lowerItems?_texts {ss : List String} (h : ∀ s ∈ ss, Text.lowered s = s) :
    lowerItems? (ss.map .text) = .ok ss := by
  induction ss with
  | nil => rfl
  | cons s rest ih =>
    obtain ⟨hs, hrest⟩ := List.forall_mem_cons.1 h
    rw [List.map_cons, lowerItems?, Value.webText?_text]
    · simp only [ih hrest, hs, Except.map]
    · exact nofun

namespace Value

/-- The value is a text that hides a date. -/
def HidesDate : Value → Prop
  | .text s => Moment.IsHidden s
  | _ => False

theorem normalize?_moment (m : Moment) : (moment m).normalize? = .ok (moment m) := rfl

theorem normalize?_texts {items : List Value} {w : Value}
    (h : (lowerItems? items).map texts = .ok w) : w.normalize? = .ok w := by
  obtain ⟨ss, hitems, rfl⟩ := Json.except_map_eq_ok h
  rw [texts, normalize?, lowerItems?_texts (lowered_of_lowerItems? hitems)]
  rfl

theorem normalize?_of_date {s : String} {m : Moment} (h : Moment.ofText? s = some m) :
    (text s).normalize? = .ok (moment m) := by
  rw [normalize?, h]

theorem normalize?_of_not_date {s : String} (h : Moment.ofText? s = none) :
    (text s).normalize? = .ok (text (Text.lowered s)) := by
  rw [normalize?, h]

/-- The lower-case form of a text that is no date is normal unless it is a date. -/
theorem normalize?_lowered_iff {s : String} (h : Moment.ofText? s = none) :
    (text (Text.lowered s)).normalize? = .ok (text (Text.lowered s)) ↔ ¬Moment.IsHidden s := by
  rw [← Moment.ofText?_lowered_iff h]
  cases hlower : Moment.ofText? (Text.lowered s) with
  | none => simp [normalize?_of_not_date hlower, Text.lowered_lowered]
  | some m => simp [normalize?_of_date hlower, moment]

/-- A normal value is normalized to itself, unless it was made of a text that hides a date. A text
that is no date is none in lower case either, unless it hides one, and then it has a `Z` or the
Kelvin sign. Lower case is its own lower-case form. -/
theorem normalized_again_iff (v : Value) (s : String) :
    (∀ w, v.normalize? = .ok w → (w.normalize? = .ok w ↔ ¬v.HidesDate)) ∧
    (Moment.ofText? s = none → (Moment.ofText? (Text.lowered s) = none ↔ ¬Moment.IsHidden s)) ∧
    (Moment.IsHidden s → 'Z' ∈ s.toList ∨ '\u212A' ∈ s.toList) ∧
    Text.lowered (Text.lowered s) = Text.lowered s := by
  refine ⟨fun w h => ?_, Moment.ofText?_lowered_iff, Moment.IsHidden.mark_mem,
    Text.lowered_lowered s⟩
  cases v with
  | text s =>
    cases hdate : Moment.ofText? s with
    | none =>
      obtain rfl := Except.ok.inj ((normalize?_of_not_date hdate).symm.trans h)
      exact normalize?_lowered_iff hdate
    | some m =>
      obtain rfl := Except.ok.inj ((normalize?_of_date hdate).symm.trans h)
      refine iff_of_true (normalize?_moment m) fun hhidden => ?_
      rw [hhidden.1] at hdate
      cases hdate
  | list items => exact iff_of_true (normalize?_texts h) not_false
  | tuple items => exact iff_of_true (normalize?_texts h) not_false
  | stamp t =>
    rw [normalize?] at h
    split at h
    · rename_i m _
      obtain rfl := Except.ok.inj h
      exact iff_of_true (normalize?_moment m) not_false
    · obtain rfl := Except.ok.inj h
      exact iff_of_true rfl not_false
  | _ =>
    obtain rfl := Except.ok.inj h
    exact iff_of_true rfl not_false

/-- A text is normal in lower case, and so is one with a `Z` that hides no date; a `Z` in front of
an offset hides one. -/
theorem duneZone_normalized_again :
    ((text "DUNE").normalize? = .ok (text "dune") ∧ (text "dune").normalize? = .ok (text "dune")) ∧
      (Moment.ofText? "ZONE" = none ∧ Moment.ofText? (Text.lowered "ZONE") = none) ∧
      Moment.IsHidden "2020-05-01T10:30:00Z+02:00" ∧
      ('Z' ∈ "2020-05-01T10:30:00Z+02:00".toList ∨
        '\u212A' ∈ "2020-05-01T10:30:00Z+02:00".toList) := by
  have hdune : Moment.ofText? "DUNE" = none ∧ Text.lowered "DUNE" = "dune" ∧
      ¬Moment.IsHidden "DUNE" := by decide +kernel
  have hzone : Moment.ofText? "ZONE" = none ∧ ¬Moment.IsHidden "ZONE" := by decide +kernel
  have hhidden : Moment.IsHidden "2020-05-01T10:30:00Z+02:00" := by decide +kernel
  have hnormal : (text "DUNE").normalize? = .ok (text "dune") := by
    rw [normalize?_of_not_date hdune.1, hdune.2.1]
  obtain ⟨hagain, hdates, -, -⟩ := normalized_again_iff (text "DUNE") "ZONE"
  obtain ⟨-, -, hmarks, -⟩ := normalized_again_iff null "2020-05-01T10:30:00Z+02:00"
  exact ⟨⟨hnormal, (hagain _ hnormal).2 hdune.2.2⟩, ⟨hzone.1, (hdates hzone.1).2 hzone.2⟩,
    hhidden, hmarks hhidden⟩

/-- Behind a time of day a `Z` that an offset follows is refused, but a `z` is passed over, so that
the normal form of this text is no normal value. -/
theorem zuluOffset_normalized_again :
    (text "2020-05-01T10:30:00Z+02:00").normalize? = .ok (text "2020-05-01t10:30:00z+02:00") ∧
      (text "2020-05-01t10:30:00z+02:00").normalize? =
        .ok (moment ⟨⟨2020, 5, 1, by decide⟩, ⟨8, 30, 0, 0, by decide⟩⟩) ∧
      moment ⟨⟨2020, 5, 1, by decide⟩, ⟨8, 30, 0, 0, by decide⟩⟩ ≠
        text "2020-05-01t10:30:00z+02:00" := by
  have hdate : Moment.ofText? "2020-05-01T10:30:00Z+02:00" = none ∧
      Text.lowered "2020-05-01T10:30:00Z+02:00" = "2020-05-01t10:30:00z+02:00" := by decide +kernel
  refine ⟨?_, normalize?_of_date (by decide +kernel), nofun⟩
  rw [normalize?_of_not_date hdate.1, hdate.2]

end Value

end ShelfRules
