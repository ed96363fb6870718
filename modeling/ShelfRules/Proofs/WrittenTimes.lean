import ShelfRules.Proofs.CountedDays
import ShelfRules.Proofs.WrittenDays

/-!
# Written times are read back

A time of day is written with two digits for each of its parts, and with six for its microseconds when
there are any; an offset with a sign and as many parts as it has. What is written is read back part by
part: behind each part but the last stands a colon or a point, and more than one character behind that.

Results:
* `TimeOfDay.readClock_isoChars`, `Offset.readOffset_isoChars`: times and offsets are read back.
* `Iso.readTime_append`: a time is read in front of an offset.
* `Timestamp.ofIso?_written`: a timestamp with an offset of whole seconds is read back.
* `Moment.ofText?_isoChars`, `Moment.ofText?_utc`, `Moment.ofText?_shifted`: the moment in UTC that a
  written timestamp stands for.
-/

namespace ShelfRules

/-! ## Clocks -/

theorem Digits.readDigits_all {count : Nat} (ds : Digits count) :
    Iso.readDigits count ds.chars = some (ds.value, []) := by
  have hread := ds.readDigits []
  rwa [List.append_nil] at hread

namespace Iso

variable (hour minute second : Digits 2) (fraction : Digits 6)

theorem readFraction_digits (h m s : Nat) :
    readFraction h m s fraction.chars = some ⟨h, m, s, fraction.value, false⟩ := by
  have hcount : min fraction.chars.length 6 = 6 := by rw [fraction.length_chars, Nat.min_self]
  rw [readFraction, hcount, fraction.readDigits_all]
  show some (Clock.mk h m s (fraction.value * 1) false) = _
  rw [Nat.mul_one]

/-- Behind a sign that has digits behind it the reader goes on. -/
theorem readBehind_digits {count : Nat} (clock : Bool → Clock)
    (more : Char → List Char → Option Clock) (c : Char) (ds : Digits (count + 1)) (s : List Char) :
    readBehind clock more (c :: (ds.chars ++ s)) = more c (ds.chars ++ s) := by
  match hchars : ds.chars, ds.length_chars with
  | d :: rest, _ => rfl

theorem readSeconds_digits (h m : Nat) :
    readSeconds h m true second.chars = some ⟨h, m, second.value, 0, false⟩ := by
  rw [readSeconds, second.readDigits_all]
  rfl

theorem readSeconds_fraction (h m : Nat) :
    readSeconds h m true (second.chars ++ '.' :: fraction.chars) =
      some ⟨h, m, second.value, fraction.value, false⟩ := by
  have hread := readFraction_digits fraction h m second.value
  rw [← List.append_nil fraction.chars] at hread ⊢
  rw [readSeconds, second.readDigits, Option.bind_eq_bind, Option.bind_some]
  dsimp only
  rw [readBehind_digits]
  exact hread

theorem readMinutes_digits (h : Nat) :
    readMinutes h true minute.chars = some ⟨h, minute.value, 0, 0, false⟩ := by
  rw [readMinutes, minute.readDigits_all]
  rfl

theorem readMinutes_seconds (h : Nat) (s : List Char) :
    readMinutes h true (minute.chars ++ ':' :: (second.chars ++ s)) =
      readSeconds h minute.value true (second.chars ++ s) := by
  rw [readMinutes, minute.readDigits, Option.bind_eq_bind, Option.bind_some]
  dsimp only
  rw [readBehind_digits]
  rfl

theorem readClock_minutes (s : List Char) :
    readClock (hour.chars ++ ':' :: (minute.chars ++ s)) =
      readMinutes hour.value true (minute.chars ++ s) := by
  rw [readClock, hour.readDigits, Option.bind_eq_bind, Option.bind_some]
  dsimp only
  rw [readBehind_digits]
  rfl

end Iso

/-! ## Times of day -/

namespace TimeOfDay

/-- The digits of the parts of a time. -/
theorem exists_digits (t : TimeOfDay) : ∃ (hour minute second : Digits 2) (micro : Digits 6),
    hour.value = t.hour ∧ minute.value = t.minute ∧ second.value = t.second ∧
      micro.value = t.micro ∧ t.isoChars = hour.chars ++ ':' :: (minute.chars ++ ':' ::
        (second.chars ++ if t.micro = 0 then [] else '.' :: micro.chars)) := by
  obtain ⟨hhour, hminute, hsecond, hmicro⟩ := t.valid
  have htwo : 0 < 2 := by decide
  refine ⟨.ofNat 2 t.hour htwo (by omega), .ofNat 2 t.minute htwo (by omega),
    .ofNat 2 t.second htwo (by omega), .ofNat 6 t.micro (by decide) (by omega),
    Digits.value_ofNat _ _, Digits.value_ofNat _ _, Digits.value_ofNat _ _,
    Digits.value_ofNat _ _, ?_⟩
  simp only [isoChars, clockChars, Digits.ofNat, List.append_assoc, List.cons_append]

/-- A written time is read back. -/
theorem readClock_isoChars (t : TimeOfDay) :
    Iso.readClock t.isoChars = some ⟨t.hour, t.minute, t.second, t.micro, false⟩ := by
  obtain ⟨hour, minute, second, micro, hh, hm, hs, hu, hchars⟩ := t.exists_digits
  rw [hchars, Iso.readClock_minutes, Iso.readMinutes_seconds, hh, hm]
  split
  · rename_i hzero
    rw [List.append_nil, Iso.readSeconds_digits, hs, hzero]
  · rw [Iso.readSeconds_fraction, hs, hu]

/-- A written time consists of digits, colons and points. -/
theorem mem_isoChars (t : TimeOfDay) {c : Char} (hc : c ∈ t.isoChars) :
    c.isDigit = true ∨ c = ':' ∨ c = '.' := by
  obtain ⟨hour, minute, second, micro, -, -, -, -, hchars⟩ := t.exists_digits
  simp only [hchars, List.mem_append, List.mem_cons] at hc
  rcases hc with hc | hc | hc | hc | hc | hc
  · exact .inl (hour.isDigit c hc)
  · exact .inr (.inl hc)
  · exact .inl (minute.isDigit c hc)
  · exact .inr (.inl hc)
  · exact .inl (second.isDigit c hc)
  · split at hc
    · cases hc
    · rcases List.mem_cons.1 hc with hc | hc
      · exact .inr (.inr hc)
      · exact .inl (micro.isDigit c hc)

theorem not_startsOffset (t : TimeOfDay) : ∀ c ∈ t.isoChars, Iso.startsOffset c = false := by
  intro c hc
  rcases t.mem_isoChars hc with hdigit | rfl | rfl
  · simp only [Iso.startsOffset, Bool.or_eq_false_iff, beq_eq_false_iff_ne]
    refine ⟨⟨?_, ?_⟩, ?_⟩ <;> rintro rfl <;> cases hdigit
  · decide
  · decide

end TimeOfDay

/-! ## Offsets -/

namespace Offset

/-- The offset is one of whole seconds. -/
def IsWhole (o : Offset) : Prop := 1000000 ∣ o.micros

instance (o : Offset) : Decidable o.IsWhole := inferInstanceAs (Decidable (_ ∣ _))

/-- The characters of an offset of whole seconds: its sign, and behind it its parts in digits. -/
theorem exists_digits {o : Offset} (h : o.IsWhole) : ∃ hour minute second : Digits 2,
    o.micros.natAbs = ((hour.value * 60 + minute.value) * 60 + second.value) * 1000000 ∧
    o.isoChars = (if o.micros < 0 then '-' else '+') :: (hour.chars ++ ':' ::
      (minute.chars ++ if second.value = 0 then [] else ':' :: second.chars)) := by
  have hwhole : o.micros.natAbs % 1000000 = 0 := Nat.mod_eq_zero_of_dvd (Int.natAbs_dvd_natAbs.2 h)
  have hbound := o.bounded
  have htwo : 0 < 2 := by decide
  unfold dayMicros at hbound
  refine ⟨.ofNat 2 (o.micros.natAbs / 3600000000) htwo (by omega),
    .ofNat 2 (o.micros.natAbs / 60000000 % 60) htwo (by omega),
    .ofNat 2 (o.micros.natAbs / 1000000 % 60) htwo (by omega), ?_, ?_⟩
  · rw [Digits.value_ofNat, Digits.value_ofNat, Digits.value_ofNat]
    omega
  · rw [Digits.value_ofNat]
    simp only [isoChars, hwhole, and_true, if_true, List.append_nil, List.append_assoc,
      List.cons_append, Digits.ofNat]

theorem of?_micros (o : Offset) : of? o.micros = some o := dif_pos o.bounded

/-- A written offset of whole seconds is read back. -/
theorem readOffset_isoChars {o : Offset} (h : o.IsWhole) : ∃ sign s, o.isoChars = sign :: s ∧
    (sign = '-' ∨ sign = '+') ∧ Iso.readOffset (sign == '-') s = some o := by
  obtain ⟨hour, minute, second, hmicros, hchars⟩ := exists_digits h
  refine ⟨_, _, hchars, ?_, ?_⟩
  · split
    · exact .inl rfl
    · exact .inr rfl
  · have hclock : Iso.readClock (hour.chars ++ ':' :: (minute.chars ++
        if second.value = 0 then [] else ':' :: second.chars)) =
        some ⟨hour.value, minute.value, second.value, 0, false⟩ := by
      rw [Iso.readClock_minutes]
      split
      · rename_i hzero
        rw [List.append_nil, Iso.readMinutes_digits, hzero]
      · rw [← List.append_nil second.chars, Iso.readMinutes_seconds, List.append_nil,
          Iso.readSeconds_digits]
    have hsign : ((if o.micros < 0 then '-' else '+') == '-') = decide (o.micros < 0) := by
      split <;> simp [*]
    rw [Iso.readOffset, hclock, hsign, Option.bind_eq_bind, Option.bind_some]
    dsimp only
    rw [if_neg Bool.false_ne_true, ← of?_micros o]
    congr 1
    simp only [decide_eq_true_eq]
    split <;> split <;> omega

end Offset

/-! ## Times with offsets -/

namespace Iso

/-- What a time is read as with what stands behind it: nothing, the marker of UTC or an offset. -/
def readZone (t : TimeOfDay) : List Char → Option (TimeOfDay × Option Offset)
  | [] => some (t, none)
  | 'Z' :: s => if isLeftover s then none else some (t, Offset.of? 0)
  | c :: s => (readOffset (c == '-') s).map fun o => (t, some o)

theorem readZone_signed (t : TimeOfDay) {sign : Char} (hsign : sign = '-' ∨ sign = '+')
    (s : List Char) :
    readZone t (sign :: s) = (readOffset (sign == '-') s).map fun o => (t, some o) := by
  rcases hsign with rfl | rfl <;> rfl

/-- A written time is read in front of what starts like an offset. -/
theorem readTime_append (t : TimeOfDay) {s : List Char}
    (hs : ∀ c ∈ s.head?, startsOffset c = true) :
    readTime (t.isoChars ++ s) = readZone t s := by
  have htime : ∀ c ∈ t.isoChars, (!startsOffset c) = true := fun c hc => by
    rw [t.not_startsOffset c hc]
    rfl
  have hfront : (t.isoChars ++ s).takeWhile (!startsOffset ·) = t.isoChars := by
    rw [List.takeWhile_append_of_pos htime]
    cases s with
    | nil => exact List.append_nil _
    | cons c s => simp [hs c rfl]
  have hbehind : (t.isoChars ++ s).dropWhile (!startsOffset ·) = s := by
    rw [List.dropWhile_append_of_pos htime]
    cases s with
    | nil => rfl
    | cons c s => exact List.dropWhile_cons_of_neg (by simp [hs c rfl])
  have hof : TimeOfDay.of? t.hour t.minute t.second t.micro = some t := dif_pos t.valid
  rw [readTime, hfront, hbehind, t.readClock_isoChars]
  simp only [Option.bind_eq_bind, Option.bind_some, hof]
  cases s <;> rfl

end Iso

/-! ## Timestamps -/

namespace Timestamp

/-- A day is read in front of a time. -/
theorem ofIso?_day (d : Date) (s : List Char) : ofIso? (d.isoChars ++ 'T' :: s) =
    (Iso.readTime s).map fun (time, offset) => ⟨⟨d, time⟩, offset⟩ := by
  rw [d.isoChars_eq, ofIso?_chars, d.date?_digits]
  rfl

/-- A timestamp is read back when its clock tells no offset, or one of whole seconds. -/
theorem ofIso?_written (t : Timestamp) (h : ∀ o ∈ t.offset, o.IsWhole) :
    ofIso? t.isoChars = some t := by
  obtain ⟨⟨d, time⟩, offset⟩ := t
  have hread : Iso.readTime (time.isoChars ++ (offset.map Offset.isoChars).getD []) =
      some (time, offset) := by
    cases offset with
    | none => exact Iso.readTime_append time (by simp)
    | some o =>
      obtain ⟨sign, s, hchars, hsign, hoffset⟩ := Offset.readOffset_isoChars (h o rfl)
      have hstarts : Iso.startsOffset sign = true := by
        rcases hsign with rfl | rfl <;> rfl
      show Iso.readTime (time.isoChars ++ o.isoChars) = _
      rw [hchars, Iso.readTime_append time (by simpa using hstarts),
        Iso.readZone_signed time hsign, hoffset]
      rfl
  rw [isoChars, Moment.isoChars, List.append_assoc, List.cons_append, ofIso?_day, hread]
  rfl

/-- A moment with the marker of UTC behind it is read as one on a clock of UTC. -/
theorem ofIso?_utc (m : Moment) : ofIso? (m.isoChars ++ ['Z']) = some ⟨m, Offset.of? 0⟩ := by
  rw [Moment.isoChars, List.append_assoc, List.cons_append, ofIso?_day,
    Iso.readTime_append m.time (by simp [Iso.startsOffset])]
  rfl

end Timestamp

/-! ## Texts -/

theorem Date.not_blank (d : Date) : ∀ c ∈ d.isoChars, Text.isBlank c = false := by
  have hpadded : ∀ {width n : Nat}, ∀ c ∈ padded width n, Text.isBlank c = false := fun c hc =>
    isBlank_of_isDigit (isDigit_of_mem_padded hc)
  have hdash : Text.isBlank '-' = false := by decide
  exact List.forall_mem_append.2 ⟨List.forall_mem_append.2 ⟨hpadded, List.forall_mem_cons.2
    ⟨hdash, hpadded⟩⟩, List.forall_mem_cons.2 ⟨hdash, hpadded⟩⟩

theorem TimeOfDay.not_blank (t : TimeOfDay) : ∀ c ∈ t.isoChars, Text.isBlank c = false := by
  intro c hc
  rcases t.mem_isoChars hc with hdigit | rfl | rfl
  · exact isBlank_of_isDigit hdigit
  · decide
  · decide

theorem Offset.not_blank {o : Offset} (h : o.IsWhole) :
    ∀ c ∈ o.isoChars, Text.isBlank c = false := by
  obtain ⟨hour, minute, second, -, hchars⟩ := Offset.exists_digits h
  have hdigits : ∀ {count : Nat} (ds : Digits count), ∀ c ∈ ds.chars, Text.isBlank c = false :=
    fun ds c hc => isBlank_of_isDigit (ds.isDigit c hc)
  have hcolon : Text.isBlank ':' = false := by decide
  rw [hchars]
  refine List.forall_mem_cons.2 ⟨?_, List.forall_mem_append.2 ⟨hdigits hour, List.forall_mem_cons.2
    ⟨hcolon, List.forall_mem_append.2 ⟨hdigits minute, ?_⟩⟩⟩⟩
  · split <;> decide
  · split
    · exact List.forall_mem_nil _
    · exact List.forall_mem_cons.2 ⟨hcolon, hdigits second⟩

namespace Moment

variable {m : Moment}

theorem not_blank (m : Moment) : ∀ c ∈ m.isoChars, Text.isBlank c = false := by
  have hmarker : Text.isBlank 'T' = false := by decide
  exact List.forall_mem_append.2
    ⟨m.date.not_blank, List.forall_mem_cons.2 ⟨hmarker, m.time.not_blank⟩⟩

theorem dash_mem (m : Moment) : '-' ∈ m.isoChars := by
  simp [isoChars, Date.isoChars]

/-- The text of a moment with something behind it stands for the moment that it is as an ISO text. -/
theorem ofText?_append {s : List Char} {t : Timestamp} {n : Moment}
    (hs : ∀ c ∈ s, Text.isBlank c = false) (hread : Timestamp.ofIso? (m.isoChars ++ s) = some t)
    (hutc : t.toUtc? = some n) : ofText? (String.ofList (m.isoChars ++ s)) = some n := by
  have hblank : ∀ c ∈ m.isoChars ++ s, Text.isBlank c = false :=
    List.forall_mem_append.2 ⟨m.not_blank, hs⟩
  have hdash : '-' ∈ m.isoChars ++ s := List.mem_append_left s m.dash_mem
  have hnil : m.isoChars ++ s ≠ [] := List.ne_nil_of_mem hdash
  have hnumber : isBareNumber (m.isoChars ++ s) = false := by
    have hall : (m.isoChars ++ s).all Text.isDigitLike = false :=
      List.all_eq_false.2 ⟨'-', hdash, by decide⟩
    rw [isBareNumber, hall]
    rfl
  rw [ofText?, String.toList_ofList, Text.strip_of_forall hblank, ofStripped?, hnumber, hread,
    Option.bind_some, hutc]
  simp [hnil]

/-- The text of a moment stands for the moment. -/
theorem ofText?_isoChars (m : Moment) : ofText? (String.ofList m.isoChars) = some m := by
  have hread := Timestamp.ofIso?_written (.naive m) nofun
  rw [← List.append_nil m.isoChars]
  exact ofText?_append (List.forall_mem_nil _) hread (Timestamp.toUtc?_naive m)

/-- The text of a moment with the marker of UTC stands for the moment. -/
theorem ofText?_utc (m : Moment) : ofText? (String.ofList (m.isoChars ++ ['Z'])) = some m := by
  have hzero : Offset.of? 0 = some ⟨0, by decide⟩ := rfl
  have hread := Timestamp.ofIso?_utc m
  have hmarker : Text.isBlank 'Z' = false := by decide
  rw [hzero] at hread
  exact ofText?_append (List.forall_mem_singleton.2 hmarker) hread
    (Timestamp.toUtc?_shifted (Int.add_zero _).symm)

/-- The text of what a clock shows stands for the moment in UTC. -/
theorem ofText?_shifted {wall : Moment} {o : Offset} (ho : o.IsWhole)
    (h : (wall.micros : Int) = m.micros + o.micros) :
    ofText? (String.ofList (Timestamp.isoChars ⟨wall, some o⟩)) = some m := by
  have hwhole : ∀ other ∈ some o, other.IsWhole := by
    rintro other ⟨⟩
    exact ho
  have hread := Timestamp.ofIso?_written ⟨wall, some o⟩ hwhole
  exact ofText?_append (Offset.not_blank ho) hread (Timestamp.toUtc?_shifted h)

end Moment

end ShelfRules
