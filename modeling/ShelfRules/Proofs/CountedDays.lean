import ShelfRules.Calendar.Moment

/-!
# Days are counted one by one

The number of a day is the number of days up to it, so two days with one number are the same day, and
two moments at one number of microseconds the same moment: the equality of timestamps, which compares
these numbers, is that of the moments. And from its number a day is found again: the guess at its year
is off by one at most, and its month is the last one that starts before the day ends.

Results:
* `daysBeforeYear_succ`, `daysBeforeMonth_succ`: a year starts where the one before it ends, and so does
  a month.
* `Date.ordinal_injective`: a day is known by its number.
* `Date.ofOrdinal?_ordinal`: a day is found by its number.
* `Moment.micros_injective`: a moment is known by its microseconds.
* `Moment.ofMicros?_micros`, `Timestamp.toUtc?_shifted`: a moment is found at its microseconds, and in
  UTC from what a clock shows.
-/

namespace ShelfRules

/-! ## Years and months -/

/-- The length of a year. -/
def daysInYear (year : Nat) : Nat := if isLeap year then 366 else 365

theorem daysBeforeYear_succ (n : Nat) :
    daysBeforeYear (n + 2) = daysBeforeYear (n + 1) + daysInYear (n + 1) := by
  have hleap : isLeap (n + 1) = true ↔ 4 ∣ n + 1 ∧ (¬100 ∣ n + 1 ∨ 400 ∣ n + 1) := by
    simp [isLeap, Nat.dvd_iff_mod_eq_zero]
  have hstep : ∀ d, (n + 1) / d = n / d + if d ∣ n + 1 then 1 else 0 := fun d => Nat.succ_div
  have hle : n / 100 ≤ n / 4 := Nat.div_le_div_left (by decide) (by decide)
  have hfour : 100 ∣ n + 1 → 4 ∣ n + 1 := Nat.dvd_trans (by decide)
  have hhundred : 400 ∣ n + 1 → 100 ∣ n + 1 := Nat.dvd_trans (by decide)
  simp only [daysBeforeYear, daysInYear, Nat.add_succ_sub_one, Nat.add_zero, hstep, hleap]
  -- each of the three quotients grows in the years that its divisor divides
  by_cases h400 : 400 ∣ n + 1
  · simp only [h400, hhundred h400, hfour (hhundred h400), if_true, not_true, false_or, and_true]
    omega
  · by_cases h100 : 100 ∣ n + 1
    · simp only [h400, h100, hfour h100, if_true, if_false, not_true, or_false, and_false]
      omega
    · by_cases h4 : 4 ∣ n + 1
      · simp only [h400, h100, h4, if_true, if_false, not_false_iff, true_or, and_true]
        omega
      · simp only [h400, h100, h4, if_false, false_and]
        omega

theorem daysBeforeMonth_succ (year n : Nat) :
    daysBeforeMonth year (n + 2) = daysBeforeMonth year (n + 1) + daysInMonth year (n + 1) := by
  have hsum : ∀ (ns : List Nat) (last : Nat),
      (ns ++ [last]).foldr (· + ·) 0 = ns.foldr (· + ·) 0 + last := by
    intro ns last
    induction ns with
    | nil => simp
    | cons m ms ih => simp only [List.cons_append, List.foldr_cons, ih, Nat.add_assoc]
  simp only [daysBeforeMonth, Nat.add_succ_sub_one, Nat.add_zero, List.range'_concat,
    List.map_append, List.map_cons, List.map_nil, hsum, Nat.one_mul, Nat.add_comm 1 n]

/-- What starts later starts after the end of what starts earlier. -/
theorem end_le_start {start length : Nat → Nat}
    (hnext : ∀ n, start (n + 2) = start (n + 1) + length (n + 1)) {a b : Nat} (ha : 1 ≤ a)
    (h : a < b) : start a + length a ≤ start b := by
  obtain ⟨k, rfl⟩ := Nat.exists_eq_add_of_le' ha
  induction h with
  | refl => exact Nat.le_of_eq (hnext k).symm
  | @step n hn ih =>
    obtain ⟨m, rfl⟩ := Nat.exists_eq_add_of_le' (Nat.le_trans ha (Nat.le_of_lt hn))
    calc start (k + 1) + length (k + 1) ≤ start (m + 1) := ih
      _ ≤ start (m + 1) + length (m + 1) := Nat.le_add_right _ _
      _ = start (m + 2) := (hnext m).symm

theorem daysBeforeMonth_thirteen (year : Nat) : daysBeforeMonth year 13 = daysInYear year := by
  cases h : isLeap year <;> simp [daysBeforeMonth, daysInYear, daysInMonth, List.range', h]

/-! ## Days -/

namespace Date

variable {a b : Date}

/-- A day lies in its year. -/
theorem le_daysInYear (d : Date) : daysBeforeMonth d.year d.month + d.day ≤ daysInYear d.year := by
  obtain ⟨-, -, hfirst, hlast, -, hday⟩ := d.valid
  have hend := end_le_start (daysBeforeMonth_succ d.year) hfirst (Nat.lt_succ_of_le hlast)
  rw [daysBeforeMonth_thirteen] at hend
  omega

theorem ordinal_lt_of_year_lt (h : a.year < b.year) : a.ordinal < b.ordinal := by
  have hend := end_le_start daysBeforeYear_succ a.valid.1 h
  have hlast := a.le_daysInYear
  have hday := b.valid.2.2.2.2.1
  unfold ordinal
  omega

theorem ordinal_lt_of_month_lt (hyear : a.year = b.year) (h : a.month < b.month) :
    a.ordinal < b.ordinal := by
  obtain ⟨-, -, hfirst, -, -, hlast⟩ := a.valid
  have hend := end_le_start (daysBeforeMonth_succ a.year) hfirst h
  have hday := b.valid.2.2.2.2.1
  unfold ordinal
  rw [← hyear]
  omega

/-- A day is known by its number. -/
theorem ordinal_injective (h : a.ordinal = b.ordinal) : a = b := by
  have hyear : a.year = b.year := by
    rcases Nat.lt_trichotomy a.year b.year with hlt | heq | hgt
    · exact absurd h (Nat.ne_of_lt (ordinal_lt_of_year_lt hlt))
    · exact heq
    · exact absurd h (Nat.ne_of_gt (ordinal_lt_of_year_lt hgt))
  have hmonth : a.month = b.month := by
    rcases Nat.lt_trichotomy a.month b.month with hlt | heq | hgt
    · exact absurd h (Nat.ne_of_lt (ordinal_lt_of_month_lt hyear hlt))
    · exact heq
    · exact absurd h (Nat.ne_of_gt (ordinal_lt_of_month_lt hyear.symm hgt))
  refine ext_parts hyear hmonth ?_
  simpa only [ordinal, hyear, hmonth, Nat.add_left_cancel_iff] using h

/-- The year of a day is found by the number of the day. -/
theorem yearOfOrdinal_eq {n year : Nat} (hyear : 1 ≤ year) (hfirst : daysBeforeYear year < n)
    (hlast : n ≤ daysBeforeYear (year + 1)) : yearOfOrdinal n = year := by
  obtain ⟨k, rfl⟩ := Nat.exists_eq_add_of_le' hyear
  -- 400 years have 146097 days, spread evenly enough for the guess to be off by one year at most
  have hguess : k ≤ (n - 1) * 400 / 146097 + 1 ∧ (n - 1) * 400 / 146097 ≤ k + 1 := by
    simp only [daysBeforeYear, Nat.add_succ_sub_one, Nat.add_zero] at hfirst hlast
    omega
  have hnext : daysBeforeYear (k + 1 + 1) ≤ daysBeforeYear (k + 1 + 1 + 1) :=
    Nat.le.intro (daysBeforeYear_succ (k + 1)).symm
  unfold yearOfOrdinal
  generalize (n - 1) * 400 / 146097 = guess at hguess ⊢
  obtain rfl | rfl | rfl : guess + 1 = k ∨ guess = k ∨ guess = k + 1 := by omega
  · simp only [if_pos hfirst]
  · simp only [Nat.not_lt.2 hlast, hfirst, if_true, if_false]
  · simp only [Nat.not_lt.2 hlast, Nat.not_lt.2 (Nat.le_trans hlast hnext), if_false]
    omega

/-- The month of a day is found by the number of the day in its year. -/
theorem monthOfDay_eq {year month n : Nat} (hmonth : 1 ≤ month) (hle : month ≤ 12)
    (hfirst : daysBeforeMonth year month < n)
    (hlast : n ≤ daysBeforeMonth year month + daysInMonth year month) :
    monthOfDay year n = month := by
  have hstarts : ∀ other ∈ List.range' 1 12,
      decide (daysBeforeMonth year other < n) = decide (other ≤ month) := by
    intro other hother
    have hother : 1 ≤ other := (List.mem_range'_1.1 hother).1
    rw [decide_eq_decide]
    constructor
    · intro hbefore
      refine Nat.le_of_not_lt fun hlater => ?_
      have hend := end_le_start (daysBeforeMonth_succ year) hmonth hlater
      omega
    · intro hearlier
      rcases Nat.eq_or_lt_of_le hearlier with rfl | hlt
      · exact hfirst
      · have hend := end_le_start (daysBeforeMonth_succ year) hother hlt
        omega
  have hcount : ∀ month ≤ 12,
      (List.range' 1 12).countP (fun other => decide (other ≤ month)) = month := by
    decide
  rw [monthOfDay, List.countP_congr fun other hother => by rw [hstarts other hother],
    hcount month hle]

/-- A day is found by its number. -/
theorem ofOrdinal?_ordinal (d : Date) : ofOrdinal? d.ordinal = some d := by
  obtain ⟨hyear, -, hfirst, hlast, hday, hdays⟩ := d.valid
  have hend := d.le_daysInYear
  have hnext : daysBeforeYear (d.year + 1) = daysBeforeYear d.year + daysInYear d.year := by
    obtain ⟨k, hk⟩ := Nat.exists_eq_add_of_le' hyear
    rw [hk, daysBeforeYear_succ]
  have hyearOf : yearOfOrdinal d.ordinal = d.year := by
    refine yearOfOrdinal_eq hyear ?_ ?_
    · unfold ordinal
      omega
    · rw [hnext, ordinal]
      omega
  have hrest : d.ordinal - daysBeforeYear d.year = daysBeforeMonth d.year d.month + d.day := by
    unfold ordinal
    omega
  have hmonthOf : monthOfDay d.year (daysBeforeMonth d.year d.month + d.day) = d.month :=
    monthOfDay_eq hfirst hlast (by omega) (by omega)
  simp only [ofOrdinal?, hyearOf, hrest, hmonthOf, Nat.add_sub_cancel_left, of?_eq_some]

end Date

/-! ## Moments -/

namespace TimeOfDay

theorem micros_lt (t : TimeOfDay) : t.micros < dayMicros := by
  obtain ⟨hhour, hminute, hsecond, hmicro⟩ := t.valid
  unfold micros dayMicros
  omega

theorem micros_injective {a b : TimeOfDay} (h : a.micros = b.micros) : a = b := by
  obtain ⟨hour, minute, second, micro, ha⟩ := a
  obtain ⟨hour', minute', second', micro', hb⟩ := b
  unfold IsTime at ha hb
  simp only [micros] at h
  obtain ⟨rfl, rfl, rfl, rfl⟩ :
      hour = hour' ∧ minute = minute' ∧ second = second' ∧ micro = micro' := by omega
  rfl

theorem ofMicros_micros (t : TimeOfDay) : ofMicros t.micros = t := by
  refine micros_injective ?_
  have hlt := t.micros_lt
  simp only [ofMicros, micros, dayMicros] at hlt ⊢
  omega

end TimeOfDay

/-- A moment is known by its microseconds. -/
theorem Moment.micros_injective {a b : Moment} (h : a.micros = b.micros) : a = b := by
  obtain ⟨date, time⟩ := a
  obtain ⟨date', time'⟩ := b
  have hlt := time.micros_lt
  have hlt' := time'.micros_lt
  simp only [micros, dayMicros] at h hlt hlt'
  obtain rfl : date = date' := Date.ordinal_injective (by omega)
  obtain rfl : time = time' := TimeOfDay.micros_injective (by omega)
  rfl

/-- A moment is found at its microseconds. -/
theorem Moment.ofMicros?_micros (m : Moment) : ofMicros? m.micros = some m := by
  have hlt := m.time.micros_lt
  have hpos : 0 < dayMicros := by decide
  have hday : m.micros / dayMicros = m.date.ordinal := by
    rw [micros, Nat.add_comm, Nat.add_mul_div_right _ _ hpos, Nat.div_eq_of_lt hlt, Nat.zero_add]
  have htime : m.micros % dayMicros = m.time.micros := by
    rw [micros, Nat.mul_add_mod_self_right, Nat.mod_eq_of_lt hlt]
  have hsign : ¬(m.micros : Int) < 0 := by omega
  rw [ofMicros?, if_neg hsign, Int.toNat_natCast, hday, htime, Date.ofOrdinal?_ordinal,
    TimeOfDay.ofMicros_micros]
  rfl

/-- The moment in UTC of a clock that shows a moment with an offset from UTC. -/
theorem Timestamp.toUtc?_shifted {wall m : Moment} {o : Offset}
    (h : (wall.micros : Int) = m.micros + o.micros) : toUtc? ⟨wall, some o⟩ = some m := by
  have hmicros : utcMicros ⟨wall, some o⟩ = m.micros := by
    show (wall.micros : Int) - o.micros = m.micros
    omega
  rw [toUtc?]
  dsimp only
  rw [hmicros, Moment.ofMicros?_micros]

end ShelfRules
