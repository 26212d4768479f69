import PagedQuery.Proofs.Text.Order
import PagedQuery.Table.Cell

/-!
# The order of days and moments

The positions of days are in the order of their years, months and days, and the texts of days have
these from left to right. So days are in the order of their texts, and moments in the order of the
texts that are stored for them, as long as these leave out no distance from universal time.
-/

namespace PagedQuery.Time

open PagedQuery.Text

theorem daysInMonth_le (year month : Nat) : daysInMonth year month ≤ 31 := by
  unfold daysInMonth
  split
  · split <;> decide
  all_goals omega

theorem daysBeforeMonth_succ {month : Nat} (year : Nat) (h : 1 ≤ month) :
    daysBeforeMonth year (month + 1) = daysBeforeMonth year month + daysInMonth year month := by
  obtain ⟨m, rfl⟩ := Nat.exists_eq_add_of_le' h
  simp [daysBeforeMonth, List.range_succ]

theorem daysBeforeMonth_mono {year month month' : Nat} (h : 1 ≤ month) (hle : month ≤ month') :
    daysBeforeMonth year month ≤ daysBeforeMonth year month' := by
  induction month', hle using Nat.le_induction with
  | base => exact le_rfl
  | succ month' hle ih =>
    rw [daysBeforeMonth_succ year (h.trans hle)]
    exact ih.trans (Nat.le_add_right _ _)

theorem daysBeforeMonth_thirteen (year : Nat) :
    daysBeforeMonth year 13 = if isLeap year then 366 else 365 := by
  simp only [daysBeforeMonth, List.range, List.range.loop, List.map, List.foldl, daysInMonth]
  split <;> rfl

theorem isLeap_iff {year : Nat} : isLeap year ↔ 4 ∣ year ∧ (¬ 100 ∣ year ∨ 400 ∣ year) := by
  simp only [isLeap, Bool.and_eq_true, Bool.or_eq_true, decide_eq_true_eq, Nat.dvd_iff_mod_eq_zero,
    ne_eq]

theorem daysBeforeYear_succ {year : Nat} (h : 1 ≤ year) :
    daysBeforeYear (year + 1) = daysBeforeYear year + if isLeap year then 366 else 365 := by
  obtain ⟨y, rfl⟩ := Nat.exists_eq_add_of_le' h
  have hcentury : 100 ∣ y + 1 → 4 ∣ y + 1 := Dvd.dvd.trans (by decide)
  have hera : 400 ∣ y + 1 → 100 ∣ y + 1 := Dvd.dvd.trans (by decide)
  have hle : y / 100 ≤ y * 365 := by omega
  simp only [daysBeforeYear, isLeap_iff, Nat.add_sub_cancel, Nat.succ_div]
  -- What is left does not depend on the quotients.
  generalize y / 4 = quarters, y / 100 = centuries at *
  generalize y / 400 = eras
  by_cases h4 : 4 ∣ y + 1
  · by_cases h100 : 100 ∣ y + 1
    · by_cases h400 : 400 ∣ y + 1
      · simp only [h4, h100, h400, not_true, or_true, and_true, if_true]
        omega
      · simp only [h4, h100, h400, not_true, or_self, and_false, if_true, if_false]
        omega
    · have h400 : ¬ 400 ∣ y + 1 := fun h => h100 (hera h)
      simp only [h4, h100, h400, not_false_iff, or_false, and_true, if_true, if_false]
      omega
  · have h100 : ¬ 100 ∣ y + 1 := fun h => h4 (hcentury h)
    have h400 : ¬ 400 ∣ y + 1 := fun h => h100 (hera h)
    simp only [h4, h100, h400, false_and, if_false]
    omega

theorem daysBeforeYear_mono {year year' : Nat} (h : 1 ≤ year) (hle : year ≤ year') :
    daysBeforeYear year ≤ daysBeforeYear year' := by
  induction year', hle using Nat.le_induction with
  | base => exact le_rfl
  | succ year' hle ih =>
    rw [daysBeforeYear_succ (h.trans hle)]
    exact ih.trans (Nat.le_add_right _ _)

namespace Date

variable {d e : Date}

theorem valid_iff : d.valid ↔ (1 ≤ d.year ∧ d.year ≤ 9999) ∧ (1 ≤ d.month ∧ d.month ≤ 12) ∧
    1 ≤ d.day ∧ d.day ≤ daysInMonth d.year d.month := by
  simp only [valid, Bool.and_eq_true, decide_eq_true_eq, and_assoc]

/-- A day lies before the first day of the next month. -/
theorem ordinal_le_month (h : d.valid) :
    d.ordinal ≤ daysBeforeYear d.year + daysBeforeMonth d.year (d.month + 1) := by
  obtain ⟨-, hmonth, hday⟩ := valid_iff.mp h
  rw [ordinal, daysBeforeMonth_succ d.year hmonth.1]
  omega

/-- A day lies before the first day of the next year. -/
theorem ordinal_le_year (h : d.valid) : d.ordinal ≤ daysBeforeYear (d.year + 1) := by
  obtain ⟨hyear, hmonth, -⟩ := valid_iff.mp h
  calc d.ordinal ≤ daysBeforeYear d.year + daysBeforeMonth d.year (d.month + 1) :=
        ordinal_le_month h
    _ ≤ daysBeforeYear d.year + daysBeforeMonth d.year 13 :=
        Nat.add_le_add_left (daysBeforeMonth_mono (by omega) (by omega)) _
    _ = daysBeforeYear (d.year + 1) := by
        rw [daysBeforeMonth_thirteen, daysBeforeYear_succ hyear.1]

theorem ordinal_lt_of_year_lt (hd : d.valid) (he : e.valid) (h : d.year < e.year) :
    d.ordinal < e.ordinal := by
  have hday : 1 ≤ e.day := (valid_iff.mp he).2.2.1
  calc d.ordinal ≤ daysBeforeYear (d.year + 1) := ordinal_le_year hd
    _ ≤ daysBeforeYear e.year := daysBeforeYear_mono (Nat.le_add_left 1 _) h
    _ < e.ordinal := by rw [ordinal]; omega

theorem ordinal_lt_of_month_lt (hd : d.valid) (he : e.valid) (hy : d.year = e.year)
    (h : d.month < e.month) : d.ordinal < e.ordinal := by
  have hday : 1 ≤ e.day := (valid_iff.mp he).2.2.1
  calc d.ordinal ≤ daysBeforeYear d.year + daysBeforeMonth d.year (d.month + 1) :=
        ordinal_le_month hd
    _ ≤ daysBeforeYear e.year + daysBeforeMonth e.year e.month := by
        rw [hy]
        exact Nat.add_le_add_left (daysBeforeMonth_mono (Nat.le_add_left 1 _) h) _
    _ < e.ordinal := by rw [ordinal]; omega

/-- Days are in the order of their years, then of their months, then of their days. -/
theorem compare_ordinal (hd : d.valid) (he : e.valid) :
    compare d.ordinal e.ordinal =
      (compare d.year e.year).then ((compare d.month e.month).then (compare d.day e.day)) := by
  rcases lt_trichotomy d.year e.year with hy | hy | hy
  · rw [compare_lt_iff_lt.mpr hy, compare_lt_iff_lt.mpr (ordinal_lt_of_year_lt hd he hy)]
    rfl
  · rw [compare_eq_iff_eq.mpr hy]
    rcases lt_trichotomy d.month e.month with hm | hm | hm
    · rw [compare_lt_iff_lt.mpr hm, compare_lt_iff_lt.mpr (ordinal_lt_of_month_lt hd he hy hm)]
      rfl
    · rw [compare_eq_iff_eq.mpr hm, ordinal, ordinal, hy, hm]
      exact compare_congr Nat.add_lt_add_iff_left Nat.add_lt_add_iff_left
    · rw [compare_gt_iff_gt.mpr hm,
        compare_gt_iff_gt.mpr (ordinal_lt_of_month_lt he hd hy.symm hm)]
      rfl
  · rw [compare_gt_iff_gt.mpr hy, compare_gt_iff_gt.mpr (ordinal_lt_of_year_lt he hd hy)]
    rfl

theorem bounds (h : d.valid) : d.year < 10 ^ 4 ∧ d.month < 10 ^ 2 ∧ d.day < 10 ^ 2 := by
  obtain ⟨hyear, hmonth, hday⟩ := valid_iff.mp h
  have hle := daysInMonth_le d.year d.month
  omega

/-- The texts of days, with anything behind them, are in the order of the days. -/
theorem compareText_text_append (hd : d.valid) (he : e.valid) (s t : String) :
    compareText (d.text ++ s) (e.text ++ t) =
      (compare d.ordinal e.ordinal).then (compareText s t) := by
  obtain ⟨hyear, hmonth, hday⟩ := bounds hd
  obtain ⟨hyear', hmonth', hday'⟩ := bounds he
  rw [text, text, compare_ordinal hd he]
  simp only [String.append_assoc]
  rw [compareText_padded_append (by decide) hyear hyear', compareText_append rfl,
    compareText_self, compareText_padded_append (by decide) hmonth hmonth',
    compareText_append rfl, compareText_self, compareText_padded_append (by decide) hday hday']
  simp only [Ordering.then_assoc, Ordering.eq_then]

/-- The texts of days are in the order of the days. -/
theorem compareText_text (hd : d.valid) (he : e.valid) :
    compareText d.text e.text = compare d.ordinal e.ordinal := by
  have h := compareText_text_append hd he "" ""
  rwa [String.append_empty, String.append_empty, compareText_self, Ordering.then_eq] at h

end Date

/-- Hours, minutes, seconds and microseconds are in their ranges. -/
def TimeOfDay.valid (t : TimeOfDay) : Bool :=
  t.hour < 24 && t.minute < 60 && t.second < 60 && t.micro < 1000000

def DateTime.valid (t : DateTime) : Bool := t.date.valid && t.time.valid

/-- Whether a moment is in universal time, if its offset is known. -/
def DateTime.isUniversal (t : DateTime) : Bool := t.time.offset.getD 0 == 0

namespace TimeOfDay

variable {t u : TimeOfDay}

theorem valid_iff : t.valid ↔ t.hour < 24 ∧ t.minute < 60 ∧ t.second < 60 ∧ t.micro < 1000000 := by
  simp only [valid, Bool.and_eq_true, decide_eq_true_eq, and_assoc]

/-- Microseconds since midnight. -/
def micros (t : TimeOfDay) : Nat := ((t.hour * 60 + t.minute) * 60 + t.second) * 1000000 + t.micro

theorem wallMicros_eq (t : TimeOfDay) : t.wallMicros = (t.micros : Int) := by
  simp [wallMicros, micros, microsPerSecond]

theorem micros_lt (h : t.valid) : t.micros < 86400000000 := by
  obtain ⟨hhour, hminute, hsecond, hmicro⟩ := valid_iff.mp h
  unfold micros
  omega

/-- Times of day are in the order of their hours, minutes, seconds and microseconds. -/
theorem compare_micros (ht : t.valid) (hu : u.valid) :
    compare t.micros u.micros =
      (((compare t.hour u.hour).then (compare t.minute u.minute)).then
        (compare t.second u.second)).then (compare t.micro u.micro) := by
  obtain ⟨-, hminute, hsecond, hmicro⟩ := valid_iff.mp ht
  obtain ⟨-, hminute', hsecond', hmicro'⟩ := valid_iff.mp hu
  rw [micros, micros, compare_mul_add hmicro hmicro', compare_mul_add hsecond hsecond',
    compare_mul_add hminute hminute']

end TimeOfDay

namespace DateTime

variable {t u : DateTime}

theorem instant_eq (h : t.isUniversal) :
    t.instant = ((t.date.ordinal * 86400000000 + t.time.micros : Nat) : Int) := by
  have hoffset : t.time.offset.getD 0 = 0 := beq_iff_eq.mp h
  rw [instant, hoffset, wallMicros, TimeOfDay.wallMicros_eq, microsPerDay]
  push_cast
  ring

/-- Moments in universal time are in the order of their days, then of their times of day. -/
theorem compare_instant (ht : t.valid) (hu : u.valid) (ht' : t.isUniversal) (hu' : u.isUniversal) :
    compare t.instant u.instant =
      (compare t.date.ordinal u.date.ordinal).then (compare t.time.micros u.time.micros) := by
  rw [valid, Bool.and_eq_true] at ht hu
  rw [← compare_mul_add (TimeOfDay.micros_lt ht.2) (TimeOfDay.micros_lt hu.2), instant_eq ht',
    instant_eq hu']
  exact compare_congr Int.ofNat_lt Int.ofNat_lt

end DateTime

end PagedQuery.Time

namespace PagedQuery.Cell

open PagedQuery.Text PagedQuery.Time

variable {t u : DateTime}

theorem momentText_eq (t : DateTime) :
    momentText t = t.date.text ++ (" " ++ (padded 2 t.time.hour ++ (":" ++
      (padded 2 t.time.minute ++ (":" ++ (padded 2 t.time.second ++
        ("." ++ padded 6 t.time.micro))))))) := by
  simp [momentText, TimeOfDay.text, String.append_assoc]

/-- The stored texts of moments in universal time are in the order of the moments. -/
theorem compareText_momentText (ht : t.valid) (hu : u.valid) (ht' : t.isUniversal)
    (hu' : u.isUniversal) :
    compareText (momentText t) (momentText u) = compare t.instant u.instant := by
  rw [DateTime.compare_instant ht hu ht' hu']
  rw [DateTime.valid, Bool.and_eq_true] at ht hu
  obtain ⟨hhour, hminute, hsecond, hmicro⟩ := TimeOfDay.valid_iff.mp ht.2
  obtain ⟨hhour', hminute', hsecond', hmicro'⟩ := TimeOfDay.valid_iff.mp hu.2
  rw [TimeOfDay.compare_micros ht.2 hu.2, momentText_eq, momentText_eq,
    Date.compareText_text_append ht.1 hu.1, compareText_append rfl, compareText_self,
    compareText_padded_append (by decide) (by omega) (by omega), compareText_append rfl,
    compareText_self, compareText_padded_append (by decide) (by omega) (by omega),
    compareText_append rfl, compareText_self,
    compareText_padded_append (by decide) (by omega) (by omega), compareText_append rfl,
    compareText_self, compareText_padded (by decide) (by omega) (by omega)]
  simp only [Ordering.then_assoc, Ordering.eq_then]

end PagedQuery.Cell
