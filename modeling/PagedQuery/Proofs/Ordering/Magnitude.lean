import Mathlib.Tactic
import PagedQuery.Value.Order

/-!
# The order of numbers

Decimal numbers compare as the rational numbers that they stand for, between the two infinities. The
place of the leading digit, by which most comparisons are settled, bounds a number from both sides.
-/

namespace PagedQuery

open PagedQuery.Number

/-- Pairs of two linear orders that lie alike compare alike. -/
theorem compare_congr {α β : Type} [LinearOrder α] [LinearOrder β] {a b : α} {c d : β}
    (hlt : a < b ↔ c < d) (hgt : b < a ↔ d < c) : compare a b = compare c d := by
  rcases lt_trichotomy a b with h | rfl | h
  · rw [compare_lt_iff_lt.mpr h, compare_lt_iff_lt.mpr (hlt.mp h)]
  · have heq : c = d := le_antisymm (not_lt.mp (hgt.not.mp (lt_irrefl a)))
      (not_lt.mp (hlt.not.mp (lt_irrefl a)))
    rw [compare_eq_iff_eq.mpr rfl, compare_eq_iff_eq.mpr heq]
  · rw [compare_gt_iff_gt.mpr h, compare_gt_iff_gt.mpr (hgt.mp h)]

namespace Number.Scaled

/-- The rational number that is meant. -/
def toRat (s : Scaled) : ℚ := s.value * 10 ^ s.exponent

/-- The absolute value. -/
def magnitude (s : Scaled) : ℚ := s.value.natAbs * 10 ^ s.exponent

/-- The place of the leading digit, counted from the point. -/
def top (s : Scaled) : ℤ := s.exponent + digitCount s.value.natAbs

theorem toRat_of_nonneg {s : Scaled} (h : 0 ≤ s.value) : s.toRat = s.magnitude := by
  have hv : (s.value.natAbs : ℤ) = s.value := Int.natAbs_of_nonneg h
  rw [toRat, magnitude, ← Int.cast_natCast, hv]

theorem toRat_of_neg {s : Scaled} (h : s.value < 0) : s.toRat = -s.magnitude := by
  have hv : (s.value.natAbs : ℤ) = -s.value := Int.ofNat_natAbs_of_nonpos h.le
  rw [toRat, magnitude, ← Int.cast_natCast, hv, Int.cast_neg, neg_mul, neg_neg]

theorem magnitude_nonneg (s : Scaled) : 0 ≤ s.magnitude := by
  unfold magnitude
  positivity

theorem magnitude_pos_iff {s : Scaled} : 0 < s.magnitude ↔ 0 < s.value.natAbs := by
  have hp : (0 : ℚ) < 10 ^ s.exponent := by positivity
  rw [magnitude, mul_pos_iff_of_pos_right hp, Nat.cast_pos]

theorem magnitude_eq_zero {s : Scaled} (h : s.value.natAbs = 0) : s.magnitude = 0 := by
  rw [magnitude, h, Nat.cast_zero, zero_mul]

theorem lt_pow_digitCount (n : ℕ) : n < 10 ^ digitCount n :=
  (Nat.length_toDigits_le_iff (by decide) Nat.length_toDigits_pos).mp (le_refl (digitCount n))

theorem pow_digitCount_le {n : ℕ} (hn : n ≠ 0) : 10 ^ (digitCount n - 1) ≤ n := by
  by_contra h
  have hlt : n < 10 ^ (digitCount n - 1) := not_le.mp h
  by_cases hone : digitCount n - 1 = 0
  · rw [hone] at hlt
    omega
  · have hle : digitCount n ≤ digitCount n - 1 :=
      (Nat.length_toDigits_le_iff (by decide) (by omega)).mpr hlt
    omega

theorem magnitude_lt (s : Scaled) : s.magnitude < 10 ^ s.top := by
  have hlt : (s.value.natAbs : ℚ) < 10 ^ digitCount s.value.natAbs := by
    exact_mod_cast lt_pow_digitCount s.value.natAbs
  rw [top, zpow_add₀ (by norm_num), zpow_natCast, mul_comm, magnitude]
  exact mul_lt_mul_of_pos_right hlt (by positivity)

theorem le_magnitude {s : Scaled} (h : s.value.natAbs ≠ 0) : 10 ^ (s.top - 1) ≤ s.magnitude := by
  have hle : (10 : ℚ) ^ (digitCount s.value.natAbs - 1) ≤ s.value.natAbs := by
    exact_mod_cast pow_digitCount_le h
  have hpos : 1 ≤ digitCount s.value.natAbs := Nat.length_toDigits_pos
  have htop : s.top - 1 = ((digitCount s.value.natAbs - 1 : ℕ) : ℤ) + s.exponent := by
    unfold top
    omega
  rw [htop, zpow_add₀ (by norm_num), zpow_natCast, magnitude]
  exact mul_le_mul_of_nonneg_right hle (by positivity)

/-- A number whose leading digit stands at a lower place is less. -/
theorem magnitude_lt_of_top_lt {a b : Scaled} (hb : b.value.natAbs ≠ 0) (h : a.top < b.top) :
    a.magnitude < b.magnitude :=
  calc a.magnitude < 10 ^ a.top := a.magnitude_lt
    _ ≤ 10 ^ (b.top - 1) := zpow_le_zpow_right₀ (by norm_num) (by omega)
    _ ≤ b.magnitude := le_magnitude hb

theorem compare_mul {p : ℚ} (hp : 0 < p) (m n : ℕ) :
    Ord.compare m n = Ord.compare (m * p) (n * p) := by
  refine compare_congr ?_ ?_
  · rw [mul_lt_mul_iff_left₀ hp, Nat.cast_lt]
  · rw [mul_lt_mul_iff_left₀ hp, Nat.cast_lt]

theorem shift (n : ℕ) {e f : ℤ} (h : e ≤ f) :
    ((n * Nat.pow 10 (f - e).toNat : ℕ) : ℚ) * 10 ^ e = n * 10 ^ f := by
  have hf : f = ((f - e).toNat : ℤ) + e := by omega
  conv_rhs => rw [hf, zpow_add₀ (by norm_num), zpow_natCast]
  rw [Nat.pow_eq]
  push_cast
  ring

theorem compareMagnitude_of_zero {a b : Scaled} (h : a.value.natAbs = 0 ∨ b.value.natAbs = 0) :
    Ord.compare a.value.natAbs b.value.natAbs = Ord.compare a.magnitude b.magnitude := by
  rcases h with h | h
  · rw [magnitude_eq_zero h, h]
    refine compare_congr magnitude_pos_iff.symm ?_
    exact iff_of_false (Nat.not_lt_zero _) (not_lt.mpr b.magnitude_nonneg)
  · rw [magnitude_eq_zero h, h]
    refine compare_congr ?_ magnitude_pos_iff.symm
    exact iff_of_false (Nat.not_lt_zero _) (not_lt.mpr a.magnitude_nonneg)

theorem compare_top {a b : Scaled} (ha : a.value.natAbs ≠ 0) (hb : b.value.natAbs ≠ 0)
    (h : a.top ≠ b.top) : Ord.compare a.top b.top = Ord.compare a.magnitude b.magnitude := by
  rcases lt_or_gt_of_ne h with h | h
  · rw [compare_lt_iff_lt.mpr h, compare_lt_iff_lt.mpr (magnitude_lt_of_top_lt hb h)]
  · rw [compare_gt_iff_gt.mpr h, compare_gt_iff_gt.mpr (magnitude_lt_of_top_lt ha h)]

theorem compareMagnitude_eq (a b : Scaled) :
    compareMagnitude a b = Ord.compare a.magnitude b.magnitude := by
  simp only [compareMagnitude]
  split
  · next h => exact compareMagnitude_of_zero h
  · next h =>
    obtain ⟨ha, hb⟩ := not_or.mp h
    split
    · next htop => exact compare_top ha hb htop
    · split
      · next hexp =>
        rw [compare_mul (p := 10 ^ a.exponent) (by positivity), shift _ hexp]
        rfl
      · next hexp =>
        rw [compare_mul (p := 10 ^ b.exponent) (by positivity), shift _ (not_le.mp hexp).le]
        rfl

theorem toRat_neg {s : Scaled} (h : s.value < 0) : s.toRat < 0 := by
  rw [toRat_of_neg h, neg_lt_zero, magnitude_pos_iff]
  omega

theorem toRat_nonneg {s : Scaled} (h : 0 ≤ s.value) : 0 ≤ s.toRat := by
  rw [toRat_of_nonneg h]
  exact s.magnitude_nonneg

/-- Scaled integers compare as rational numbers. -/
theorem compare_eq (a b : Scaled) : Scaled.compare a b = Ord.compare a.toRat b.toRat := by
  unfold Scaled.compare
  split
  · next ha =>
    split
    · next hb =>
      rw [compareMagnitude_eq, toRat_of_neg ha, toRat_of_neg hb]
      exact compare_congr neg_lt_neg_iff.symm neg_lt_neg_iff.symm
    · next hb =>
      exact (compare_lt_iff_lt.mpr ((toRat_neg ha).trans_le (toRat_nonneg (not_lt.mp hb)))).symm
  · next ha =>
    split
    · next hb =>
      exact (compare_gt_iff_gt.mpr ((toRat_neg hb).trans_le (toRat_nonneg (not_lt.mp ha)))).symm
    · next hb =>
      rw [compareMagnitude_eq, toRat_of_nonneg (not_lt.mp ha), toRat_of_nonneg (not_lt.mp hb)]

end Number.Scaled

namespace Number.Decimal

/-- Where a number lies between the two infinities, unless it is none. -/
def position? : Decimal → Option (WithBot (WithTop ℚ))
  | .finite negative coefficient exponent =>
    some (((scaled negative coefficient exponent).toRat : WithTop ℚ) : WithBot (WithTop ℚ))
  | .infinite negative => some (if negative then ⊥ else ((⊤ : WithTop ℚ) : WithBot (WithTop ℚ)))
  | .notANumber .. => none

theorem position?_ofInt (n : ℤ) :
    (ofInt n).position? = some (((n : ℚ) : WithTop ℚ) : WithBot (WithTop ℚ)) := by
  have hscaled : scaled (n < 0) n.natAbs 0 = ⟨n, 0⟩ := by
    unfold scaled applySign
    congr 1
    split
    · next h =>
      have h : n < 0 := of_decide_eq_true h
      omega
    · next h =>
      have h : ¬ n < 0 := of_decide_eq_false (Bool.eq_false_iff.mpr h)
      omega
  rw [ofInt, position?, hscaled, Scaled.toRat, zpow_zero, mul_one]

end Number.Decimal

/-- Decimal numbers compare by their positions. -/
theorem compareDecimals_eq {d e : Decimal} {p q : WithBot (WithTop ℚ)} (hd : d.position? = some p)
    (he : e.position? = some q) : compareDecimals d e = some (Ord.compare p q) := by
  cases d with
  | notANumber => simp [Decimal.position?] at hd
  | infinite negative =>
    obtain rfl := Option.some.inj hd
    cases e with
    | notANumber => simp [Decimal.position?] at he
    | infinite negative' =>
      obtain rfl := Option.some.inj he
      rw [compareDecimals]
      congr 1
      cases negative <;> cases negative' <;> decide
    | finite negative' c f =>
      obtain rfl := Option.some.inj he
      rw [compareDecimals]
      congr 1
      cases negative with
      | false => exact (compare_gt_iff_gt.mpr (WithBot.coe_lt_coe.mpr (WithTop.coe_lt_top _))).symm
      | true => exact (compare_lt_iff_lt.mpr (WithBot.bot_lt_coe _)).symm
  | finite negative c f =>
    obtain rfl := Option.some.inj hd
    cases e with
    | notANumber => simp [Decimal.position?] at he
    | infinite negative' =>
      obtain rfl := Option.some.inj he
      rw [compareDecimals]
      congr 1
      cases negative' with
      | false => exact (compare_lt_iff_lt.mpr (WithBot.coe_lt_coe.mpr (WithTop.coe_lt_top _))).symm
      | true => exact (compare_gt_iff_gt.mpr (WithBot.bot_lt_coe _)).symm
    | finite negative' c' f' =>
      obtain rfl := Option.some.inj he
      rw [compareDecimals, Scaled.compare_eq]
      congr 1
      refine compare_congr ?_ ?_
      · rw [WithBot.coe_lt_coe, WithTop.coe_lt_coe]
      · rw [WithBot.coe_lt_coe, WithTop.coe_lt_coe]

end PagedQuery
