import Mathlib.Data.Rat.Floor
import Mathlib.Tactic
import PagedQuery.CommandLine.PageSetting
import PagedQuery.Proofs.Ordering.Undecided
import PagedQuery.Proofs.Paging.Parameters

/-!
# Page sizes within their limits

Settings give the default page size and the largest one. Each is checked alone, against a number;
they meet only when a request names no size. What a page window of valid settings is then, and which
faults are left besides refusals of what the request names.
-/

namespace PagedQuery

open PagedQuery.Number

/-! ## Whole parts -/

theorem whole_eq_floor (c : ℕ) (e : ℤ) :
    (((if 0 ≤ e then c * Nat.pow 10 e.toNat
      else if digitCount c ≤ e.natAbs then 0
      else c / Nat.pow 10 e.natAbs : ℕ)) : ℤ) = ⌊(c * 10 ^ e : ℚ)⌋ := by
  by_cases he : 0 ≤ e
  · obtain ⟨k, rfl⟩ := Int.eq_ofNat_of_zero_le he
    rw [if_pos he, Int.toNat_natCast, Nat.pow_eq, zpow_natCast]
    exact_mod_cast (Int.floor_natCast (R := ℚ) (c * 10 ^ k)).symm
  · obtain ⟨k, hk⟩ : ∃ k : ℕ, e = -(k : ℤ) := ⟨e.natAbs, by omega⟩
    have hdiv : (c * 10 ^ e : ℚ) = (c : ℚ) / ((10 ^ k : ℕ) : ℚ) := by
      rw [hk, zpow_neg, zpow_natCast, div_eq_mul_inv, Nat.cast_pow, Nat.cast_ofNat]
    rw [if_neg he, hdiv, Rat.floor_natCast_div_natCast, hk, Int.natAbs_neg, Int.natAbs_natCast,
      Nat.pow_eq, ← Int.natCast_ediv]
    congr 1
    split
    · next hdigits =>
      -- A number of fewer digits than are cut off has no whole part.
      have hlt : c < 10 ^ k :=
        (Scaled.lt_pow_digitCount c).trans_le (Nat.pow_le_pow_right (by norm_num) hdigits)
      exact (Nat.div_eq_of_lt hlt).symm
    · rfl

/-- The whole part of a number that is not negative is its floor. -/
theorem Number.Decimal.truncate_eq_floor {negative : Bool} {c : ℕ} {e : ℤ}
    (h : 0 ≤ (Decimal.scaled negative c e).toRat) :
    Decimal.truncate negative c e = ⌊(Decimal.scaled negative c e).toRat⌋ := by
  cases negative with
  | false => exact whole_eq_floor c e
  | true =>
    have hc : c = 0 := by
      by_contra hc
      refine absurd h (not_le.mpr (Scaled.toRat_neg ?_))
      simp only [scaled, applySign, if_true]
      omega
    simp [Decimal.truncate, Decimal.scaled, Scaled.toRat, applySign, hc]

theorem Number.Decimal.truncate_ofInt (n : ℤ) :
    Decimal.truncate (decide (n < 0)) n.natAbs 0 = n := by
  simp only [Decimal.truncate, applySign, le_refl, if_true, Int.toNat_zero, Nat.pow_eq, pow_zero,
    mul_one, decide_eq_true_eq]
  split <;> omega

/-! ## Numbers and their limits -/

/-- Whether a value is a number that stands for none. -/
def Value.isNotANumber (v : Value) : Bool := v.number?.any (·.1.isNotANumber)

theorem compare_eq_compareNumbers {a b : Value} {m n : Decimal × Bool} (ha : a.number? = some m)
    (hb : b.number? = some n) (op : Comparison) : Value.compare op a b = compareNumbers op m n := by
  have hatomic : a.isAtomic := by cases a <;> first | rfl | cases ha
  rw [compare_eq_compareAtoms hatomic]
  simp only [compareAtoms, ha, hb]

theorem compare_of_position {a b : Value} {m n : Decimal × Bool} {p q : WithBot (WithTop ℚ)}
    (ha : a.number? = some m) (hb : b.number? = some n) (hp : m.1.position? = some p)
    (hq : n.1.position? = some q) (op : Comparison) :
    Value.compare op a b = .ok (op.holds (Ord.compare p q)) := by
  rw [compare_eq_compareNumbers ha hb, compareNumbers, compareDecimals_eq hp hq]

/-- Only numbers are compared with a number. -/
theorem number?_of_isBelow {v : Value} {n : Int} {below : Bool}
    (h : Settings.isBelow v n = .ok below) : ∃ m, v.number? = some m := by
  by_contra hnone
  have hnone : v.number? = none := Option.eq_none_iff_forall_ne_some.mpr (not_exists.mp hnone)
  have hatoms : Value.compare .less v (.int n) = compareAtoms .less v (.int n) := by
    cases v <;> simp [Value.compare]
  have hint : (Value.int n).number? = some (.ofInt n, false) := rfl
  simp only [Settings.isBelow, hatoms, compareAtoms, hnone, hint] at h
  cases h

section Bounds

theorem holds_less {α : Type} [LinearOrder α] {a b : α} :
    Comparison.less.holds (Ord.compare a b) = true ↔ a < b := by
  rw [Comparison.holds, beq_iff_eq, compare_lt_iff_lt]

theorem holds_greater {α : Type} [LinearOrder α] {a b : α} :
    Comparison.greater.holds (Ord.compare a b) = true ↔ b < a := by
  rw [Comparison.holds, beq_iff_eq, compare_gt_iff_gt]

variable {v : Value} {m : Decimal × Bool} {n : Int} {below : Bool}

theorem isBelow_of_position {p : WithBot (WithTop ℚ)} (hm : v.number? = some m)
    (hp : m.1.position? = some p) :
    Settings.isBelow v n = .ok (Comparison.less.holds
      (Ord.compare p (((n : ℚ) : WithTop ℚ) : WithBot (WithTop ℚ)))) := by
  rw [Settings.isBelow, compare_of_position hm rfl hp (Decimal.position?_ofInt n)]

/-- A not-a-number satisfies no comparison. -/
theorem compareNumbers_ne_true {op : Comparison} {a b : Decimal × Bool}
    (h : a.1.isNotANumber = true ∨ b.1.isNotANumber = true) :
    compareNumbers op a b ≠ .ok true := by
  rw [compareNumbers, compareDecimals_eq_none_iff.mpr h]
  dsimp only
  split <;> simp

/-- A limit that can be compared with a number has all integers on one of its sides. -/
theorem exists_compare_greater (h : Settings.isBelow v n = .ok below) (k : Int) :
    ∃ b, Value.compare .greater (.int k) v = .ok b := by
  obtain ⟨d, hd⟩ := number?_of_isBelow h
  rw [Settings.isBelow, compare_eq_compareNumbers hd rfl] at h
  rw [compare_eq_compareNumbers rfl hd]
  cases hgreater : compareNumbers .greater (.ofInt k, false) d with
  | ok b => exact ⟨b, rfl⟩
  | error e =>
    obtain ⟨-, hdecimal, hnan, -⟩ := compareNumbers_eq_error_iff.mp hgreater
    have hless : compareNumbers .less d (.ofInt n, false) = .error .notANumber :=
      compareNumbers_eq_error_iff.mpr ⟨rfl, hdecimal.symm, hnan.symm, nofun⟩
    rw [hless] at h
    cases h

/-- A limit is exceeded by the integers that are greater than it, whether or not it is a whole
number. -/
theorem exceeds_iff (h : Settings.isBelow v 0 = .ok false) (k : Int) :
    (∃ limit, SizeLimit.ofValue? v = some limit ∧ limit.size < k) ↔
      v.isTruthy = true ∧ Value.compare .greater (.int k) v = .ok true := by
  obtain ⟨⟨d, decimal⟩, hd⟩ := number?_of_isBelow h
  unfold SizeLimit.ofValue?
  by_cases ht : v.isTruthy = true
  · simp only [ht, if_true, hd, true_and]
    cases d with
    | finite negative c e =>
      rw [isBelow_of_position hd rfl, Except.ok.injEq, Bool.eq_false_iff, Ne, holds_less, not_lt,
        WithBot.coe_le_coe, WithTop.coe_le_coe, Int.cast_zero] at h
      rw [compare_of_position rfl hd (Decimal.position?_ofInt k) rfl, Except.ok.injEq,
        holds_greater, WithBot.coe_lt_coe, WithTop.coe_lt_coe, ← Int.floor_lt,
        ← Decimal.truncate_eq_floor h]
      simp
    | infinite negative =>
      refine iff_of_false (by simp) ?_
      rw [compare_of_position rfl hd (Decimal.position?_ofInt k) rfl, Except.ok.injEq,
        holds_greater, not_lt]
      cases negative with
      | false => exact WithBot.coe_le_coe.mpr le_top
      | true =>
        rw [isBelow_of_position hd rfl, Except.ok.injEq, Bool.eq_false_iff, Ne, holds_less] at h
        exact absurd (WithBot.bot_lt_coe _) h
    | notANumber negative signaling payload =>
      refine iff_of_false (by simp) ?_
      rw [compare_eq_compareNumbers rfl hd]
      exact compareNumbers_ne_true (.inr rfl)
  · simp [ht]

end Bounds

/-! ## Page windows of settings -/

namespace Settings

variable (settings : Settings)

/-- The page size that a request asks for: the default one if it names none. -/
def requestedSize (size : Value) : Except Fault Value :=
  if size.isAbsent then .ok (settings .defaultPageSize)
  else (pageInteger .size size).map .int

/-- The page sizes that are neither too small nor too large. -/
structure AllowsSize (s : Value) : Prop where
  positive : Value.compare .less s (.int 1) = .ok false
  limited : (settings .maxPageSize).isTruthy = true →
    Value.compare .greater s (settings .maxPageSize) = .ok false

/-- How the default page size and the largest one do not go together. -/
inductive DefaultFault : Fault → Prop
  | undecided {c : CompareError} : (settings .maxPageSize).isTruthy = true →
      Value.compare .greater (settings .defaultPageSize) (settings .maxPageSize) = .error c →
      DefaultFault (.incomparable c)
  | refused : (settings .maxPageSize).isTruthy = true →
      Value.compare .greater (settings .defaultPageSize) (settings .maxPageSize) = .ok true →
      (settings .defaultPageSize).unwritable? = none → (settings .maxPageSize).unwritable? = none →
      DefaultFault (.pageSizeTooLarge (settings .defaultPageSize).toText
        (settings .maxPageSize).toText)
  | unwritable {e : Fault} : (settings .maxPageSize).isTruthy = true →
      Value.compare .greater (settings .defaultPageSize) (settings .maxPageSize) = .ok true →
      (settings .defaultPageSize).unwritable?.or (settings .maxPageSize).unwritable? = some e →
      DefaultFault e

/-- What a page window fails with besides refusals of what is asked for. -/
inductive WindowFault (size number : Value) : Fault → Prop
  | size {e : Fault} : ReadingFault size e → WindowFault size number e
  | number {e : Fault} {s : Value} : settings.requestedSize size = .ok s →
      ReadingFault number e → WindowFault size number e
  | longSize {s n : Int} : size.isAbsent = false → settings.requestedSize size = .ok (.int s) →
      pageValue .number defaultPageNumber number = .ok n → isLong s = true →
      ¬ settings.AllowsSize (.int s) → WindowFault size number .longInteger
  | longNumber {s : Value} {n : Int} : settings.requestedSize size = .ok s →
      pageValue .number defaultPageNumber number = .ok n → settings.AllowsSize s →
      isLong n = true → n < 1 → WindowFault size number .longInteger
  | default {n : Int} {e : Fault} : size.isAbsent = true →
      pageValue .number defaultPageNumber number = .ok n → settings.DefaultFault e →
      WindowFault size number e

variable {settings} {strict : Bool}

theorem isBelow_of_validate (h : settings.validate = .ok ()) :
    isBelow (settings .defaultPageSize) 1 = .ok false ∧
      isBelow (settings .maxPageSize) 0 = .ok false := by
  unfold validate at h
  cases hd : isBelow (settings .defaultPageSize) 1 with
  | error e =>
    rw [hd] at h
    cases h
  | ok below =>
    cases below with
    | true =>
      rw [hd] at h
      cases hw : (settings .defaultPageSize).written <;> rw [hw] at h <;> cases h
    | false =>
      cases hm : isBelow (settings .maxPageSize) 0 with
      | error e =>
        rw [hd, hm] at h
        cases h
      | ok below =>
        cases below with
        | true =>
          rw [hd, hm] at h
          cases hw : (settings .maxPageSize).written <;> rw [hw] at h <;> cases h
        | false => exact ⟨rfl, rfl⟩

theorem allowsSize_ofInt (h : settings.validate = .ok ()) (k : Int) :
    settings.AllowsSize (.int k) ↔ (settings.policy strict).AllowsSize k := by
  obtain ⟨-, hmax⟩ := isBelow_of_validate h
  have hlimited : ((settings .maxPageSize).isTruthy = true →
      Value.compare .greater (.int k) (settings .maxPageSize) = .ok false) ↔
      ∀ limit, (settings.policy strict).limit = some limit → k ≤ limit.size := by
    obtain ⟨b, hb⟩ := exists_compare_greater hmax k
    have hexceeds := exceeds_iff hmax k
    rw [hb] at hexceeds ⊢
    constructor
    · intro hfits limit hlimit
      by_contra hgt
      obtain ⟨ht, hb⟩ := hexceeds.mp ⟨limit, hlimit, not_le.mp hgt⟩
      rw [hfits ht] at hb
      cases hb
    · intro hfits ht
      cases b with
      | false => rfl
      | true =>
        obtain ⟨limit, hlimit, hgt⟩ := hexceeds.mpr ⟨ht, rfl⟩
        exact absurd (hfits limit hlimit) (not_le.mpr hgt)
  have hpositive : Value.compare .less (.int k) (.int 1) = .ok false ↔ 1 ≤ k := by
    rw [compare_of_position rfl rfl (Decimal.position?_ofInt k) (Decimal.position?_ofInt 1),
      Except.ok.injEq, Bool.eq_false_iff, Ne, holds_less, not_lt, WithBot.coe_le_coe,
      WithTop.coe_le_coe, Int.cast_le]
  constructor
  · rintro ⟨hp, hl⟩
    exact ⟨hpositive.mp hp, hlimited.mp hl⟩
  · rintro ⟨hp, hl⟩
    exact ⟨hpositive.mpr hp, hlimited.mpr hl⟩

/-! ### The default size -/

theorem checkDefaultSize_eq_error {e : Fault} (h : settings.checkDefaultSize = .error e) :
    settings.DefaultFault e := by
  unfold checkDefaultSize at h
  dsimp only at h
  split at h
  · cases h
  · next ht =>
    simp only [Bool.not_eq_true', Bool.not_eq_false] at ht
    split at h
    · next c hc =>
      cases h
      exact .undecided ht hc
    · next hc =>
      unfold Value.written at h
      cases hdefault : (settings .defaultPageSize).unwritable? with
      | some fault =>
        rw [hdefault] at h
        cases h
        exact .unwritable ht hc (by rw [hdefault]; rfl)
      | none =>
        rw [hdefault] at h
        cases hmax : (settings .maxPageSize).unwritable? with
        | some fault =>
          rw [hmax] at h
          cases h
          exact .unwritable ht hc (by rw [hdefault, hmax]; rfl)
        | none =>
          rw [hmax] at h
          cases h
          exact .refused ht hc hdefault hmax
    · cases h

theorem DefaultFault.checkDefaultSize {e : Fault} (h : settings.DefaultFault e) :
    settings.checkDefaultSize = .error e := by
  unfold Settings.checkDefaultSize
  cases h with
  | undecided ht hc => simp only [ht, hc, Bool.not_true, Bool.false_eq_true, if_false]
  | refused ht hc hdefault hmax =>
    simp only [ht, hc, Bool.not_true, Bool.false_eq_true, if_false, Value.written, hdefault, hmax]
    rfl
  | unwritable ht hc he =>
    simp only [ht, hc, Bool.not_true, Bool.false_eq_true, if_false, Value.written]
    cases hdefault : (settings .defaultPageSize).unwritable? with
    | some fault =>
      rw [hdefault, Option.some_or, Option.some.injEq] at he
      rw [he]
      rfl
    | none =>
      rw [hdefault, Option.none_or] at he
      rw [he]
      rfl

theorem allowsSize_default (h : settings.validate = .ok ())
    (hdefault : settings.checkDefaultSize = .ok ()) :
    settings.AllowsSize (settings .defaultPageSize) := by
  obtain ⟨hbelow, -⟩ := isBelow_of_validate h
  constructor
  · unfold isBelow at hbelow
    split at hbelow
    · next hc =>
      cases hbelow
      exact hc
    · cases hbelow
  · intro ht
    unfold checkDefaultSize at hdefault
    simp only [ht, Bool.not_true, Bool.false_eq_true, if_false] at hdefault
    split at hdefault
    · cases hdefault
    · next hc =>
      exfalso
      unfold Value.written at hdefault
      split at hdefault
      · cases hdefault
      · split at hdefault <;> cases hdefault
    · assumption

/-- A limit that has no text is an integer of too many digits. -/
theorem unwritable?_of_number? {v : Value} {m : Decimal × Bool} {e : Fault}
    (hm : v.number? = some m) (h : v.unwritable? = some e) :
    e = .longInteger ∧ ∃ n, m.1 = .ofInt n ∧ isLong n = true := by
  have hint : ∀ n, (if isLong n = true then some Fault.longInteger else none) = some e →
      m.1 = .ofInt n → e = .longInteger ∧ ∃ n, m.1 = .ofInt n ∧ isLong n = true := by
    intro n hn hmn
    split at hn
    · next hlong => exact ⟨(Option.some.inj hn).symm, n, hmn, hlong⟩
    · cases hn
  cases v with
  | bool | float | decimal => cases h
  | int n =>
    simp only [Value.unwritable?, Value.unquotable?, Value.unshown?, Value.showsLong] at h
    exact hint n h (congrArg Prod.fst (Option.some.inj hm)).symm
  | member _ base _ inner =>
    cases base with
    | integer =>
      cases inner with
      | int n => exact hint n h (congrArg Prod.fst (Option.some.inj hm)).symm
      | _ => cases hm
    | float => cases inner <;> cases h
    | _ => cases hm
  | _ => cases hm

theorem isLong_of_lt {m n : Int} (hm : 0 ≤ m) (h : m < n) (hlong : isLong m = true) :
    isLong n = true :=
  decide_eq_true ((of_decide_eq_true hlong).trans (by omega))

/-- A limit that has no text is below integers of too many digits only. -/
theorem isLong_of_exceeds {v : Value} {d : Int} {e : Fault} (h : isBelow v 0 = .ok false)
    (hd : Value.compare .greater (.int d) v = .ok true) (he : v.unwritable? = some e) :
    isLong d = true ∧ e = .longInteger := by
  obtain ⟨m, hm⟩ := number?_of_isBelow h
  obtain ⟨rfl, n, hn, hlong⟩ := unwritable?_of_number? hm he
  have hposition : m.1.position? = some (((n : ℚ) : WithTop ℚ) : WithBot (WithTop ℚ)) := by
    rw [hn, Decimal.position?_ofInt]
  rw [isBelow_of_position hm hposition, Except.ok.injEq, Bool.eq_false_iff, Ne, holds_less, not_lt,
    WithBot.coe_le_coe, WithTop.coe_le_coe, Int.cast_le] at h
  rw [compare_of_position rfl hm (Decimal.position?_ofInt d) hposition, Except.ok.injEq,
    holds_greater, WithBot.coe_lt_coe, WithTop.coe_lt_coe, Int.cast_lt] at hd
  exact ⟨isLong_of_lt h hd hlong, rfl⟩

theorem shown_of_ofValue? {v : Value} {limit : SizeLimit} (h : SizeLimit.ofValue? v = some limit) :
    limit.shown = v.toText := by
  unfold SizeLimit.ofValue? at h
  split at h
  · split at h
    · cases h
      rfl
    · cases h
  · cases h

theorem isLong_of_unwritable?_int {d : Int} {e : Fault} (h : (Value.int d).unwritable? = some e) :
    isLong d = true ∧ e = .longInteger := by
  rw [Value.unwritable?_int, Option.ite_none_right_eq_some, Option.some.injEq] at h
  exact ⟨h.1, h.2.symm⟩

/-- If an integer or the limit below it has no text, the integer has none. -/
theorem isLong_of_unwritable? {v : Value} {d : Int} {e : Fault} (h : isBelow v 0 = .ok false)
    (hd : Value.compare .greater (.int d) v = .ok true)
    (he : (Value.int d).unwritable?.or v.unwritable? = some e) :
    isLong d = true ∧ e = .longInteger := by
  obtain he | ⟨-, he⟩ := Option.or_eq_some_iff.mp he
  · exact isLong_of_unwritable?_int he
  · exact isLong_of_exceeds h hd he

/-- A limit below an integer that has a text has one, too. -/
theorem unwritable?_eq_none_of_exceeds {v : Value} {d : Int} (h : isBelow v 0 = .ok false)
    (hd : Value.compare .greater (.int d) v = .ok true) (hshort : isLong d = false) :
    v.unwritable? = none := by
  by_contra hsome
  obtain ⟨e, he⟩ := Option.ne_none_iff_exists'.mp hsome
  rw [(isLong_of_exceeds h hd he).1] at hshort
  cases hshort

theorem one_le_of_default (h : settings.validate = .ok ()) {d : Int}
    (hd : settings .defaultPageSize = .int d) : 1 ≤ d := by
  have hbelow := (isBelow_of_validate h).1
  rw [hd, isBelow_of_position rfl (Decimal.position?_ofInt d), Except.ok.injEq, Bool.eq_false_iff,
    Ne, holds_less, not_lt, WithBot.coe_le_coe, WithTop.coe_le_coe, Int.cast_le] at hbelow
  exact hbelow

theorem DefaultFault.refusesSize (hfault : settings.DefaultFault e)
    (h : settings.validate = .ok ()) {d : Int} (hd : settings .defaultPageSize = .int d) :
    ∃ fault, (settings.policy strict).RefusesSize d fault ∧ e = .telling d fault := by
  have hmax := (isBelow_of_validate h).2
  have hpositive := one_le_of_default h hd
  cases hfault with
  | undecided ht hc =>
    obtain ⟨b, hb⟩ := exists_compare_greater hmax d
    rw [hd, hb] at hc
    cases hc
  | refused ht hc hdefault _ =>
    rw [hd] at hc hdefault ⊢
    obtain ⟨limit, hlimit, hlt⟩ := (exceeds_iff hmax d).mpr ⟨ht, hc⟩
    refine ⟨_, .large hpositive hlimit hlt, ?_⟩
    rw [Fault.telling, Value.unwritable?_int_eq_none_iff.mp hdefault, shown_of_ofValue? hlimit]
    rfl
  | unwritable ht hc he =>
    rw [hd] at hc he
    obtain ⟨limit, hlimit, hlt⟩ := (exceeds_iff hmax d).mpr ⟨ht, hc⟩
    obtain ⟨hlong, rfl⟩ := isLong_of_unwritable? hmax hc he
    refine ⟨_, .large hpositive hlimit hlt, ?_⟩
    rw [Fault.telling, if_pos hlong]

theorem defaultFault_of_refusesSize (h : settings.validate = .ok ()) {d : Int} {fault : Fault}
    (hd : settings .defaultPageSize = .int d)
    (hrefuses : (settings.policy strict).RefusesSize d fault) :
    settings.DefaultFault (.telling d fault) := by
  have hmax := (isBelow_of_validate h).2
  have hpositive := one_le_of_default h hd
  cases hrefuses with
  | small hsmall => omega
  | @large limit _ hlimit hlt =>
    obtain ⟨ht, hc⟩ := (exceeds_iff hmax d).mp ⟨limit, hlimit, hlt⟩
    obtain ⟨hlong, htold⟩ | ⟨hshort, htold⟩ :=
      telling_cases d (.pageSizeTooLarge (toString d) limit.shown)
    · rw [htold]
      refine .unwritable ht (hd ▸ hc) ?_
      rw [hd, Value.unwritable?_int, if_pos hlong, Option.some_or]
    · rw [htold, shown_of_ofValue? hlimit]
      have hrefused := DefaultFault.refused ht (hd ▸ hc)
        (hd ▸ Value.unwritable?_int_eq_none_iff.mpr hshort)
        (unwritable?_eq_none_of_exceeds hmax hc hshort)
      rw [hd] at hrefused
      exact hrefused

/-- An integer default above the largest size is told like a size that a request names. -/
theorem defaultFault_ofInt (h : settings.validate = .ok ()) {d : Int} {e : Fault}
    (hd : settings .defaultPageSize = .int d) :
    settings.DefaultFault e ↔
      ∃ fault, (settings.policy strict).RefusesSize d fault ∧ e = .telling d fault := by
  constructor
  · exact fun hfault => hfault.refusesSize h hd
  · rintro ⟨fault, hrefuses, he⟩
    rw [he]
    exact defaultFault_of_refusesSize h hd hrefuses

/-! ### The window -/

theorem wholeDefaultSize_ofInt {d : Int} (hd : settings .defaultPageSize = .int d) :
    settings.wholeDefaultSize = d := by
  rw [wholeDefaultSize, hd]
  exact Decimal.truncate_ofInt d

/-- The page size that a request asks for is an integer, if it is any. -/
def AsksWhole (settings : Settings) (size : Value) : Prop :=
  size.isAbsent = true → ∃ d, settings .defaultPageSize = .int d

variable {size number : Value} {e : Fault}

/-- The policy of settings reads the size that is asked for. -/
theorem requestedSize_of_policy (strict : Bool) (h : settings.AsksWhole size) :
    settings.requestedSize size =
      (pageValue .size (settings.policy strict).defaultSize size).map .int := by
  unfold requestedSize pageValue
  cases habsent : size.isAbsent with
  | false => rfl
  | true =>
    obtain ⟨d, hd⟩ := h habsent
    simp only [if_true, policy, wholeDefaultSize_ofInt hd, hd]
    rfl

theorem requestedSize_eq_ok (h : settings.AsksWhole size) {s : Int}
    (hs : pageValue .size (settings.policy strict).defaultSize size = .ok s) :
    settings.requestedSize size = .ok (.int s) := by
  rw [requestedSize_of_policy strict h, hs]
  rfl

theorem windowFault_of_policy (hvalid : settings.validate = .ok ()) (h : settings.AsksWhole size)
    (he : (settings.policy strict).WindowFault size number e) :
    settings.WindowFault size number e := by
  cases he with
  | size he => exact .size he
  | number hs he => exact .number (requestedSize_eq_ok h hs) he
  | @longSize s n hs hn hlong hsize =>
    cases habsent : size.isAbsent with
    | false =>
      refine .longSize habsent (requestedSize_eq_ok h hs) hn hlong ?_
      rwa [allowsSize_ofInt hvalid]
    | true =>
      obtain ⟨d, hd⟩ := h habsent
      obtain rfl : d = s := by
        simp only [pageValue, habsent, if_true, policy, wholeDefaultSize_ofInt hd] at hs
        exact Except.ok.inj hs
      obtain ⟨fault, hrefuses⟩ := RequestPolicy.exists_refusesSize hsize
      refine .default habsent hn ((defaultFault_ofInt hvalid hd).mpr ⟨fault, hrefuses, ?_⟩)
      rw [Fault.telling, if_pos hlong]
  | longNumber hs hn hsize hlong hnumber =>
    exact .longNumber (requestedSize_eq_ok h hs) hn ((allowsSize_ofInt hvalid _).mpr hsize) hlong
      hnumber

theorem pageWindow_of_policy (h : settings.AsksWhole size) :
    settings.pageWindow size number =
      ((settings.policy false).pageWindow size number).map fun (s, n) => (.int s, n) := by
  unfold Settings.pageWindow
  cases habsent : size.isAbsent with
  | false => rfl
  | true =>
    obtain ⟨d, hd⟩ := h habsent
    simp only [if_true, unusualSize?, hd]

theorem pageWindow_of_unusual (habsent : size.isAbsent = true)
    (hd : ∀ d, settings .defaultPageSize ≠ .int d) :
    settings.pageWindow size number = do
      let n ← pageValue .number defaultPageNumber number
      settings.checkDefaultSize
      if n < 1 then throw (.telling n (.pageNumberTooSmall n))
      return (settings .defaultPageSize, n) := by
  have hunusual : settings.unusualSize? = some (settings .defaultPageSize) := by
    unfold unusualSize?
    split
    · next d heq => exact absurd heq (hd d)
    · rfl
  simp only [Settings.pageWindow, habsent, if_true, hunusual]

theorem exists_of_requestedSize (h : settings.AsksWhole size) {s : Value}
    (hs : settings.requestedSize size = .ok s) :
    ∃ k, pageValue .size (settings.policy strict).defaultSize size = .ok k ∧ s = .int k := by
  rw [requestedSize_of_policy strict h] at hs
  cases hk : pageValue .size (settings.policy strict).defaultSize size with
  | error e =>
    rw [hk] at hs
    cases hs
  | ok k =>
    rw [hk] at hs
    exact ⟨k, rfl, (Except.ok.inj hs).symm⟩

theorem policy_pageWindow (hvalid : settings.validate = .ok ()) (hwhole : settings.AsksWhole size)
    (h : settings.WindowFault size number e) :
    (settings.policy strict).pageWindow size number = .error e := by
  cases h with
  | size h => exact RequestPolicy.pageWindow_of_size_error (h.pageValue .size _)
  | number hs h =>
    obtain ⟨k, hk, -⟩ := exists_of_requestedSize hwhole hs
    exact RequestPolicy.pageWindow_of_number_error hk (h.pageValue .number _)
  | longSize _ hs hn hlong hsize =>
    obtain ⟨k, hk, heq⟩ := exists_of_requestedSize hwhole hs
    cases heq
    rw [allowsSize_ofInt hvalid] at hsize
    obtain ⟨fault, hrefuses⟩ := RequestPolicy.exists_refusesSize hsize
    rw [hrefuses.pageWindow hk hn, Fault.telling, if_pos hlong]
  | longNumber hs hn hsize hlong hnumber =>
    obtain ⟨k, hk, rfl⟩ := exists_of_requestedSize hwhole hs
    rw [allowsSize_ofInt hvalid] at hsize
    rw [RequestPolicy.pageWindow_of_number hk hn hsize hnumber, Fault.telling, if_pos hlong]
  | default habsent hn h =>
    obtain ⟨d, hd⟩ := hwhole habsent
    obtain ⟨fault, hrefuses, he⟩ := (defaultFault_ofInt hvalid hd).mp h
    have hs : pageValue .size (settings.policy strict).defaultSize size = .ok d := by
      simp only [pageValue, habsent, if_true, policy, wholeDefaultSize_ofInt hd]
    rw [hrefuses.pageWindow hs hn, he]

theorem checkDefaultSize_eq_ok (h : settings.AllowsSize (settings .defaultPageSize)) :
    settings.checkDefaultSize = .ok () := by
  unfold checkDefaultSize
  by_cases ht : (settings .maxPageSize).isTruthy = true
  · simp only [ht, Bool.not_true, Bool.false_eq_true, if_false, h.limited ht]
  · simp [ht]

/-- Each fault does occur. -/
theorem WindowFault.pageWindow (hvalid : settings.validate = .ok ())
    (h : settings.WindowFault size number e) : settings.pageWindow size number = .error e := by
  by_cases hwhole : settings.AsksWhole size
  · rw [pageWindow_of_policy hwhole, policy_pageWindow hvalid hwhole h]
    rfl
  · obtain ⟨habsent, hd⟩ := Classical.not_imp.mp hwhole
    rw [pageWindow_of_unusual habsent (not_exists.mp hd)]
    cases h with
    | size h =>
      have herror := h.pageValue .size 1
      simp [pageValue, habsent] at herror
    | number _ h => rw [h.pageValue]; rfl
    | longSize hgiven => rw [habsent] at hgiven; cases hgiven
    | longNumber hs hn hsize hlong hnumber =>
      simp only [requestedSize, habsent, if_true, Except.ok.injEq] at hs
      subst hs
      rw [hn, checkDefaultSize_eq_ok hsize]
      simp only [bind, Except.bind, if_pos hnumber, Fault.telling, if_pos hlong]
      rfl
    | default _ hn h => rw [hn, h.checkDefaultSize]; rfl

/-- A page window that is what is asked for, if it is allowed; else it fails with one of its faults
or is refused for a parameter that is given. -/
def Decides (settings : Settings) (size number : Value) : Prop :=
  (∃ s n, settings.requestedSize size = .ok s ∧
    pageValue .number defaultPageNumber number = .ok n ∧ settings.AllowsSize s ∧ 1 ≤ n ∧
    settings.pageWindow size number = .ok (s, n)) ∨
  (∃ e, settings.pageWindow size number = .error e ∧
    (settings.WindowFault size number e ∨ e.RefusesPage size number))

/-- If the size that is asked for is an integer, the policy of the settings decides. -/
theorem decides_of_asksWhole (hvalid : settings.validate = .ok ())
    (hwhole : settings.AsksWhole size) (number : Value) : settings.Decides size number := by
  rw [Decides, pageWindow_of_policy hwhole]
  obtain ⟨s, n, hs, hn, hsize, hnumber, heq⟩ | ⟨e, heq, hcases⟩ :=
    (settings.policy false).pageWindow_cases size number
  · rw [heq]
    exact .inl ⟨.int s, n, requestedSize_eq_ok hwhole hs, hn,
      (allowsSize_ofInt hvalid s).mpr hsize, hnumber, rfl⟩
  · rw [heq]
    refine .inr ⟨e, rfl, ?_⟩
    obtain hfault | hrefuses | ⟨habsent, ⟨n, hn⟩, hshort, hrefuses⟩ := hcases
    · exact .inl (windowFault_of_policy hvalid hwhole hfault)
    · exact .inr hrefuses
    · obtain ⟨d, hd⟩ := hwhole habsent
      have hdefault : (settings.policy false).defaultSize = d := wholeDefaultSize_ofInt hd
      rw [hdefault] at hrefuses hshort
      refine .inl (.default habsent hn ((defaultFault_ofInt hvalid hd).mpr ⟨e, hrefuses, ?_⟩))
      rw [Fault.telling, if_neg (Bool.eq_false_iff.mp hshort)]

/-- Otherwise the default size is checked as it stands in the settings. -/
theorem decides_of_unusual (hvalid : settings.validate = .ok ()) (habsent : size.isAbsent = true)
    (hd : ∀ d, settings .defaultPageSize ≠ .int d) (number : Value) :
    settings.Decides size number := by
  have hs : settings.requestedSize size = .ok (settings .defaultPageSize) := by
    rw [requestedSize, habsent]
    rfl
  rw [Decides, pageWindow_of_unusual habsent hd]
  cases hn : pageValue .number defaultPageNumber number with
  | error e =>
    refine .inr ⟨e, rfl, ?_⟩
    obtain ⟨hgiven, rfl | hfault⟩ := readingFault_of_pageValue hn
    · exact .inr ⟨rfl, .inr ⟨rfl, hgiven⟩⟩
    · exact .inl (.number hs hfault)
  | ok n =>
    cases hdefault : settings.checkDefaultSize with
    | error e =>
      exact .inr ⟨e, rfl, .inl (.default habsent hn (checkDefaultSize_eq_error hdefault))⟩
    | ok _ =>
      have hsize := allowsSize_default hvalid hdefault
      by_cases hnumber : n < 1
      · refine .inr ⟨.telling n (.pageNumberTooSmall n), ?_, ?_⟩
        · simp only [bind, Except.bind, if_pos hnumber]
          rfl
        · obtain ⟨hlong, htold⟩ | ⟨-, htold⟩ := telling_cases n (.pageNumberTooSmall n)
          · rw [htold]
            exact .inl (.longNumber hs hn hsize hlong hnumber)
          · rw [htold]
            exact .inr (refusesPage_of_number hn hnumber size)
      · refine .inl ⟨settings .defaultPageSize, n, hs, rfl, hsize, by omega, ?_⟩
        simp only [bind, Except.bind, if_neg hnumber]
        rfl

theorem pageWindow_cases (hvalid : settings.validate = .ok ()) (size number : Value) :
    settings.Decides size number := by
  by_cases hwhole : settings.AsksWhole size
  · exact decides_of_asksWhole hvalid hwhole number
  · obtain ⟨habsent, hd⟩ := Classical.not_imp.mp hwhole
    exact decides_of_unusual hvalid habsent (not_exists.mp hd) number

/-- No fault refuses what is asked for. -/
theorem WindowFault.not_refusesPage (h : settings.WindowFault size number e) :
    ¬ e.RefusesPage size number := by
  rintro ⟨hkind, hparameter⟩
  cases h with
  | size h => exact h.kind_ne.1 hkind
  | number _ h => exact h.kind_ne.1 hkind
  | longSize => cases hkind
  | longNumber => cases hkind
  | default habsent _ h =>
    cases h with
    | @undecided c => cases c <;> cases hkind
    | refused =>
      obtain ⟨-, hgiven⟩ | ⟨hnumber, -⟩ := hparameter
      · rw [habsent] at hgiven
        cases hgiven
      · have hname : PageParameter.size.name = PageParameter.number.name := Option.some.inj hnumber
        exact absurd hname (by decide)
    | unwritable _ _ he =>
      obtain he | ⟨-, he⟩ := Option.or_eq_some_iff.mp he
      · obtain ⟨type, field, rfl⟩ | rfl := fault_of_unwritable? he <;> cases hkind
      · obtain ⟨type, field, rfl⟩ | rfl := fault_of_unwritable? he <;> cases hkind

/-! ### What an allowed size is -/

/-- The page sizes that are at least one and at most the largest size, if there is one. A
not-a-number is neither below nor above any number. -/
structure WithinLimits (settings : Settings) (s : Value) : Prop where
  positive : s.isNotANumber = false → Value.compare .greaterOrEqual s (.int 1) = .ok true
  limited : s.isNotANumber = false → (settings .maxPageSize).isTruthy = true →
    (settings .maxPageSize).isNotANumber = false →
      Value.compare .lessOrEqual s (settings .maxPageSize) = .ok true

theorem exists_position {v : Value} {m : Decimal × Bool} (hm : v.number? = some m)
    (h : v.isNotANumber = false) : ∃ p, m.1.position? = some p := by
  rw [Value.isNotANumber, hm, Option.any_some, ← Bool.not_eq_true,
    ← Decimal.position?_eq_none_iff] at h
  exact Option.ne_none_iff_exists'.mp h

/-- Of two numbers one of two opposite comparisons holds. -/
theorem compare_of_opposite {a b : Value} {m n : Decimal × Bool} {op op' : Comparison}
    (hop : ∀ o, op.holds o = false → op'.holds o = true) (hm : a.number? = some m)
    (hn : b.number? = some n) (ha : a.isNotANumber = false) (hb : b.isNotANumber = false)
    (h : Value.compare op a b = .ok false) : Value.compare op' a b = .ok true := by
  obtain ⟨p, hp⟩ := exists_position hm ha
  obtain ⟨q, hq⟩ := exists_position hn hb
  rw [compare_of_position hm hn hp hq, Except.ok.injEq] at h ⊢
  exact hop _ h

theorem AllowsSize.withinLimits {s : Value} (hvalid : settings.validate = .ok ())
    (h : settings.AllowsSize s) : settings.WithinLimits s := by
  have hbelow : isBelow s 1 = .ok false := by rw [isBelow, h.positive]
  obtain ⟨m, hm⟩ := number?_of_isBelow hbelow
  obtain ⟨n, hn⟩ := number?_of_isBelow (isBelow_of_validate hvalid).2
  refine ⟨fun hs => ?_, fun hs ht hmax => ?_⟩
  · exact compare_of_opposite (by decide) hm rfl hs rfl h.positive
  · exact compare_of_opposite (by decide) hm hn hs hmax (h.limited ht)

/-- A page window of valid settings is what the request asks for, within its limits. If there is
none, a parameter that is given is refused, or one of the faults occurs that refuse none: an
infinite number, a value that no message can tell of, or a default size above the largest one. -/
theorem pageWindow_allows_or_refuses {settings : Settings} (h : settings.validate = .ok ())
    (size number : Value) :
    (∀ s n, settings.pageWindow size number = .ok (s, n) →
      settings.requestedSize size = .ok s ∧ pageValue .number defaultPageNumber number = .ok n ∧
        settings.WithinLimits s ∧ 1 ≤ n) ∧
    (∀ e, settings.pageWindow size number = .error e →
      e.RefusesPage size number ∨ settings.WindowFault size number e) ∧
    (∀ e, settings.WindowFault size number e →
      settings.pageWindow size number = .error e ∧ ¬ e.RefusesPage size number) := by
  refine ⟨fun s n heq => ?_, fun e heq => ?_, fun e hfault => ?_⟩
  · obtain ⟨s', n', hs, hn, hsize, hnumber, hok⟩ | ⟨e, herror, -⟩ := pageWindow_cases h size number
    · rw [hok] at heq
      cases heq
      exact ⟨hs, hn, hsize.withinLimits h, hnumber⟩
    · rw [herror] at heq
      cases heq
  · obtain ⟨s', n', -, -, -, -, hok⟩ | ⟨e', herror, hcases⟩ := pageWindow_cases h size number
    · rw [hok] at heq
      cases heq
    · rw [herror] at heq
      cases heq
      exact hcases.symm
  · exact ⟨hfault.pageWindow h, hfault.not_refusesPage⟩

theorem isBelow_ofInt (k n : Int) : isBelow (.int k) n = .ok (decide (k < n)) := by
  rw [isBelow_of_position rfl (Decimal.position?_ofInt k), Except.ok.injEq, Bool.eq_iff_iff,
    holds_less, WithBot.coe_lt_coe, WithTop.coe_lt_coe, Int.cast_lt, decide_eq_true_eq]

theorem validate_initial : initial.validate = .ok () := by
  have hd : isBelow (initial .defaultPageSize) 1 = .ok false := isBelow_ofInt 10 1
  have hm : isBelow (initial .maxPageSize) 0 = .ok false := isBelow_ofInt 0 0
  rw [validate, hd, hm]
  rfl

/-- A request for pages of five elements is met by the settings that nothing has changed. -/
theorem pageWindow_initial :
    initial.validate = .ok () ∧ initial.pageWindow (.int 5) .null = .ok (.int 5, 1) ∧
      initial.WithinLimits (.int 5) :=
  ⟨validate_initial, rfl,
    ((pageWindow_allows_or_refuses validate_initial (.int 5) .null).1 _ _ rfl).2.2.1⟩

/-- An infinite page size is not refused, and a default above the largest size refuses a request
that names no size. -/
theorem pageWindow_escapes :
    initial.validate = .ok () ∧
      initial.pageWindow (.decimal (.infinite false)) .null = .error (.pageInfinite true) ∧
      (Fault.pageInfinite true).kind = .overflow ∧
      (initial.set .maxPageSize (.int 1)).validate = .ok () ∧
      (initial.set .maxPageSize (.int 1)).pageWindow .null .null =
        .error (.pageSizeTooLarge "10" "1") := by
  have hvalid : (initial.set .maxPageSize (.int 1)).validate = .ok () := by
    have hd : isBelow (initial.set .maxPageSize (.int 1) .defaultPageSize) 1 = .ok false :=
      isBelow_ofInt 10 1
    have hm : isBelow (initial.set .maxPageSize (.int 1) .maxPageSize) 0 = .ok false :=
      isBelow_ofInt 1 0
    rw [validate, hd, hm]
    rfl
  refine ⟨validate_initial, rfl, rfl, hvalid, ?_⟩
  have hshort : isLong 10 = false ∧ isLong 1 = false := by decide +kernel
  have hgreater : Value.compare .greater (.int 10) (.int 1) = .ok true := by
    rw [compare_of_position rfl rfl (Decimal.position?_ofInt 10) (Decimal.position?_ofInt 1),
      Except.ok.injEq, holds_greater, WithBot.coe_lt_coe, WithTop.coe_lt_coe]
    norm_num
  have hten : (Value.int 10).unwritable? = none := by
    rw [Value.unwritable?_int, if_neg (Bool.eq_false_iff.mp hshort.1)]
  have hone : (Value.int 1).unwritable? = none := by
    rw [Value.unwritable?_int, if_neg (Bool.eq_false_iff.mp hshort.2)]
  exact WindowFault.pageWindow hvalid (.default rfl rfl (.refused rfl hgreater hten hone))

end Settings

end PagedQuery
