import Mathlib.Data.String.Basic
import Mathlib.Tactic
import PagedQuery.Plan.Ordering
import PagedQuery.Proofs.Ordering.Magnitude

/-!
# Kinds of values that are ordered

Numbers, texts, days, durations and moments: the values of each kind have positions in a linear
order, by which they compare. The position of a moment is its instant in universal time, whether or
not an offset is known. Only its partner tells whether a moment without an offset is rewritten, but
the instant does not depend on that.
-/

namespace PagedQuery

open PagedQuery.Number PagedQuery.Text PagedQuery.Time

/-- The kinds of values of which any two have an order. -/
inductive Kind
  | number
  | text
  | day
  | span
  | moment
  deriving Repr, DecidableEq

namespace Kind

/-- Where values of a kind lie. -/
def Position : Kind → Type
  | number => WithBot (WithTop ℚ)
  | text => String
  | day => ℕ
  | span => ℤ
  | moment => ℤ

instance (k : Kind) : LinearOrder k.Position :=
  match k with
  | number => inferInstanceAs (LinearOrder (WithBot (WithTop ℚ)))
  | text => inferInstanceAs (LinearOrder String)
  | day => inferInstanceAs (LinearOrder ℕ)
  | span => inferInstanceAs (LinearOrder ℤ)
  | moment => inferInstanceAs (LinearOrder ℤ)

/-- The position of a value, unless it is of another kind. -/
def position? : (k : Kind) → Value → Option k.Position
  | number, v => v.number?.bind fun d => d.1.position?
  | text, v => v.text?
  | day, .date d => some d.ordinal
  | span, .span micros => some micros
  | moment, .dateTime t => some t.instant
  | _, _ => none

/-- A value that is missing or of a kind. -/
def Admits (k : Kind) (v : Value) : Prop := v.isNull ∨ (k.position? v).isSome

instance (k : Kind) (v : Value) : Decidable (k.Admits v) := inferInstanceAs (Decidable (_ ∨ _))

/-- The place of a value among those of a kind and the missing ones, which lie below them. -/
def rank (k : Kind) (v : Value) : WithBot k.Position := k.position? v

variable {k : Kind} {a b : Value}

theorem position?_of_isNull (h : a.isNull) : k.position? a = none := by
  cases a with
  | null => cases k <;> rfl
  | _ => cases h

theorem compare_eq_compareAtoms {p : k.Position} (h : k.position? a = some p) (op : Comparison) :
    Value.compare op a b = compareAtoms op a b := by
  cases a with
  | list xs => cases k <;> cases h
  | tuple xs => cases k <;> cases h
  | dict entries => cases k <;> cases h
  | _ => simp [Value.compare]

theorem number?_of_text? {s : String} (h : a.text? = some s) : a.number? = none := by
  cases a with
  | member e base n v => cases base <;> cases v <;> first | rfl | cases h
  | _ => first | rfl | cases h

theorem align_eq_of_ne_moment {p : k.Position} (hk : k ≠ .moment) (h : k.position? a = some p) :
    align a b = (a, b) := by
  cases a with
  | dateTime t => cases k <;> first | exact (hk rfl).elim | cases h
  | _ => rfl

theorem eq_date {p : Kind.day.Position} (h : Kind.day.position? a = some p) :
    ∃ d : Date, a = .date d ∧ p = d.ordinal := by
  cases a with
  | date d => exact ⟨d, rfl, (Option.some.inj h).symm⟩
  | _ => cases h

theorem eq_span {p : Kind.span.Position} (h : Kind.span.position? a = some p) :
    ∃ n : ℤ, a = .span n ∧ p = n := by
  cases a with
  | span n => exact ⟨n, rfl, (Option.some.inj h).symm⟩
  | _ => cases h

theorem eq_dateTime {p : Kind.moment.Position} (h : Kind.moment.position? a = some p) :
    ∃ t : DateTime, a = .dateTime t ∧ p = t.instant := by
  cases a with
  | dateTime t => exact ⟨t, rfl, (Option.some.inj h).symm⟩
  | _ => cases h

theorem compareAtoms_number {p q : WithBot (WithTop ℚ)}
    (ha : (a.number?.bind fun d => d.1.position?) = some p)
    (hb : (b.number?.bind fun d => d.1.position?) = some q) (op : Comparison) :
    compareAtoms op a b = .ok (op.holds (compare p q)) := by
  obtain ⟨d, hd, hp⟩ := Option.bind_eq_some_iff.mp ha
  obtain ⟨e, he, hq⟩ := Option.bind_eq_some_iff.mp hb
  simp only [compareAtoms, hd, he, compareNumbers, compareDecimals_eq hp hq]

theorem compareAtoms_text {s t : String} (ha : a.text? = some s) (hb : b.text? = some t)
    (op : Comparison) : compareAtoms op a b = .ok (op.holds (compare s t)) := by
  simp only [compareAtoms, number?_of_text? ha, number?_of_text? hb, ha, hb, compareText]
  rw [LinearOrder.compare_eq_compareOfLessAndEq]

/-- Two moments of which both or neither have an offset compare by their instants. -/
theorem compareAtoms_dateTime {t u : DateTime} (h : t.time.offset.isSome = u.time.offset.isSome)
    (op : Comparison) :
    compareAtoms op (.dateTime t) (.dateTime u) =
      .ok (op.holds (Ord.compare t.instant u.instant)) := by
  have hc : compareAtoms op (.dateTime t) (.dateTime u) =
      compareOffsets op "datetimes" t.time.offset u.time.offset
        (Ord.compare t.wallMicros u.wallMicros) (Ord.compare t.instant u.instant) := rfl
  rw [hc]
  cases ht : t.time.offset with
  | none =>
    cases hu : u.time.offset with
    | none => simp [compareOffsets, DateTime.instant, ht, hu]
    | some o' => simp [ht, hu] at h
  | some o =>
    cases hu : u.time.offset with
    | none => simp [ht, hu] at h
    | some o' =>
      have hi : o = o' → compare t.wallMicros u.wallMicros = compare t.instant u.instant := by
        rintro rfl
        simp only [DateTime.instant, ht, hu, Option.getD_some]
        exact compare_congr (sub_lt_sub_iff_right o).symm (sub_lt_sub_iff_right o).symm
      simp only [compareOffsets]
      split
      · next heq => rw [hi heq]
      · rfl

theorem instant_of_offset_none {t : DateTime} (h : t.time.offset = none) :
    DateTime.instant ⟨t.date, { t.time with offset := some 0 }⟩ = t.instant := by
  simp only [DateTime.instant, DateTime.wallMicros, TimeOfDay.wallMicros, h, Option.getD]

/-- Aligning moves no instant, and leaves both moments with an offset or both without one. -/
theorem align_dateTime (t u : DateTime) :
    ∃ t' u', align (.dateTime t) (.dateTime u) = (.dateTime t', .dateTime u') ∧
      t'.instant = t.instant ∧ u'.instant = u.instant ∧
      t'.time.offset.isSome = u'.time.offset.isSome := by
  cases ht : t.time.offset with
  | none =>
    cases hu : u.time.offset with
    | none => exact ⟨t, u, by simp only [align, ht, hu], rfl, rfl, by rw [ht, hu]⟩
    | some o' =>
      refine ⟨⟨t.date, { t.time with offset := some 0 }⟩, u, by simp only [align, ht, hu],
        instant_of_offset_none ht, rfl, by rw [hu]; rfl⟩
  | some o =>
    cases hu : u.time.offset with
    | none =>
      refine ⟨t, ⟨u.date, { u.time with offset := some 0 }⟩, by simp only [align, ht, hu], rfl,
        instant_of_offset_none hu, by rw [ht]; rfl⟩
    | some o' => exact ⟨t, u, by simp only [align, ht, hu], rfl, rfl, by rw [ht, hu]; rfl⟩

/-- Values of a kind compare by their positions, once moments are aligned. -/
theorem compare_align_eq {p q : k.Position} (ha : k.position? a = some p)
    (hb : k.position? b = some q) (op : Comparison) :
    Value.compare op (align a b).1 (align a b).2 = .ok (op.holds (compare p q)) := by
  cases k with
  | number =>
    rw [align_eq_of_ne_moment (by decide) ha, compare_eq_compareAtoms ha]
    exact compareAtoms_number ha hb op
  | text =>
    rw [align_eq_of_ne_moment (by decide) ha, compare_eq_compareAtoms ha]
    exact compareAtoms_text ha hb op
  | day =>
    obtain ⟨d, rfl, rfl⟩ := eq_date ha
    obtain ⟨e, rfl, rfl⟩ := eq_date hb
    rfl
  | span =>
    obtain ⟨m, rfl, rfl⟩ := eq_span ha
    obtain ⟨n, rfl, rfl⟩ := eq_span hb
    rfl
  | moment =>
    obtain ⟨t, rfl, rfl⟩ := eq_dateTime ha
    obtain ⟨u, rfl, rfl⟩ := eq_dateTime hb
    obtain ⟨t', u', halign, ht, hu, hoffset⟩ := align_dateTime t u
    rw [halign, ← ht, ← hu]
    exact compareAtoms_dateTime hoffset op

theorem isNull_eq_false {p : k.Position} (h : k.position? a = some p) : a.isNull = false := by
  by_contra hn
  rw [position?_of_isNull (by simpa using hn)] at h
  cases h

theorem order_of_isNull (h : a.isNull ∨ b.isNull) :
    Value.order a b = .ok (compare (!a.isNull).toNat (!b.isNull).toNat) := by
  unfold Value.order
  rcases h with h | h
  · simp [h]
  · simp [h]

/-- The order of two values of a kind, of which missing ones lie below all others. -/
theorem order_eq (ha : k.Admits a) (hb : k.Admits b) :
    Value.order a b = .ok (compare (k.rank a) (k.rank b)) := by
  unfold rank
  rcases ha with ha | ha
  · rw [order_of_isNull (.inl ha), position?_of_isNull ha, ha]
    rcases hb with hb | hb
    · rw [position?_of_isNull hb, hb]
      exact congrArg Except.ok (compare_eq_iff_eq.mpr rfl).symm
    · obtain ⟨q, hq⟩ := Option.isSome_iff_exists.mp hb
      rw [hq, isNull_eq_false hq]
      exact congrArg Except.ok (compare_lt_iff_lt.mpr (WithBot.bot_lt_coe q)).symm
  · obtain ⟨p, hp⟩ := Option.isSome_iff_exists.mp ha
    rcases hb with hb | hb
    · rw [order_of_isNull (.inr hb), position?_of_isNull hb, hp, hb, isNull_eq_false hp]
      exact congrArg Except.ok (compare_gt_iff_gt.mpr (WithBot.bot_lt_coe p)).symm
    · obtain ⟨q, hq⟩ := Option.isSome_iff_exists.mp hb
      have hcoe : compare (p : WithBot k.Position) (q : WithBot k.Position) = compare p q :=
        compare_congr WithBot.coe_lt_coe WithBot.coe_lt_coe
      unfold Value.order
      simp only [isNull_eq_false hp, isNull_eq_false hq, compare_align_eq hp hq]
      rw [hp, hq]
      refine congrArg Except.ok (Eq.trans ?_ hcoe.symm)
      cases compare p q <;> rfl

end Kind

end PagedQuery
