import Mathlib.Tactic
import PagedQuery.Proofs.Ordering.Kind
import PagedQuery.Proofs.Schema.Instance

/-!
# Undecided comparisons

A comparison in which a decimal number and a not-a-number take part is neither true nor false, and
it is the only one of atomic values that ends so: all others have an answer, or the types of the
values do not compare.
-/

namespace PagedQuery

open PagedQuery.Number PagedQuery.Time

def Number.Decimal.isNotANumber : Decimal → Bool
  | .notANumber .. => true
  | _ => false

/-- A decimal number and a not-a-number meet, and a signalling one if they are compared for
equality. -/
def Undecided (op : Comparison) (a b : Value) : Prop :=
  ∃ m n, a.number? = some m ∧ b.number? = some n ∧ (m.2 ∨ n.2) ∧
    (m.1.isNotANumber ∨ n.1.isNotANumber) ∧
    (op = .equal → Decimal.signals m.1 ∨ Decimal.signals n.1)

theorem Number.Decimal.position?_eq_none_iff {d : Decimal} :
    d.position? = none ↔ d.isNotANumber = true := by
  cases d <;> simp [position?, isNotANumber]

theorem compareDecimals_eq_none_iff {d e : Decimal} :
    compareDecimals d e = none ↔ d.isNotANumber ∨ e.isNotANumber := by
  cases d <;> cases e <;> simp [compareDecimals, Decimal.isNotANumber]

theorem compareNumbers_eq_error_iff {op : Comparison} {m n : Decimal × Bool} {e : CompareError} :
    compareNumbers op m n = .error e ↔ e = .notANumber ∧ (m.2 ∨ n.2) ∧
      (m.1.isNotANumber ∨ n.1.isNotANumber) ∧
      (op = .equal → Decimal.signals m.1 ∨ Decimal.signals n.1) := by
  rw [compareNumbers, ← compareDecimals_eq_none_iff]
  cases compareDecimals m.1 n.1 with
  | some o => simp
  | none =>
    dsimp only
    split
    · next h =>
      simp only [Bool.and_eq_true, Bool.or_eq_true, bne_iff_ne] at h
      simp only [Except.error.injEq, eq_comm (a := CompareError.notANumber)]
      tauto
    · next h =>
      simp only [Bool.and_eq_true, Bool.or_eq_true, bne_iff_ne] at h
      simp only [reduceCtorEq, false_iff]
      tauto

section Atoms

variable {op : Comparison} {a b : Value}

/-- Values that are not both numbers are never undecided. -/
theorem compareAtoms_ne_notANumber (h : a.number? = none ∨ b.number? = none) :
    compareAtoms op a b ≠ .error .notANumber := by
  intro heq
  unfold compareAtoms compareOffsets at heq
  cases ha : a.number? with
  | some m =>
    have hb : b.number? = none := h.resolve_left (by simp [ha])
    simp only [ha, hb] at heq
    split at heq <;> cases heq
  | none =>
    cases hb : b.number? with
    | some n =>
      simp only [ha, hb] at heq
      split at heq <;> cases heq
    | none =>
      simp only [ha, hb] at heq
      repeat' split at heq
      all_goals cases heq

theorem compareAtoms_eq_notANumber_iff :
    compareAtoms op a b = .error .notANumber ↔ Undecided op a b := by
  by_cases h : a.number? = none ∨ b.number? = none
  · refine iff_of_false (compareAtoms_ne_notANumber h) ?_
    rintro ⟨m, n, hm, hn, -⟩
    simp [hm, hn] at h
  · rw [not_or] at h
    obtain ⟨m, hm⟩ := Option.ne_none_iff_exists'.mp h.1
    obtain ⟨n, hn⟩ := Option.ne_none_iff_exists'.mp h.2
    simp only [compareAtoms, hm, hn, compareNumbers_eq_error_iff, Undecided, true_and]
    simp

theorem compare_eq_compareAtoms (ha : a.isAtomic) (b : Value) :
    Value.compare op a b = compareAtoms op a b := by
  cases a with
  | list xs | tuple xs | dict entries => cases ha
  | _ => simp [Value.compare]

/-- Numbers are not affected by what makes moments comparable. -/
theorem align_number (a b : Value) :
    (align a b).1.number? = a.number? ∧ (align a b).2.number? = b.number? := by
  unfold align
  split
  · split <;> exact ⟨rfl, rfl⟩
  · exact ⟨rfl, rfl⟩

theorem isAtomic_align (h : a.isAtomic) (b : Value) : (align a b).1.isAtomic := by
  unfold align
  split
  · split <;> rfl
  · exact h

theorem compare_align_eq_notANumber_iff (ha : a.isAtomic) :
    Value.compare op (align a b).1 (align a b).2 = .error .notANumber ↔ Undecided op a b := by
  rw [compare_eq_compareAtoms (isAtomic_align ha b), compareAtoms_eq_notANumber_iff, Undecided,
    Undecided, (align_number a b).1, (align_number a b).2]

end Atoms

end PagedQuery
