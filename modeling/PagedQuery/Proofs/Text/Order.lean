import Mathlib.Data.String.Basic
import PagedQuery.Proofs.Ordering.Magnitude
import PagedQuery.Value.Order

/-!
# The order of texts of digits

Texts compare at their first unequal characters, so that of texts put together the first parts
settle the order if they are of one length. Numbers padded to one width are such texts, and compare
as the numbers do.
-/

namespace PagedQuery

open PagedQuery.Text

namespace Text

theorem compareText_eq_compareLex (s t : String) :
    compareText s t = List.compareLex compare s.toList t.toList := by
  have hlists : compareText s t = compareOfLessAndEq s.toList t.toList := by
    simp only [compareText, compareOfLessAndEq, String.lt_iff, String.toList_inj]
  rw [hlists]
  generalize s.toList = cs
  generalize t.toList = ds
  induction cs generalizing ds with
  | nil =>
    cases ds with
    | nil => rfl
    | cons d ds => exact if_pos (List.nil_lt_cons d ds)
  | cons c cs ih =>
    cases ds with
    | nil => rfl
    | cons d ds =>
      rw [List.compareLex_cons_cons, ← ih]
      rcases lt_trichotomy c d with h | rfl | h
      · rw [compare_lt_iff_lt.mpr h]
        exact if_pos (List.cons_lt_cons_iff.mpr (.inl h))
      · simp [compareOfLessAndEq]
      · rw [compare_gt_iff_gt.mpr h]
        have hlt : ¬ c :: cs < d :: ds := fun hlt =>
          (List.cons_lt_cons_iff.mp hlt).elim h.asymm fun heq => h.ne' heq.1
        have hne : c :: cs ≠ d :: ds := fun heq => h.ne' (List.cons.inj heq).1
        exact (if_neg hlt).trans (if_neg hne)

theorem compareLex_append {cs ds : List Char} (h : cs.length = ds.length) (cs' ds' : List Char) :
    List.compareLex compare (cs ++ cs') (ds ++ ds') =
      (List.compareLex compare cs ds).then (List.compareLex compare cs' ds') := by
  induction cs generalizing ds with
  | nil =>
    obtain rfl := List.length_eq_zero_iff.mp h.symm
    rfl
  | cons c cs ih =>
    obtain ⟨d, ds, rfl⟩ := List.exists_cons_of_length_eq_add_one h.symm
    rw [List.cons_append, List.cons_append, List.compareLex_cons_cons, List.compareLex_cons_cons,
      ih (Nat.succ.inj h), Ordering.then_assoc]

/-- Of texts put together the first parts settle the order, if they are of one length. -/
theorem compareText_append {a b : String} (h : a.length = b.length) (c d : String) :
    compareText (a ++ c) (b ++ d) = (compareText a b).then (compareText c d) := by
  rw [compareText_eq_compareLex, compareText_eq_compareLex, compareText_eq_compareLex,
    String.toList_append, String.toList_append, compareLex_append]
  rwa [String.length_toList, String.length_toList]

@[simp] theorem compareText_self (s : String) : compareText s s = .eq := by
  simp [compareText, compareOfLessAndEq]

/-- Numbers of two digits to any base, the last ones below it, compare by their digits. -/
theorem compare_mul_add {b q q' r r' : ℕ} (hr : r < b) (hr' : r' < b) :
    compare (q * b + r) (q' * b + r') = (compare q q').then (compare r r') := by
  rcases lt_trichotomy q q' with h | rfl | h
  · rw [compare_lt_iff_lt.mpr h]
    refine compare_lt_iff_lt.mpr ?_
    calc q * b + r < (q + 1) * b := by rw [Nat.succ_mul]; omega
      _ ≤ q' * b := Nat.mul_le_mul_right b h
      _ ≤ q' * b + r' := Nat.le_add_right _ _
  · rw [compare_eq_iff_eq.mpr rfl]
    exact compare_congr Nat.add_lt_add_iff_left Nat.add_lt_add_iff_left
  · rw [compare_gt_iff_gt.mpr h]
    refine compare_gt_iff_gt.mpr ?_
    calc q' * b + r' < (q' + 1) * b := by rw [Nat.succ_mul]; omega
      _ ≤ q * b := Nat.mul_le_mul_right b h
      _ ≤ q * b + r := Nat.le_add_right _ _

/-- The characters of a number padded to a width. -/
def digitChars (width n : Nat) : List Char :=
  List.replicate (width - (Nat.toDigits 10 n).length) '0' ++ Nat.toDigits 10 n

theorem toList_padded (width n : Nat) : (padded width n).toList = digitChars width n :=
  String.toList_ofList

theorem digitChars_one {n : Nat} (h : n < 10) : digitChars 1 n = [n.digitChar] := by
  rw [digitChars, Nat.toDigits_of_lt_base h]
  rfl

/-- The last digit stands behind the others. -/
theorem digitChars_succ {width n : Nat} (hw : width ≠ 0) :
    digitChars (width + 1) n = digitChars width (n / 10) ++ [(n % 10).digitChar] := by
  rw [digitChars, digitChars, Nat.toDigits_eq_if (by decide)]
  split
  · next h =>
    rw [Nat.div_eq_of_lt h, Nat.mod_eq_of_lt h]
    obtain ⟨w, rfl⟩ := Nat.exists_eq_succ_of_ne_zero hw
    simp [Nat.toDigits_of_lt_base (by decide : 0 < 10), Nat.digitChar, List.replicate_succ']
  · rw [List.length_append, List.length_singleton, Nat.add_sub_add_right, List.append_assoc]

theorem compare_digitChar {m n : Nat} (hm : m < 10) (hn : n < 10) :
    compare m.digitChar n.digitChar = compare m n := by
  have hall : ∀ m < 10, ∀ n < 10, compare m.digitChar n.digitChar = compare m n := by decide
  exact hall m hm n hn

theorem length_digitChars {width n : Nat} (hw : width ≠ 0) (h : n < 10 ^ width) :
    (digitChars width n).length = width := by
  have hlen : (Nat.toDigits 10 n).length ≤ width :=
    (Nat.length_toDigits_le_iff (by decide) (Nat.pos_of_ne_zero hw)).mpr h
  simp [digitChars, Nat.sub_add_cancel hlen]

theorem compareLex_digitChars {width m n : Nat} (hw : width ≠ 0) (hm : m < 10 ^ width)
    (hn : n < 10 ^ width) :
    List.compareLex compare (digitChars width m) (digitChars width n) = compare m n := by
  obtain ⟨w, rfl⟩ := Nat.exists_eq_succ_of_ne_zero hw
  clear hw
  induction w generalizing m n with
  | zero =>
    rw [digitChars_one (by simpa using hm), digitChars_one (by simpa using hn),
      List.compareLex_cons_cons, List.compareLex_nil_nil, Ordering.then_eq]
    exact compare_digitChar (by simpa using hm) (by simpa using hn)
  | succ w ih =>
    have hw : w + 1 ≠ 0 := Nat.succ_ne_zero w
    have hm' : m / 10 < 10 ^ (w + 1) := by rw [Nat.succ_eq_add_one, pow_succ] at hm; omega
    have hn' : n / 10 < 10 ^ (w + 1) := by rw [Nat.succ_eq_add_one, pow_succ] at hn; omega
    rw [Nat.succ_eq_add_one, digitChars_succ hw, digitChars_succ hw, compareLex_append
      ((length_digitChars hw hm').trans (length_digitChars hw hn').symm), ih hm' hn',
      List.compareLex_cons_cons, List.compareLex_nil_nil, Ordering.then_eq,
      compare_digitChar (Nat.mod_lt m (by decide)) (Nat.mod_lt n (by decide)),
      ← compare_mul_add (Nat.mod_lt m (by decide)) (Nat.mod_lt n (by decide)), Nat.div_add_mod',
      Nat.div_add_mod']

theorem length_padded {width n : Nat} (hw : width ≠ 0) (h : n < 10 ^ width) :
    (padded width n).length = width := by
  rw [← String.length_toList, toList_padded, length_digitChars hw h]

/-- Numbers padded to one width compare as texts as they do. -/
theorem compareText_padded {width m n : Nat} (hw : width ≠ 0) (hm : m < 10 ^ width)
    (hn : n < 10 ^ width) : compareText (padded width m) (padded width n) = compare m n := by
  rw [compareText_eq_compareLex, toList_padded, toList_padded, compareLex_digitChars hw hm hn]

/-- Two texts that go on after numbers of one width. -/
theorem compareText_padded_append {width m n : Nat} (hw : width ≠ 0) (hm : m < 10 ^ width)
    (hn : n < 10 ^ width) (s t : String) :
    compareText (padded width m ++ s) (padded width n ++ t) =
      (compare m n).then (compareText s t) := by
  rw [compareText_append ((length_padded hw hm).trans (length_padded hw hn).symm),
    compareText_padded hw hm hn]

end Text

end PagedQuery
