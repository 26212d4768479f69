import Mathlib.Tactic
import PagedQuery.Page.Basic

/-!
# The pages of a list

The number of pages, the offset of a page and its slice are computed apart. They meet at every page
border: the pages one after the other are the list, all but the last of them are full, and what lies
past the last one is empty.
-/

namespace PagedQuery

/-! ## The number of pages -/

namespace PageWindow

variable (w : PageWindow)

/-- The number of pages, by quotient and remainder. -/
theorem totalPages_cases :
    (w.totalPages = 1 ∧ w.total < w.size) ∨
      ∃ q r, w.total = w.size * q + r ∧ 0 ≤ r ∧ r < w.size ∧ 1 ≤ q ∧
        w.totalPages = q + if r = 0 then 0 else 1 := by
  have hpos : 0 < w.size := w.size_pos
  unfold totalPages
  split
  · next h => exact .inl ⟨rfl, h⟩
  · next h =>
    have hdiv : w.total.fdiv w.size = w.total / w.size := Int.fdiv_eq_ediv_of_nonneg _ hpos.le
    have hmod : w.total.fmod w.size = w.total % w.size := Int.fmod_eq_emod_of_nonneg _ hpos.le
    rw [hdiv, hmod]
    refine .inr ⟨w.total / w.size, w.total % w.size, (Int.mul_ediv_add_emod _ _).symm,
      Int.emod_nonneg _ hpos.ne', Int.emod_lt_of_pos _ hpos, ?_, rfl⟩
    exact (Int.le_ediv_iff_mul_le hpos).mpr (by omega)

theorem one_le_totalPages : 1 ≤ w.totalPages := by
  rcases w.totalPages_cases with ⟨h, -⟩ | ⟨q, r, -, -, -, hq, h⟩
  · exact h.ge
  · rw [h]
    split <;> omega

/-- All elements fit on the pages. -/
theorem total_le : w.total ≤ w.totalPages * w.size := by
  rcases w.totalPages_cases with ⟨h, hlt⟩ | ⟨q, r, htotal, hr, hrs, -, h⟩
  · rw [h]
    omega
  · rw [h, htotal]
    split
    · next hr0 =>
      rw [hr0, add_zero, add_zero, mul_comm]
    · rw [add_mul, mul_comm w.size]
      omega

/-- There is something after every page but the last one. -/
theorem lt_total {n : ℤ} (hn : n < w.totalPages) (h1 : 1 ≤ n) : n * w.size < w.total := by
  have hpos := w.size_pos
  rcases w.totalPages_cases with ⟨h, -⟩ | ⟨q, r, htotal, hr, -, -, h⟩
  · omega
  · rw [h] at hn
    rw [htotal]
    split at hn
    · have hmul : n * w.size ≤ (q - 1) * w.size := Int.mul_le_mul_of_nonneg_right (by omega) (by omega)
      rw [sub_mul, one_mul, mul_comm q] at hmul
      omega
    · have hmul : n * w.size ≤ q * w.size := Int.mul_le_mul_of_nonneg_right (by omega) (by omega)
      rw [mul_comm q] at hmul
      omega

end PageWindow

/-! ## Cutting a list -/

section Cutting

variable {α : Type}

/-- The elements on the page of a number. -/
def pagePart (xs : List α) (size number : ℤ) : List α :=
  (xs.drop (pageOffset number size).toNat).take size.toNat

theorem slice_eq_pagePart (xs : List α) {size number : ℤ} (hs : 1 ≤ size) (hn : 1 ≤ number) :
    slice xs (pageOffset number size) (pageOffset number size + size) =
      pagePart xs size number := by
  have hoffset : 0 ≤ pageOffset number size := Int.mul_nonneg (by omega) (by omega)
  unfold slice pagePart clampIndex
  generalize pageOffset number size = start at *
  rw [if_neg (by omega), if_neg (by omega)]
  obtain ⟨i, rfl⟩ := Int.eq_ofNat_of_zero_le hoffset
  obtain ⟨k, rfl⟩ := Int.eq_ofNat_of_zero_le (by omega : 0 ≤ size)
  rw [← Int.natCast_add, Int.toNat_natCast, Int.toNat_natCast, Int.toNat_natCast]
  dsimp only
  rcases le_total i xs.length with hi | hi
  · rw [Nat.min_eq_left hi, List.take_eq_take_iff]
    simp only [List.length_drop]
    omega
  · rw [Nat.min_eq_right hi, List.drop_length, List.drop_eq_nil_of_le hi, List.take_nil,
      List.take_nil]

/-- The first pages hold the first elements. -/
theorem flatMap_pagePart (xs : List α) {size : ℤ} (hs : 1 ≤ size) (count : ℕ) :
    (List.range count).flatMap (fun i : ℕ => pagePart xs size (i + 1)) =
      xs.take (count * size.toNat) := by
  induction count with
  | zero => simp
  | succ count ih =>
    have hoffset : (pageOffset (count + 1) size).toNat = count * size.toNat := by
      obtain ⟨k, rfl⟩ := Int.eq_ofNat_of_zero_le (by omega : 0 ≤ size)
      rw [pageOffset, add_sub_cancel_right, ← Int.natCast_mul, Int.toNat_natCast,
        Int.toNat_natCast]
    rw [List.range_succ, List.flatMap_append, ih, Nat.succ_mul, List.take_add]
    simp [pagePart, hoffset]

theorem pagePart_length (xs : List α) {size number : ℤ} (hs : 1 ≤ size) (hn : 1 ≤ number)
    (h : number * size ≤ xs.length) : ((pagePart xs size number).length : ℤ) = size := by
  have hoffset : 0 ≤ pageOffset number size := Int.mul_nonneg (by omega) (by omega)
  have hnext : pageOffset number size + size = number * size := by
    rw [pageOffset, sub_mul, one_mul, sub_add_cancel]
  rw [pagePart, List.length_take, List.length_drop]
  omega

theorem pagePart_eq_nil (xs : List α) {size number : ℤ}
    (h : (xs.length : ℤ) ≤ pageOffset number size) : pagePart xs size number = [] := by
  rw [pagePart, List.drop_eq_nil_of_le (by omega), List.take_nil]

/-- A list that is no longer than a page is its first page. -/
theorem pagePart_one (xs : List α) {size : ℤ} (h : (xs.length : ℤ) ≤ size) :
    pagePart xs size 1 = xs := by
  rw [pagePart, pageOffset, sub_self, zero_mul]
  exact List.take_of_length_le (by rw [List.length_drop]; omega)

end Cutting

/-! ## Pages -/

variable {α : Type}

/-- The pages of a list by their numbers, which start at 1. Only a list without elements has an
empty page among them; those past the last one are empty. -/
structure Pages (xs : List α) (size last : ℤ) (page : ℤ → Page α) : Prop where
  one_le : 1 ≤ last
  concat : (List.range last.toNat).flatMap (fun i : ℕ => (page (i + 1)).elements) = xs
  info : ∀ n ≥ 1, (page n).info = ⟨n, size, (page n).elements.length, last, xs.length⟩
  full : ∀ n ≥ 1, n < last → ((page n).elements.length : ℤ) = size
  hasNext_iff : ∀ n ≥ 1, (page n).hasNext ↔ n < last
  nonempty : 1 < last → (page last).elements ≠ []
  past : ∀ n > last, (page n).elements = []

/-- The window of a page of a list. -/
def listWindow (xs : List α) {size number : ℤ} (hs : 1 ≤ size) (hn : 1 ≤ number) : PageWindow :=
  ⟨number, size, xs.length, hs, hn, Int.natCast_nonneg _⟩

theorem PageWindow.of_eq_ok {number size total : ℤ} (hs : 1 ≤ size) (hn : 1 ≤ number)
    (ht : 0 ≤ total) : PageWindow.of number size total = .ok ⟨number, size, total, hs, hn, ht⟩ := by
  rw [PageWindow.of, dif_neg (by omega), dif_neg (by omega), dif_neg (by omega)]

theorem PageWindow.of_eq (xs : List α) {size number : ℤ} (hs : 1 ≤ size) (hn : 1 ≤ number) :
    PageWindow.of number size xs.length = .ok (listWindow xs hs hn) :=
  PageWindow.of_eq_ok hs hn _

theorem paginate_eq (xs : List α) {size number : ℤ} (hs : 1 ≤ size) (hn : 1 ≤ number) :
    paginate xs number size =
      .ok (.ofWindow (listWindow xs hs hn) (pagePart xs size number)) := by
  rw [← slice_eq_pagePart xs hs hn]
  simp only [paginate, PageWindow.of_eq xs hs hn, bind, Except.bind, pure, Except.pure]
  rfl

/-- Every page number gives a page of the list, and together they are its pages. -/
theorem paginate_pages (xs : List α) {size : ℤ} (hs : 1 ≤ size) :
    ∃ last page, (∀ n ≥ 1, paginate xs n size = .ok (page n)) ∧ Pages xs size last page := by
  -- The number of pages does not depend on the page.
  let w := listWindow xs hs (le_refl 1)
  have htotal : (xs.length : ℤ) ≤ w.totalPages * size := w.total_le
  have hlast : (w.totalPages.toNat : ℤ) = w.totalPages :=
    Int.toNat_of_nonneg (by linarith [w.one_le_totalPages])
  refine ⟨w.totalPages, fun n => ⟨⟨n, size, (pagePart xs size n).length, w.totalPages, xs.length⟩,
    pagePart xs size n⟩, fun n hn => paginate_eq xs hs hn, w.one_le_totalPages, ?_,
    fun _ _ => rfl, ?_, ?_, ?_, ?_⟩
  · rw [flatMap_pagePart xs hs]
    apply List.take_of_length_le
    have hmul : ((w.totalPages.toNat * size.toNat : ℕ) : ℤ) = w.totalPages * size := by
      rw [Int.natCast_mul, hlast, Int.toNat_of_nonneg (by omega)]
    omega
  · intro n hn h
    exact pagePart_length xs hs hn (w.lt_total h hn).le
  · intro n hn
    exact decide_eq_true_iff
  · intro h hnil
    have hlt := w.lt_total (sub_one_lt w.totalPages) (by omega)
    rw [pagePart, List.take_eq_nil_iff, List.drop_eq_nil_iff] at hnil
    change pageOffset w.totalPages size < xs.length at hlt
    have hoffset : 0 ≤ pageOffset w.totalPages size := Int.mul_nonneg (by omega) (by omega)
    omega
  · intro n hn
    apply pagePart_eq_nil
    calc (xs.length : ℤ) ≤ w.totalPages * size := htotal
      _ ≤ (n - 1) * size := Int.mul_le_mul_of_nonneg_right (by omega) (by omega)

end PagedQuery
