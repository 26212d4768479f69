import Mathlib.Order.Bounds.Basic
import Mathlib.Tactic
import PagedQuery.Proofs.Paging.Pages

/-!
# The arithmetic of page windows

The number of elements on a page, the number of pages and the end of the result are computed apart,
each with a case of its own for short results. They describe one partition: a window holds as many
elements as its slice, it lies past the end exactly if it holds none, and the windows up to the last
page hold all elements together.
-/

namespace PagedQuery

/-- What the pages up to a number hold: full pages, cut at the end of the result. -/
theorem sum_elementsInPage_range {size total : ℤ} (hs : 1 ≤ size) (ht : 0 ≤ total) (count : ℕ) :
    ((List.range count).map fun i : ℕ => elementsInPage (i + 1) size total).sum =
      min (count * size) total := by
  induction count with
  | zero => simp [ht]
  | succ count ih =>
    have hoffset : pageOffset ((count : ℤ) + 1) size = count * size := by
      rw [pageOffset, add_sub_cancel_right]
    have hnext : ((count + 1 : ℕ) : ℤ) * size = count * size + size := by push_cast; ring
    rw [List.range_succ, List.map_append, List.sum_append, ih, List.map_singleton,
      List.sum_singleton, elementsInPage, hoffset, hnext]
    omega

namespace PageWindow

variable {number size total : ℤ} {w : PageWindow}

theorem of_isOk_iff :
    (∃ w, of number size total = .ok w) ↔ 1 ≤ number ∧ 1 ≤ size ∧ 0 ≤ total := by
  constructor
  · rintro ⟨w, h⟩
    unfold of at h
    split at h
    · cases h
    split at h
    · cases h
    split at h
    · cases h
    · omega
  · rintro ⟨hn, hs, ht⟩
    exact ⟨_, of_eq_ok hs hn ht⟩

theorem eq_of_of_eq_ok (h : of number size total = .ok w) :
    w.number = number ∧ w.size = size ∧ w.total = total := by
  obtain ⟨hn, hs, ht⟩ := of_isOk_iff.mp ⟨w, h⟩
  rw [of_eq_ok hs hn ht] at h
  cases h
  exact ⟨rfl, rfl, rfl⟩

variable (w)

theorem skip_nonneg : 0 ≤ w.skip :=
  Int.mul_nonneg (by linarith [w.number_pos]) (by linarith [w.size_pos])

/-- A window holds as many elements as its slice. -/
theorem length_slice {α : Type} (items : List α) (h : (items.length : ℤ) = w.total) :
    ((slice items w.skip (w.skip + w.size)).length : ℤ) = w.elementsInPage := by
  have hskip := w.skip_nonneg
  have hsize := w.size_pos
  rw [skip, slice_eq_pagePart items w.size_pos w.number_pos, pagePart, List.length_take,
    List.length_drop, elementsInPage, PagedQuery.elementsInPage, ← h]
  unfold skip at hskip
  omega

theorem isPastEnd_iff : w.isPastEnd ↔ w.elementsInPage = 0 := by
  have hsize := w.size_pos
  rw [isPastEnd, decide_eq_true_eq, skip, elementsInPage, PagedQuery.elementsInPage]
  omega

/-- The pages past the last one are past the end, and the last one is not unless it is empty. -/
theorem isPastEnd_iff_totalPages_lt (h : 0 < w.total) : w.isPastEnd ↔ w.totalPages < w.number := by
  rw [isPastEnd, decide_eq_true_eq, skip, pageOffset]
  constructor
  · intro hpast
    by_contra hle
    have hbefore : (w.number - 1) * w.size < w.total := by
      by_cases hone : w.number = 1
      · rw [hone, sub_self, zero_mul]
        exact h
      · exact w.lt_total (by omega) (by linarith [lt_of_le_of_ne w.number_pos (Ne.symm hone)])
    omega
  · intro hlt
    calc w.total ≤ w.totalPages * w.size := w.total_le
      _ ≤ (w.number - 1) * w.size :=
        Int.mul_le_mul_of_nonneg_right (by omega) (by linarith [w.size_pos])

/-- The number of pages is the least one, and at least one, whose pages hold all elements. -/
theorem isLeast_totalPages :
    IsLeast {count : ℤ | 1 ≤ count ∧ w.total ≤ count * w.size} w.totalPages := by
  refine ⟨⟨w.one_le_totalPages, w.total_le⟩, ?_⟩
  rintro count ⟨hone, hholds⟩
  by_contra hlt
  exact absurd (w.lt_total (not_le.mp hlt) hone) (not_lt.mpr hholds)

/-- The windows of all pages. -/
def pages : List PageWindow :=
  (List.range w.totalPages.toNat).map fun i : ℕ =>
    ⟨i + 1, w.size, w.total, w.size_pos, by omega, w.total_nonneg⟩

theorem of_pages : w.pages.map .ok =
    (List.range w.totalPages.toNat).map fun i : ℕ => of (i + 1) w.size w.total := by
  rw [pages, List.map_map]
  exact List.map_congr_left fun i _ => (of_eq_ok w.size_pos (by omega) w.total_nonneg).symm

theorem sum_elementsInPage : (w.pages.map elementsInPage).sum = w.total := by
  have hlast : (w.totalPages.toNat : ℤ) = w.totalPages :=
    Int.toNat_of_nonneg (by linarith [w.one_le_totalPages])
  rw [pages, List.map_map]
  calc _ = min (w.totalPages.toNat * w.size) w.total :=
        sum_elementsInPage_range w.size_pos w.total_nonneg _
    _ = w.total := by rw [hlast, min_eq_right w.total_le]

end PageWindow

/-- A window is made exactly of a page number and a page size from one on and a total from zero on,
and then no division by zero occurs in it. It holds as many elements as its slice of any list of
that length; it is past the end exactly if it holds none, which for a result that is not empty is
so exactly past the last page. The last page is the least one whose pages hold all elements, and
the windows up to it hold them. -/
theorem pageWindow_partition (number size total : ℤ) :
    ((∃ w, PageWindow.of number size total = .ok w) ↔ 1 ≤ number ∧ 1 ≤ size ∧ 0 ≤ total) ∧
    ∀ w, PageWindow.of number size total = .ok w →
      totalPages total size = .ok w.totalPages ∧
      (∀ (α : Type) (items : List α), (items.length : ℤ) = total →
        ((slice items w.skip (w.skip + size)).length : ℤ) = w.elementsInPage) ∧
      (w.isPastEnd ↔ w.elementsInPage = 0) ∧
      (0 < total → (w.isPastEnd ↔ w.totalPages < number)) ∧
      IsLeast {count : ℤ | 1 ≤ count ∧ total ≤ count * size} w.totalPages ∧
      ∃ pages : List PageWindow,
        pages.map .ok =
          ((List.range w.totalPages.toNat).map fun i : ℕ => PageWindow.of (i + 1) size total) ∧
        (pages.map (·.elementsInPage)).sum = total := by
  refine ⟨PageWindow.of_isOk_iff, fun w h => ?_⟩
  obtain ⟨rfl, rfl, rfl⟩ := PageWindow.eq_of_of_eq_ok h
  exact ⟨w.totalPages_eq, fun _ items hitems => w.length_slice items hitems, w.isPastEnd_iff,
    w.isPastEnd_iff_totalPages_lt, w.isLeast_totalPages, w.pages, w.of_pages,
    w.sum_elementsInPage⟩

end PagedQuery
