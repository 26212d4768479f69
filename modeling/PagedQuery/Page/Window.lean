import PagedQuery.Fault

/-!
# Page windows

Page numbers start at 1, and an empty result has one page. A page past the end is valid and empty.
-/

namespace PagedQuery

/-- Number of pages; 1 when everything fits on one. -/
def totalPages (total size : Int) : Except Fault Int :=
  if total < size then .ok 1
  else if size = 0 then .error .zeroDivision
  else .ok (Int.fdiv total size + (if Int.fmod total size = 0 then 0 else 1))

/-- Number of elements before the page. -/
def pageOffset (number size : Int) : Int := (number - 1) * size

/-- Number of elements on the page. -/
def elementsInPage (number size total : Int) : Int :=
  max 0 (min size (total - pageOffset number size))

/-- What is told about a page. -/
structure PageMeta where
  pageNumber : Int
  pageSize : Int
  elementsInPage : Int
  totalPages : Int
  totalElements : Int
  deriving Repr, DecidableEq, Inhabited

/-- One page of a result of known size. -/
structure PageWindow where
  number : Int
  size : Int
  total : Int
  size_pos : 1 ≤ size
  number_pos : 1 ≤ number
  total_nonneg : 0 ≤ total

namespace PageWindow

/-- The window of these numbers, if they make one. -/
def of (number size total : Int) : Except Fault PageWindow :=
  if hs : size < 1 then .error (.pageSizeNotPositive size)
  else if hn : number < 1 then .error (.pageNumberTooSmall number)
  else if ht : total < 0 then .error (.totalNegative total)
  else .ok ⟨number, size, total, by omega, by omega, by omega⟩

def skip (w : PageWindow) : Int := pageOffset w.number w.size

/-- Number of pages of the whole result. -/
def totalPages (w : PageWindow) : Int :=
  if w.total < w.size then 1
  else Int.fdiv w.total w.size + (if Int.fmod w.total w.size = 0 then 0 else 1)

theorem totalPages_eq (w : PageWindow) :
    PagedQuery.totalPages w.total w.size = .ok w.totalPages := by
  have h := w.size_pos
  unfold PagedQuery.totalPages totalPages
  split
  · rfl
  · rw [if_neg (by omega)]

def elementsInPage (w : PageWindow) : Int := PagedQuery.elementsInPage w.number w.size w.total

def isPastEnd (w : PageWindow) : Bool := w.total ≤ w.skip

/-- The metadata of the page, with the number of elements it should hold. -/
def expectedMeta (w : PageWindow) : PageMeta :=
  ⟨w.number, w.size, w.elementsInPage, w.totalPages, w.total⟩

/-- The metadata of the page, with the number of elements it does hold. -/
def actualMeta (w : PageWindow) (count : Int) : PageMeta :=
  ⟨w.number, w.size, count, w.totalPages, w.total⟩

end PageWindow

end PagedQuery
