import PagedQuery.Page.Slice
import PagedQuery.Page.Window

/-!
# Pages

The elements of one page together with its metadata.
-/

namespace PagedQuery

structure Page (α : Type) where
  info : PageMeta
  elements : List α
  deriving Inhabited

namespace Page

variable {α β : Type}

/-- Whether a later page exists. -/
def hasNext (p : Page α) : Bool := p.info.pageNumber < p.info.totalPages

def map (f : α → β) (p : Page α) : Page β := ⟨p.info, p.elements.map f⟩

/-- A page of an empty result. -/
def empty (number size : Int) : Except Fault (Page α) := do
  let w ← PageWindow.of number size 0
  return ⟨w.expectedMeta, []⟩

/-- The elements of a window with their metadata. -/
def ofWindow (w : PageWindow) (elements : List α) : Page α :=
  ⟨w.actualMeta elements.length, elements⟩

end Page

/-- One page cut out of a list. -/
def paginate {α : Type} (xs : List α) (number size : Int) : Except Fault (Page α) := do
  let w ← PageWindow.of number size xs.length
  return .ofWindow w (slice xs w.skip (w.skip + size))

end PagedQuery
