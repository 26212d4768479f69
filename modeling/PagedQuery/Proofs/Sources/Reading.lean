import PagedQuery.Proofs.Ordering.Cell
import PagedQuery.Proofs.Related
import PagedQuery.Proofs.Sources.Rows
import PagedQuery.Proofs.Sources.Steps

/-!
# What sources in tables read

A statement that tracks filters and sorts finds the joined rows that meet the filters, in the order
of the sorts. Both depend on the routes only, so that two such statements count the same, and fetch
the same where no two of the rows tie.
-/

namespace PagedQuery

/-- A filter with the cell that rows are compared with. -/
def BoundFilter.operand (b : BoundFilter) : Except Fault (BoundFilter × Cell) :=
  (Cell.ofValue b.value).map (b, ·)

namespace RouteRows

/-- The cell at the end of a path. -/
def cell (rows : RouteRows) (p : FieldPath) : Cell :=
  match rows p.relations with
  | some (_, row) => row.cell p.column
  | none => .null

/-- The row that the routes start from. -/
def root? (rows : RouteRows) : Option Row := (rows []).map (·.2)

def meets (tests : List (BoundFilter × Cell)) (rows : RouteRows) : Bool :=
  tests.all fun (b, expected) =>
    Criterion.meets b.clause.operator (rows.cell b.path) expected == some true

/-- The order of the first sort that tells two of them apart. -/
def order : List BoundSort → RouteRows → RouteRows → Ordering
  | [], _, _ => .eq
  | b :: bs, x, y =>
    let o := Cell.order (x.cell b.path) (y.cell b.path)
    (if b.isDescending then o.swap else o).then (order bs x y)

/-- Whether the first may stand before the second. -/
def le (sorts : List BoundSort) (x y : RouteRows) : Bool := (order sorts x y).isLE

instance (sorts : List BoundSort) : Std.TransCmp (order sorts) := by
  induction sorts with
  | nil => exact { eq_swap := rfl, isLE_trans := fun _ _ => rfl }
  | cons b bs ih =>
    have hcell : Std.TransCmp fun x y : RouteRows =>
        Cell.order (x.cell b.path) (y.cell b.path) :=
      { eq_swap := Std.OrientedCmp.eq_swap
        isLE_trans := Std.TransCmp.isLE_trans }
    cases hb : b.isDescending with
    | false =>
      have ho : order (b :: bs) = compareLex
          (fun x y : RouteRows => Cell.order (x.cell b.path) (y.cell b.path)) (order bs) := by
        funext x y
        simp [order, hb, compareLex]
      rw [ho]
      infer_instance
    | true =>
      have ho : order (b :: bs) = compareLex
          (fun x y : RouteRows => Cell.order (y.cell b.path) (x.cell b.path)) (order bs) := by
        funext x y
        have hswap : (Cell.order (x.cell b.path) (y.cell b.path)).swap =
            Cell.order (y.cell b.path) (x.cell b.path) := Std.OrientedCmp.eq_swap.symm
        simp [order, hb, compareLex, hswap]
      have hswapped : Std.TransCmp fun x y : RouteRows =>
          Cell.order (y.cell b.path) (x.cell b.path) :=
        { eq_swap := Std.OrientedCmp.eq_swap
          isLE_trans := fun h h' => Std.TransCmp.isLE_trans h' h }
      rw [ho]
      infer_instance

theorem le_trans {sorts : List BoundSort} (x y z : RouteRows) (hxy : le sorts x y)
    (hyz : le sorts y z) : le sorts x z := Std.TransCmp.isLE_trans hxy hyz

theorem le_total {sorts : List BoundSort} (x y : RouteRows) : le sorts x y || le sorts y x := by
  have hswap : order sorts x y = (order sorts y x).swap := Std.OrientedCmp.eq_swap
  rw [le, le, hswap]
  cases order sorts y x <;> rfl

/-- Where no two of them tie, there is one way to put rows in order. -/
theorem mergeSort_eq_of_perm {sorts : List BoundSort} {xs ys : List RouteRows} (hperm : xs.Perm ys)
    (hties : ys.Pairwise fun x y => order sorts x y ≠ .eq) :
    xs.mergeSort (le sorts) = ys.mergeSort (le sorts) := by
  have hsymm : Std.Symm fun x y => order sorts x y ≠ .eq :=
    ⟨fun _ _ h heq => h (Std.OrientedCmp.eq_symm heq)⟩
  refine List.Perm.eq_of_pairwise (fun x y hx hy hxy hyx => ?_)
    (List.pairwise_mergeSort le_trans le_total xs) (List.pairwise_mergeSort le_trans le_total ys)
    ((List.mergeSort_perm xs _).trans (hperm.trans (List.mergeSort_perm ys _).symm))
  by_contra hne
  refine hties.forall (hperm.mem_iff.mp (List.mem_mergeSort.mp hx)) (List.mem_mergeSort.mp hy)
    hne ?_
  exact Std.OrientedCmp.isLE_antisymm hxy hyx

end RouteRows

namespace JoinTable

variable {js : JoinTable}

theorem cell_columnOf {p : FieldPath} (hp : (js.slot? p.relations).isSome) (joined : JoinedRow) :
    joined.cell (js.columnOf p) = (js.byRoute joined).cell p := by
  obtain ⟨slot, hslot⟩ := Option.isSome_iff_exists.mp hp
  rw [JoinedRow.cell, RouteRows.cell, byRoute, hslot, columnOf, slotOf_eq hslot]
  rfl

theorem order_map_termOf {sorts : List BoundSort}
    (hs : ∀ b ∈ sorts, (js.slot? b.path.relations).isSome) (x y : JoinedRow) :
    Statement.order (sorts.map js.termOf) x y =
      RouteRows.order sorts (js.byRoute x) (js.byRoute y) := by
  induction sorts with
  | nil => rfl
  | cons b bs ih =>
    have hb := hs b List.mem_cons_self
    have ih := ih fun c hc => hs c (List.mem_cons_of_mem b hc)
    rw [List.map_cons, Statement.order, RouteRows.order, ih, termOf, cell_columnOf hb,
      cell_columnOf hb]

/-- The criterion of a filter with the cell that rows are compared with. -/
def testOf (js : JoinTable) (test : BoundFilter × Cell) : Criterion × Cell :=
  (js.criterionOf test.1, test.2)

theorem selects_map_testOf {tests : List (BoundFilter × Cell)}
    (ht : ∀ test ∈ tests, (js.slot? test.1.path.relations).isSome) (joined : JoinedRow) :
    Statement.selects (tests.map js.testOf) joined = RouteRows.meets tests (js.byRoute joined) := by
  rw [Statement.selects, RouteRows.meets, List.all_map, Bool.eq_iff_iff, List.all_eq_true,
    List.all_eq_true]
  refine forall₂_congr fun test htest => ?_
  change (Criterion.meets _ (joined.cell (js.columnOf test.1.path)) _ == _) = true ↔ _
  rw [cell_columnOf (ht test htest)]
  rfl

theorem mapM_operand (filters : List BoundFilter) :
    (filters.map js.criterionOf).mapM Criterion.operand =
      (filters.mapM BoundFilter.operand).map (List.map js.testOf) := by
  induction filters with
  | nil => rfl
  | cons b bs ih =>
    rw [List.map_cons, List.mapM_cons, List.mapM_cons, ih]
    have hb : Criterion.operand (js.criterionOf b) =
        (Cell.ofValue b.value).map (js.criterionOf b, ·) := rfl
    rw [hb, BoundFilter.operand]
    cases Cell.ofValue b.value with
    | error e => rfl
    | ok cell => cases bs.mapM BoundFilter.operand <;> rfl

end JoinTable

namespace BoundFilter

theorem filters_of_mapM_operand {filters : List BoundFilter} {tests : List (BoundFilter × Cell)}
    (h : filters.mapM operand = .ok tests) : tests.map (·.1) = filters := by
  induction filters generalizing tests with
  | nil => cases h; rfl
  | cons b bs ih =>
    obtain ⟨test, rest, hb, hbs, rfl⟩ := mapM_cons_eq_ok_iff.mp h
    obtain ⟨cell, -, rfl⟩ := exists_of_map_eq_ok hb
    rw [List.map_cons, ih hbs]

end BoundFilter

namespace Database

/-- The rows that meet filters, by routes. -/
def meeting (db : Database) (t : Table) (js : JoinTable) (filters : List BoundFilter) :
    Except Fault (List RouteRows) :=
  (filters.mapM BoundFilter.operand).map fun tests =>
    (db.rowsByRoute t js).filter (RouteRows.meets tests)

end Database

namespace StoredSource

open JoinTable

variable {s s' : StoredSource} {filters : List BoundFilter} {sorts : List BoundSort}

/-- The selected rows, by routes. -/
def found (s : StoredSource) : Except Fault (List RouteRows) :=
  s.selected.map (List.map s.joinTable.byRoute)

theorem map_window {α β : Type} (f : α → β) (xs : List α) (offset limit : Int) :
    (window xs offset limit).map f = window (xs.map f) offset limit := by
  unfold window
  split
  · exact List.map_drop
  · rw [List.map_take, List.map_drop]

theorem count_eq_found (s : StoredSource) :
    s.count = s.found.map fun rows => (rows.length : Int) := by
  rw [count, found]
  cases s.selected with
  | error e => rfl
  | ok rows => simp [Except.map, bind, Except.bind, pure, Except.pure]

namespace Tracks

theorem isSome_of_mem_sorts (h : s.Tracks filters sorts) :
    ∀ b ∈ sorts, (s.joinTable.slot? b.path.relations).isSome := fun _ hb =>
  h.isSome _ (List.mem_append_right _ (List.mem_map_of_mem hb))

theorem isSome_of_mapM (h : s.Tracks filters sorts) {tests : List (BoundFilter × Cell)}
    (ht : filters.mapM BoundFilter.operand = .ok tests) :
    ∀ test ∈ tests, (s.joinTable.slot? test.1.path.relations).isSome := by
  intro test htest
  refine h.isSome _ (List.mem_append_left _ (List.mem_map_of_mem ?_))
  rw [← BoundFilter.filters_of_mapM_operand ht]
  exact List.mem_map_of_mem htest

theorem found_eq (h : s.Tracks filters sorts) :
    s.found = s.database.meeting s.table s.joinTable filters := by
  rw [found, selected, Statement.selected, h.criteria_eq, mapM_operand, Database.meeting]
  cases htests : filters.mapM BoundFilter.operand with
  | error e => rfl
  | ok tests =>
    have hselects : Statement.selects (tests.map s.joinTable.testOf) =
        RouteRows.meets tests ∘ s.joinTable.byRoute :=
      funext (selects_map_testOf (h.isSome_of_mapM htests))
    change Except.ok (((s.database.joinedRows s.table s.joins).filter
      (Statement.selects (tests.map s.joinTable.testOf))).map s.joinTable.byRoute) =
      .ok (((s.database.joinedRows s.table s.joins).map s.joinTable.byRoute).filter
        (RouteRows.meets tests))
    rw [List.filter_map, hselects]

theorem fetchRows_eq (h : s.Tracks filters sorts) (offset limit : Int) :
    s.fetchRows offset limit = (do
      let rows ← s.found.map fun rows => rows.mergeSort (RouteRows.le sorts)
      let _ ← Cell.ofInteger limit
      let _ ← Cell.ofInteger offset
      return (window rows offset limit).filterMap (·.root?)) := by
  rw [fetchRows, found]
  cases s.selected with
  | error e => rfl
  | ok rows =>
    cases Cell.ofInteger limit with
    | error e => rfl
    | ok _ =>
      cases Cell.ofInteger offset with
      | error e => rfl
      | ok _ =>
        have harranged : (s.statement.arranged rows).map s.joinTable.byRoute =
            (rows.map s.joinTable.byRoute).mergeSort (RouteRows.le sorts) := by
          refine List.map_mergeSort fun x _ y _ => ?_
          rw [h.terms_eq, order_map_termOf h.isSome_of_mem_sorts, RouteRows.le]
          cases RouteRows.order sorts (s.joinTable.byRoute x) (s.joinTable.byRoute y) <;> rfl
        change Except.ok ((window (s.statement.arranged rows) offset limit).filterMap (·.root?)) =
          .ok ((window ((rows.map s.joinTable.byRoute).mergeSort (RouteRows.le sorts))
            offset limit).filterMap (·.root?))
        rw [← harranged, ← map_window, List.filterMap_map]
        rfl

end Tracks

end StoredSource

end PagedQuery
