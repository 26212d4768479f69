import PagedQuery.Query.Clause
import PagedQuery.Table.Basic

/-!
# Statements

What is read from a table: its rows, each put together with rows of other tables along relations,
criteria that such a joined row has to meet, and sort terms. A relation that leads nowhere leaves a
row missing and drops none. A comparison with a missing value is open, and a row with an open
criterion is not selected.
-/

namespace PagedQuery

/-- A place in a joined row: slot 0 holds the row of the statement's own table, and every join fills
one more. -/
abbrev Slot := Nat

/-- Fills a slot with the rows that a relation leads to from the rows in another slot. -/
structure Join where
  source : Slot
  relation : String
  target : Slot
  deriving Repr, DecidableEq, Inhabited

structure ColumnRef where
  slot : Slot
  column : String
  deriving Repr, DecidableEq, Inhabited

/-- Compares a column with a value. -/
structure Criterion where
  column : ColumnRef
  operator : FilterOperator
  value : Value
  deriving Inhabited

structure SortTerm where
  column : ColumnRef
  descending : Bool
  deriving Repr, DecidableEq, Inhabited

structure Statement where
  joins : List Join := []
  criteria : List Criterion := []
  terms : List SortTerm := []
  deriving Inhabited

/-- Rows put together, with their tables, by slots. -/
abbrev JoinedRow := List (Slot × Option (Table × Row))

namespace JoinedRow

/-- A row of the statement's own table, before any join. -/
def single (t : Table) (row : Row) : JoinedRow := [(0, some (t, row))]

/-- The row in a slot, if it is not missing. -/
def row? (joined : JoinedRow) (slot : Slot) : Option (Table × Row) := (joined.lookup slot).join

/-- The row of the statement's own table. -/
def root? (joined : JoinedRow) : Option Row := (joined.row? 0).map (·.2)

def cell (joined : JoinedRow) (c : ColumnRef) : Cell :=
  match joined.row? c.slot with
  | some (_, row) => row.cell c.column
  | none => .null

end JoinedRow

namespace Database

/-- The rows that a relation leads to from a row, with their table; none from a missing row. -/
def partners (db : Database) (relation : String) : Option (Table × Row) → List (Table × Row)
  | none => []
  | some (t, row) =>
    match t.relation? relation with
    | none => []
    | some r =>
      match db.table? r.target with
      | none => []
      | some target => (db.related r row).map (target, ·)

/-- A joined row with each of the rows that a join adds, or with none if there is no such row. -/
def outerJoin (db : Database) (joined : JoinedRow) (j : Join) : List JoinedRow :=
  match db.partners j.relation (joined.row? j.source) with
  | [] => [(j.target, none) :: joined]
  | found => found.map fun partner => (j.target, some partner) :: joined

/-- The rows of a table with all joins. -/
def joinedRows (db : Database) (t : Table) (joins : List Join) : List JoinedRow :=
  joins.foldl (fun rows j => rows.flatMap (db.outerJoin · j)) (t.rows.map (JoinedRow.single t))

end Database

namespace Criterion

/-- A criterion with the cell that rows are compared with. -/
def operand (c : Criterion) : Except Fault (Criterion × Cell) := (Cell.ofValue c.value).map (c, ·)

/-- What an operator says about two cells. Patterns ignore the case of ASCII letters. -/
def meets (operator : FilterOperator) (actual expected : Cell) : Option Bool :=
  match operator, actual, expected with
  | .compare op, _, _ => Cell.compare? op actual expected
  | _, .text s, .text pattern => some (Cell.textContains s pattern)
  | _, _, _ => none

end Criterion

namespace Statement

/-- Whether a joined row meets all criteria. -/
def selects (criteria : List (Criterion × Cell)) (joined : JoinedRow) : Bool :=
  criteria.all fun (c, expected) =>
    Criterion.meets c.operator (joined.cell c.column) expected == some true

/-- The selected rows, in the order of the keys of the statement's own table. -/
def selected (st : Statement) (db : Database) (t : Table) : Except Fault (List JoinedRow) := do
  let criteria ← st.criteria.mapM Criterion.operand
  return (db.joinedRows t st.joins).filter (selects criteria)

/-- The order of two joined rows by sort terms, the first that tells them apart. -/
def order : List SortTerm → JoinedRow → JoinedRow → Ordering
  | [], _, _ => .eq
  | t :: ts, x, y =>
    let o := Cell.order (x.cell t.column) (y.cell t.column)
    (if t.descending then o.swap else o).then (order ts x y)

/-- Joined rows in the order of the sort terms, equal ones as they stood. -/
def arranged (st : Statement) (rows : List JoinedRow) : List JoinedRow :=
  rows.mergeSort fun x y => order st.terms x y != .gt

end Statement

end PagedQuery
