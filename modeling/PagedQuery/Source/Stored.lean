import PagedQuery.Page.Slice
import PagedQuery.Plan.Basic
import PagedQuery.Table.Statement

/-!
# Sources in tables

A statement over the rows of a table that grows with every filter and sort put on the source, and
relations to load. The slots of the joins are kept by the relations that lead to them, so that paths
over the same relations share their joins.
-/

namespace PagedQuery

open PagedQuery.Text

/-- The relations on the way to the end of a path. -/
def FieldPath.relations (p : FieldPath) : List String := p.fields.dropLast.map (·.name)

/-- The column at the end of a path. -/
def FieldPath.column (p : FieldPath) : String := (p.fields.getLast?.map (·.name)).getD ""

/-- Joins, and the slots that they fill by the relations that lead there from the statement's own
table. -/
structure JoinTable where
  joins : List Join := []
  slots : List (List String × Slot) := []
  deriving Inhabited

namespace JoinTable

/-- The slot at the end of a route whose last relation starts from a slot, with a join for it unless
there is one. -/
def enter (js : JoinTable) (source : Slot) (route : List String) (relation : String) :
    JoinTable × Slot :=
  match js.slots.lookup route with
  | some slot => (js, slot)
  | none =>
    let slot := js.joins.length + 1
    (⟨js.joins ++ [⟨source, relation, slot⟩], js.slots ++ [(route, slot)]⟩, slot)

/-- The slot that relations lead to from the end of a route, with the joins on the way. -/
def along (js : JoinTable) (source : Slot) (route : List String) : List String → JoinTable × Slot
  | [] => (js, source)
  | relation :: rest =>
    let (js, slot) := js.enter source (route ++ [relation]) relation
    js.along slot (route ++ [relation]) rest

/-- The column at the end of a path, with the joins on the way. -/
def column (js : JoinTable) (p : FieldPath) : JoinTable × ColumnRef :=
  let (js, slot) := js.along 0 [] p.relations
  (js, ⟨slot, p.column⟩)

/-- Ordering comparisons take no truth values. -/
def accepts (b : BoundFilter) : Bool :=
  match b.clause.operator, b.value with
  | .compare op, .bool _ => op == .equal
  | _, _ => true

/-- The criteria of filters. -/
def criteria (js : JoinTable) : List BoundFilter → Except Fault (JoinTable × List Criterion)
  | [] => .ok (js, [])
  | b :: bs =>
    let (js, column) := js.column b.path
    if accepts b then
      (js.criteria bs).map fun (js, cs) => (js, ⟨column, b.clause.operator, b.value⟩ :: cs)
    else .error .orderedBoolean

/-- The terms of sorts. -/
def terms (js : JoinTable) : List BoundSort → JoinTable × List SortTerm
  | [] => (js, [])
  | b :: bs =>
    let (js, column) := js.column b.path
    let (js, ts) := js.terms bs
    (js, ⟨column, b.isDescending⟩ :: ts)

end JoinTable

structure StoredSource where
  database : Database
  table : Table
  statement : Statement := {}
  /-- The slots of the statement's joins by the relations that lead to them. -/
  slots : List (List String × Slot) := []
  loads : List FieldPath := []
  deriving Inhabited

namespace StoredSource

def root (s : StoredSource) : FieldType := .entity s.table.name

def schema (s : StoredSource) : Schema := s.database.schema

def joins (s : StoredSource) : List Join := s.statement.joins

def joinTable (s : StoredSource) : JoinTable := ⟨s.joins, s.slots⟩

/-- Also selects by filters. -/
def filteredBy (s : StoredSource) (filters : List BoundFilter) : Except Fault StoredSource :=
  if filters.isEmpty then .ok s
  else
    (s.joinTable.criteria filters).map fun (js, cs) =>
      { s with
        statement := { s.statement with
          joins := js.joins
          criteria := s.statement.criteria ++ cs }
        slots := js.slots }

/-- Orders by further sorts, where the earlier ones leave rows equal. -/
def orderedBy (s : StoredSource) (sorts : List BoundSort) : StoredSource :=
  if sorts.isEmpty then s
  else
    let (js, ts) := s.joinTable.terms sorts
    { s with
      statement := { s.statement with
        joins := js.joins
        terms := s.statement.terms ++ ts }
      slots := js.slots }

/-- Also loads the relations of paths. -/
def including (s : StoredSource) (paths : List FieldPath) : StoredSource :=
  { s with loads := s.loads ++ paths }

/-- The selected rows, in the order of their keys. -/
def selected (s : StoredSource) : Except Fault (List JoinedRow) :=
  s.statement.selected s.database s.table

def count (s : StoredSource) : Except Fault Int := do
  return (← s.selected).length

/-- The rows of a window: a negative offset is none, a negative limit no limit. -/
def window {α : Type} (xs : List α) (offset limit : Int) : List α :=
  let rest := xs.drop offset.toNat
  if limit < 0 then rest else rest.take limit.toNat

/-- The selected rows in order from an offset on, at most `limit` of them. -/
def fetchRows (s : StoredSource) (offset limit : Int) : Except Fault (List Row) := do
  let rows ← s.selected
  let _ ← Cell.ofInteger limit
  let _ ← Cell.ofInteger offset
  return (window (s.statement.arranged rows) offset limit).filterMap (·.root?)

def fetch (s : StoredSource) (offset limit : Int) : Except Fault (List Value) := do
  return (← s.fetchRows offset limit).map (s.database.entity s.table)

/-- The row of a key, whatever the criteria. -/
def findRow (s : StoredSource) (identifier : Value) : Except Fault (Option Row) := do
  let key ← Cell.ofParameter identifier
  return s.table.rows.find? fun row =>
    Cell.compare? .equal (row.cell s.table.identifier) key.numeric == some true

def find (s : StoredSource) (identifier : Value) : Except Fault (Option Value) := do
  return (← s.findRow identifier).map (s.database.entity s.table)

/-- The relations of rows that are loaded along a path: table name, key and relation name. -/
def loadAlong (db : Database) : Table → List Row → List String → List (String × Int × String)
  | _, _, [] => []
  | t, rows, name :: names =>
    match t.relation? name with
    | none => []
    | some r =>
      rows.map (fun row => (t.name, row.key, name)) ++
        (match db.table? r.target with
         | none => []
         | some target => loadAlong db target (rows.flatMap (db.related r)) names)

/-- The relations of each of the fetched rows that are not loaded, sorted by name. -/
def unloaded (s : StoredSource) (keys : List Int) : List (List String) :=
  let rows := keys.filterMap s.table.row?
  let loaded := s.loads.flatMap fun p => loadAlong s.database s.table rows (p.fields.map (·.name))
  rows.map fun row =>
    ((s.table.relations.map (·.name)).filter fun name =>
      !loaded.contains (s.table.name, row.key, name)).mergeSort (fun a b => !(b < a))

end StoredSource

end PagedQuery
