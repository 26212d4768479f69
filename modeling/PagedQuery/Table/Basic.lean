import PagedQuery.Table.Cell
import PagedQuery.Query.Include
import PagedQuery.Schema.Discovery

/-!
# Tables

Rows with a key, the relations between tables, and entities as they are read from rows.
-/

namespace PagedQuery

structure Column where
  name : String
  type : FieldType
  deriving Inhabited

/-- A relation to another table. To one row, `column` is the column of this table that holds the
other key; to many, it is the column of the other table that holds this key. -/
structure Relation where
  name : String
  target : String
  column : String
  many : Bool
  deriving Inhabited

structure Row where
  key : Int
  cells : List (String × Cell)
  deriving Inhabited

/-- A table with its rows in the order of their keys. -/
structure Table where
  name : String
  identifier : String
  columns : List Column
  relations : List Relation
  rows : List Row
  deriving Inhabited

structure Database where
  schema : Schema
  tables : List Table
  deriving Inhabited

namespace Row

def cell (r : Row) (column : String) : Cell := (lookup? column r.cells).getD .null

end Row

namespace Table

/-- The columns of a table, and then its relations, as fields. -/
def storedType (t : Table) : StoredType :=
  ⟨t.name,
    t.columns.map (fun c => ⟨c.name, c.type, false, false⟩) ++
      t.relations.map (fun r => ⟨r.name, .entity r.target, r.many, true⟩),
    some t.identifier⟩

def row? (t : Table) (key : Int) : Option Row := t.rows.find? (·.key == key)

def relation? (t : Table) (name : String) : Option Relation := t.relations.find? (·.name == name)

end Table

namespace Database

/-- Tables together with the enumerations that their columns use. -/
def ofTables (enumerations : List Enumeration) (tables : List Table) : Database :=
  ⟨{ enumerations, stored := tables.map Table.storedType }, tables⟩

def table? (db : Database) (name : String) : Option Table := db.tables.find? (·.name == name)

/-- The rows that a relation leads to from a row. -/
def related (db : Database) (r : Relation) (row : Row) : List Row :=
  match db.table? r.target with
  | none => []
  | some target =>
    if r.many then
      target.rows.filter fun other =>
        Cell.compare? .equal (other.cell r.column) (.integer row.key) == some true
    else
      match row.cell r.column with
      | .integer key => (target.row? key).toList
      | _ => []

/-- The attributes of a row: its columns. -/
def attributes (db : Database) (t : Table) (row : Row) : List (String × Value) :=
  t.columns.map fun c => (c.name, (row.cell c.name).toValue db.schema c.type)

/-- The entity of a row. -/
def entity (db : Database) (t : Table) (row : Row) : Value :=
  .entity t.name {} row.key.toNat (db.attributes t row)

mutual
/-- A row and what a graph names around it, as a mapping. -/
def render (db : Database) (t : Table) (row : Row) : IncludeTree → List (String × Value)
  | .leaf => db.attributes t row
  | .node children => db.renderAll t row (db.attributes t row) children
/-- A mapping with the relations that children of a graph name. -/
def renderAll (db : Database) (t : Table) (row : Row) (seen : List (String × Value)) :
    List (String × IncludeTree) → List (String × Value)
  | [] => seen
  | (key, child) :: rest =>
    let table := fieldTable (t.storedType.fields.map fun f =>
      (f.name, ⟨f.name, f.type, f.many, f.relation⟩))
    match (lookup? (normalizeProperty key) table).bind fun f => t.relation? f.name with
    | none => db.renderAll t row seen rest
    | some r =>
      match db.table? r.target with
      | none => db.renderAll t row seen rest
      | some target =>
        let shown := (db.related r row).map fun other =>
          Value.dict ((db.render target other child).map fun (n, v) => (.text n, v))
        let value := if r.many then .list shown else shown.head?.getD .null
        db.renderAll t row (putEntry r.name value seen) rest
end

end Database

end PagedQuery
