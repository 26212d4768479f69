import PagedQuery.Fault
import PagedQuery.Table.Basic

/-!
# Connections

The database that an address names: one of the files of a workspace, or one without tables in
memory or in a file that is not there yet.
-/

namespace PagedQuery

open PagedQuery.Text

/-- Databases by the places of their files. -/
abbrev DatabaseFiles := List (Place × Database)

/-- A database without tables. -/
def Database.empty : Database := ⟨{}, []⟩

/-- The name of the driver in an address, and what comes after it. -/
def driver? (address : List Char) : Option (List Char × List Char) := do
  let (driver, rest) ← cutAt? ':' address
  if driver.isEmpty || !driver.all fun c => c.isAlphanum || c == '_' || c == '+' then none
  else return (driver, ← afterPrefix? ['/', '/'] rest)

/-- The path of a database in the rest of an address: none for one in memory. -/
def pathIn? (rest : List Char) : Option String :=
  match rest.takeWhile (· != '?') with
  | '/' :: path =>
    if path.isEmpty || path = ":memory:".toList then none else some (String.ofList path)
  | _ => none

/-- The path of the database at an address that names a file. -/
def storedPath? (address : String) : Option String := do
  let (driver, rest) ← driver? address.toList
  if driver.takeWhile (· != '+') = "sqlite".toList then pathIn? rest else none

/-- The path of a database in a file that is not there yet, though its directory is. -/
def DatabaseFiles.missing? (files : DatabaseFiles) (tree : FileTree) (address : String) :
    Option String := do
  let path ← storedPath? address
  let place ← tree.place? path
  if (tree.entry? path).isSome || files.any (·.1 == place) then none else return path

/-- The database in a file: one of these files, or one without tables in a file that is empty or
not there yet. -/
def DatabaseFiles.atPath (files : DatabaseFiles) (tree : FileTree) (path : String) :
    Except Fault Database :=
  match tree.place? path with
  | none => .error (.databaseUnavailable "unable to open database file")
  | some place =>
    match files.find? (·.1 == place), tree.entry? path with
    | some (_, db), _ => .ok db
    | none, none | none, some (.file "") => .ok .empty
    | none, some (.file _) => .error (.databaseUnavailable "file is not a database")
    | none, some .directory => .error (.databaseUnavailable "unable to open database file")

/-- The database at an address in a text. -/
def DatabaseFiles.atAddress (files : DatabaseFiles) (tree : FileTree) (address : String) :
    Except Fault Database :=
  match driver? address.toList with
  | none => .error (.databaseUnavailable "Could not parse SQLAlchemy URL from given URL string")
  | some (driver, rest) =>
    if driver.takeWhile (· != '+') = "sqlite".toList then
      match rest.takeWhile (· != '?') with
      | [] => .ok .empty
      | '/' :: _ =>
        match pathIn? rest with
        | none => .ok .empty
        | some path => files.atPath tree path
      | _ => .error (.databaseUnavailable ("Invalid SQLite URL: " ++ address ++
          "\nValid SQLite URL forms are sqlite:///:memory: or sqlite:////absolute/path/to/file.db"))
    else
      .error (.databaseUnavailable
        ("Can't load plugin: sqlalchemy.dialects:" ++ String.ofList driver))

/-- The database at an address of any kind. -/
def DatabaseFiles.connect (files : DatabaseFiles) (tree : FileTree) (address : Value) :
    Except Fault Database :=
  match address.text? with
  | some s => files.atAddress tree s
  | none => .error (.missingField address.qualifiedTypeName "startswith")

namespace Database

/-- The names of the tables, sorted. -/
def tableNames (db : Database) : List String :=
  (db.tables.map (·.name)).mergeSort fun a b => !(b < a)

/-- The table of a name. -/
def table (db : Database) (name : String) : Except Fault Table :=
  match db.table? name with
  | some t => .ok t
  | none => .error (.unknownTable name)

/-- An entity and what a graph names around it, as a mapping. -/
def mapping (db : Database) (graph : Option IncludeGraph) (v : Value) : List (String × Value) :=
  match v with
  | .entity type _ key fields =>
    match (db.table? type).bind fun t => (t.row? key).map (t, ·) with
    | some (t, row) =>
      db.render t row (match graph with
        | some graph => .node graph
        | none => .leaf)
    | none => fields
  | _ => []

end Database

end PagedQuery
