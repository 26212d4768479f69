import PagedQuery.Toml.Failure
import PagedQuery.Value.Order

/-!
# TOML tables

Nested tables as they are put together, and what may still be added to them: an inline table or an
array is complete once it is written, and a table has one header at most.
-/

namespace PagedQuery.Toml

/-- The entries of a table; all keys are texts. -/
abbrev Entries := List (Value × Value)

/-- Changes the table at a path. Tables on the way are made where they are missing; an array of
tables stands for its last one, if arrays may be entered. -/
def updateAt (enterArrays : Bool) (change : Entries → Except Problem Entries) :
    Path → Entries → Except Problem Entries
  | [], entries => change entries
  | key :: path, entries =>
    let put := fun (v : Value) => putValue (.text key) v entries
    match valueAt? (.text key) entries with
    | none => (updateAt enterArrays change path []).map fun es => put (.dict es)
    | some (.dict es) => (updateAt enterArrays change path es).map fun es => put (.dict es)
    | some (.list vs) =>
      match enterArrays, vs.getLast? with
      | true, some (.dict es) =>
        (updateAt enterArrays change path es).map fun es => put (.list (vs.dropLast ++ [.dict es]))
      | _, _ => .error .overwritten
    | some _ => .error .overwritten

/-- A table with one entry more, under a key that it does not have. -/
def addEntry (duplicate : Problem) (key : String) (v : Value) (entries : Entries) :
    Except Problem Entries :=
  if (valueAt? (.text key) entries).isSome then .error duplicate
  else .ok (entries ++ [(.text key, v)])

/-- A table whose array of tables under a key has one empty table more. -/
def addTable (key : String) (entries : Entries) : Except Problem Entries :=
  match valueAt? (.text key) entries with
  | none => .ok (entries ++ [(.text key, .list [.dict []])])
  | some (.list vs) => .ok (putValue (.text key) (.list (vs ++ [.dict []])) entries)
  | some _ => .error .overwritten

/-- A table with a value at a path. -/
def addAt (enterArrays : Bool) (duplicate : Problem) (path : Path) (v : Value) (entries : Entries) :
    Except Problem Entries :=
  updateAt enterArrays (addEntry duplicate (path.getLastD "") v) path.dropLast entries

/-- What has been settled about paths. -/
structure Marks where
  /-- Paths at which, and below which, nothing may be added. -/
  complete : List Path := []
  /-- Paths of tables that may not get a header. -/
  declared : List Path := []
  /-- Paths that will be declared when the next header comes. -/
  pending : List Path := []

namespace Marks

variable (marks : Marks)

def isComplete (path : Path) : Bool := marks.complete.any (·.isPrefixOf path)

def isDeclared (path : Path) : Bool := marks.declared.contains path

def completeAt (path : Path) : Marks := { marks with complete := path :: marks.complete }

def declare (path : Path) : Marks := { marks with declared := path :: marks.declared }

def postpone (path : Path) : Marks := { marks with pending := path :: marks.pending }

/-- Declares what was pending. -/
def settle : Marks := { marks with declared := marks.pending ++ marks.declared, pending := [] }

/-- Frees a path and all paths below it. -/
def free (path : Path) : Marks :=
  { marks with
    complete := marks.complete.filter (!path.isPrefixOf ·)
    declared := marks.declared.filter (!path.isPrefixOf ·) }

end Marks

/-- Whether a value is complete where it is written. -/
def isCompound : Value → Bool
  | .dict _ | .list _ => true
  | _ => false

/-- A document as far as it has been read, and the path of the table that its keys go to. -/
structure Document where
  root : Entries := []
  marks : Marks := {}
  header : Path := []

namespace Document

/-- The start of a table. -/
def openTable (d : Document) (path : Path) : Except Problem Document := do
  let marks := d.marks.settle
  if marks.isDeclared path || marks.isComplete path then throw (.declaredTwice path)
  let root ← updateAt true .ok path d.root
  return ⟨root, marks.declare path, path⟩

/-- The start of one more table of an array. -/
def openArrayTable (d : Document) (path : Path) : Except Problem Document := do
  let marks := d.marks.settle
  if marks.isComplete path then throw (.immutable path)
  let root ← updateAt true (addTable (path.getLastD "")) path.dropLast d.root
  return ⟨root, (marks.free path).declare path, path⟩

/-- Postpones the declaration of the tables on the way to a dotted key. -/
def postponeAll (marks : Marks) : List Path → Except Problem Marks
  | [] => .ok marks
  | path :: paths =>
    if marks.isDeclared path then .error (.redefined path)
    else postponeAll (marks.postpone path) paths

/-- An entry of the current table. -/
def add (d : Document) (key : Path) (v : Value) : Except Problem Document := do
  let path := d.header ++ key
  let onTheWay := (List.range (key.length - 1)).map fun i => d.header ++ key.take (i + 1)
  let marks ← postponeAll d.marks onTheWay
  if path.dropLast ≠ [] ∧ marks.isComplete path.dropLast then throw (.immutable path.dropLast)
  let root ← addAt true .overwritten path v d.root
  return { d with root, marks := if isCompound v then marks.completeAt path else marks }

end Document

end PagedQuery.Toml
