import PagedQuery.Coercion.Basic
import PagedQuery.Query.Request
import PagedQuery.Schema.Discovery

/-!
# Plans

A query bound to an entity type: property names become paths, filter values become values of the
field types. Clauses whose path is not found are left out and listed.
-/

namespace PagedQuery

open PagedQuery.Text

/-- A filter clause with its path and its value. -/
structure BoundFilter where
  clause : FilterClause
  path : FieldPath
  value : Value
  /-- Whether the value is converted when it is compared, for fields of any type. -/
  deferred : Bool := false
  deriving Inhabited

/-- A sort clause with its path; position 0 is the primary key. -/
structure BoundSort where
  clause : SortClause
  path : FieldPath
  position : Nat
  deriving Inhabited

def BoundSort.isDescending (b : BoundSort) : Bool := b.clause.direction == .descending

/-- Everything that a source needs to answer one request. -/
structure Plan where
  root : FieldType
  filters : List BoundFilter := []
  sorts : List BoundSort := []
  includes : List FieldPath := []
  pageSize : Int := defaultPageSize
  pageNumber : Int := defaultPageNumber
  /-- The texts of the clauses that are left out. -/
  skipped : List String := []
  deriving Inhabited

namespace Plan

def includeKeys (p : Plan) : List String := p.includes.map (·.key)

def quotedList (xs : List String) : String :=
  "[" ++ String.intercalate ", " (xs.map quoted) ++ "]"

/-- A summary of the plan. -/
def text (p : Plan) : Except Fault String :=
  match p.root.name? with
  | none => .error (.typeWithoutName p.root)
  | some name =>
    .ok ("CompiledQuery(" ++ String.intercalate ", "
      [name, "filters=" ++ toString p.filters.length, "sorts=" ++ toString p.sorts.length,
       "includes=" ++ quotedList p.includeKeys, "skipped=" ++ quotedList p.skipped] ++ ")")

end Plan

namespace Schema

def isEnumerationOf (s : Schema) (bases : List EnumBase) (name : String) : Bool :=
  (s.enumeration? name).any fun e => bases.contains e.base

mutual
/-- Whether patterns can be looked for in values of the type. -/
def holdsText (s : Schema) : FieldType → Bool
  | .scalar .text | .code | .any | .object => true
  | .enumeration name => s.isEnumerationOf [.string, .text] name
  | .union _ members => s.someHoldText members
  | _ => false
def someHoldText (s : Schema) : List FieldType → Bool
  | [] => false
  | t :: ts => s.holdsText t || s.someHoldText ts
end

/-- Whether values of the type have an order; members that are neither numbers nor texts have
none. -/
def isOrdered (s : Schema) : FieldType → Bool
  | .enumeration name => s.isEnumerationOf [.integer, .float, .string, .text] name
  | _ => true

/-- A filter whose path is found. -/
def bindFilterTo (s : Schema) (c : FilterClause) (path : FieldPath) :
    Except Fault BoundFilter :=
  let type := path.valueType
  if c.operator.isPattern then
    if s.holdsText type then .ok ⟨c, path, .text c.value, false⟩
    else .error (.patternNeedsText c.operator.token c.property type.label)
  else if c.operator ≠ .compare .equal ∧ !s.isOrdered type then
    .error (.notOrderable c.operator.token c.property)
  else if type.isUntyped then .ok ⟨c, path, .text c.value, true⟩
  else (s.convert c.value type).map fun v => ⟨c, path, v, false⟩

/-- The bound filter of a clause, none if its path is not found. -/
def bindFilter (s : Schema) (root : FieldType) (c : FilterClause) :
    Except Fault (Option BoundFilter) :=
  match s.resolve .value root c.property with
  | .error e => .error e
  | .ok none => .ok none
  | .ok (some path) => (s.bindFilterTo c path).map some

/-- The path of a sort clause, none if it is not found. -/
def bindSort (s : Schema) (root : FieldType) (c : SortClause) :
    Except Fault (Option (SortClause × FieldPath)) :=
  (s.resolve .value root c.property).map fun path? => path?.map (c, ·)

/-- The path of relations to load, none if it is not found or leads over other fields. -/
def bindInclude (s : Schema) (root : FieldType) (path : String) :
    Except Fault (Option FieldPath) :=
  (s.resolve .inclusion root path).map fun path? =>
    path?.filter fun p => p.fields.all (·.relation)

/-- The results of binding in order, and the texts of what is left out. -/
def bindEach {α β : Type} (bind : α → Except Fault (Option β)) (text : α → String) :
    List α → Except Fault (List β × List String)
  | [] => .ok ([], [])
  | a :: as =>
    match bind a with
    | .error e => .error e
    | .ok bound? =>
      (bindEach bind text as).map fun (bound, skipped) =>
        match bound? with
        | some b => (b :: bound, skipped)
        | none => (bound, text a :: skipped)

def bindFilters (s : Schema) (root : FieldType) (cs : List FilterClause) :
    Except Fault (List BoundFilter × List String) :=
  bindEach (s.bindFilter root) (·.text) cs

/-- Bound sorts with positions that count the found ones only. -/
def bindSorts (s : Schema) (root : FieldType) (cs : List SortClause) :
    Except Fault (List BoundSort × List String) :=
  (bindEach (s.bindSort root) (·.text) cs).map fun (bound, skipped) =>
    (bound.zipIdx.map fun ((c, path), i) => ⟨c, path, i⟩, skipped)

def bindIncludes (s : Schema) (root : FieldType) (graph : Option IncludeGraph) :
    Except Fault (List FieldPath × List String) :=
  bindEach (s.bindInclude root) id ((graph.map (·.flatten)).getD [])

/-- The plan of a query over entities of a type. -/
def compile (s : Schema) (root : FieldType) (q : PageQuery) : Except Fault Plan := do
  let (filters, skippedFilters) ← s.bindFilters root q.filters
  let (sorts, skippedSorts) ← s.bindSorts root q.sorts
  let (includes, skippedIncludes) ← s.bindIncludes root q.graph
  return ⟨root, filters, sorts, includes, q.pageSize, q.pageNumber,
    skippedFilters ++ skippedSorts ++ skippedIncludes⟩

end Schema

end PagedQuery
