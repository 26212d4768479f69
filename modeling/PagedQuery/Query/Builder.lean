import PagedQuery.Query.Request

/-!
# Building queries

A query put together step by step. The clauses and the page window of a built query are those of
the moment it was built; its graph is the builder's own, so that later inclusions show in it.
-/

namespace PagedQuery

open PagedQuery.Text

structure QueryBuilder where
  filters : List FilterClause := []
  sorts : List SortClause := []
  graph : IncludeGraph := []
  pageNumber : Int := defaultPageNumber
  pageSize : Int := defaultPageSize
  deriving Inhabited

namespace QueryBuilder

def filter (b : QueryBuilder) (property : String) (op : FilterOperator) (value : Value) :
    QueryBuilder :=
  { b with filters := b.filters ++ [⟨normalizeProperty property, op, value.toText⟩] }

/-- The operator of a token. -/
def operator (token : String) : Except Fault FilterOperator :=
  match FilterOperator.ofToken? token with
  | some op => .ok op
  | none => .error (.unknownOperator token)

def sort (b : QueryBuilder) (property : String) (direction : SortDirection) : QueryBuilder :=
  { b with sorts := b.sorts ++ [⟨normalizeProperty property, direction⟩] }

/-- The direction of a token. -/
def direction (token : String) : Except Fault SortDirection :=
  match SortDirection.ofToken? token with
  | some d => .ok d
  | none => .error (.unknownDirection (SortDirection.canonicalToken token))

/-- Adds a dotted path to the graph. -/
def withPath (b : QueryBuilder) (path : String) : QueryBuilder :=
  { b with graph := b.graph.insert ((split '.' path).map normalizeProperty) }

def page (b : QueryBuilder) (number : Int) (size : Option Int) : QueryBuilder :=
  { b with pageNumber := number, pageSize := size.getD b.pageSize }

end QueryBuilder

/-- A built query, and whether it refers to the graph of its builder. -/
structure BuiltQuery where
  query : PageQuery
  sharesGraph : Bool

namespace QueryBuilder

/-- The query so far; a builder without inclusions gives it no graph. -/
def build (b : QueryBuilder) : BuiltQuery :=
  let shares := !b.graph.isEmpty
  ⟨⟨b.pageSize, b.pageNumber, b.filters, b.sorts, if shares then some b.graph else none⟩, shares⟩

end QueryBuilder

/-- A built query as it reads when its builder has gone on to a later state. -/
def BuiltQuery.read (built : BuiltQuery) (later : QueryBuilder) : PageQuery :=
  if built.sharesGraph then { built.query with graph := some later.graph } else built.query

/-- A step of building. Operators and directions are given as such or by their tokens. -/
inductive BuilderStep
  | filter (property : String) (operator : FilterOperator ⊕ String) (value : Value)
  | sort (property : String) (direction : SortDirection ⊕ String)
  | inclusion (path : String)
  | page (number : Int) (size : Option Int)

namespace QueryBuilder

/-- The builder after a step, which fails where a token is unknown or a value has no text. -/
def step (b : QueryBuilder) : BuilderStep → Except Fault QueryBuilder
  | .filter property (.inl op) value => do
    let _ ← value.written
    return b.filter property op value
  | .filter property (.inr token) value => do
    let op ← operator token
    let _ ← value.written
    return b.filter property op value
  | .sort property (.inl d) => return b.sort property d
  | .sort property (.inr token) => return b.sort property (← direction token)
  | .inclusion path => return b.withPath path
  | .page number size => return b.page number size

/-- The builder after steps in order; one that fails leaves it as it was. -/
def after (b : QueryBuilder) (steps : List BuilderStep) : QueryBuilder :=
  steps.foldl (fun b step => (b.step step).toOption.getD b) b

end QueryBuilder

end PagedQuery
