import PagedQuery.Query.Grammar
import PagedQuery.Query.Include

/-!
# Requests

A request for one page: the page window, filter clauses, sort clauses and an include graph.
-/

namespace PagedQuery

open PagedQuery.Number PagedQuery.Text

def defaultPageSize : Int := 10

def defaultPageNumber : Int := 1

/-- A parsed request. -/
structure PageQuery where
  pageSize : Int := defaultPageSize
  pageNumber : Int := defaultPageNumber
  filters : List FilterClause := []
  sorts : List SortClause := []
  graph : Option IncludeGraph := none
  deriving Inhabited

namespace PageQuery

/-- The same query for another page. -/
def withPage (q : PageQuery) (number : Int) (size : Option Int) : PageQuery :=
  { q with pageNumber := number, pageSize := size.getD q.pageSize }

def bracketed (name : String) (items : List String) : String :=
  name ++ "=[" ++ String.intercalate ", " items ++ "]"

/-- The text of a query, its empty parts left out. -/
def text (q : PageQuery) : String :=
  let parts := ["page=" ++ toString q.pageNumber, "size=" ++ toString q.pageSize] ++
    (if q.filters.isEmpty then [] else [bracketed "filters" (q.filters.map (·.text))]) ++
    (if q.sorts.isEmpty then [] else [bracketed "sorts" (q.sorts.map (·.text))]) ++
    (match q.graph with
     | none | some [] => []
     | some graph => ["graph=" ++ graph.text])
  "PagedListQuery(" ++ String.intercalate ", " parts ++ ")"

end PageQuery

/-- The largest page size that is accepted. -/
structure SizeLimit where
  size : Int
  /-- How messages show the limit, which need not be a whole number. -/
  shown : String := toString size
  deriving Repr, DecidableEq, Inhabited

/-- The limit that a value sets; zero, infinity and what is no number set none. -/
def SizeLimit.ofValue? (v : Value) : Option SizeLimit :=
  if v.isTruthy then
    match v.number? with
    | some (.finite negative c e, _) => some ⟨Decimal.truncate negative c e, v.toText⟩
    | _ => none
  else none

/-- The policy under which the parameters of one request are read. -/
structure RequestPolicy where
  defaultSize : Int := defaultPageSize
  limit : Option SizeLimit := none
  profile : Profile := .lenient
  deriving Repr, Inhabited

mutual
/-- Why a key of a graph has no text; only keys that stay in the graph are written. -/
def GraphSource.unwritable? : GraphSource → Option Fault
  | .mapping entries => unwritableKey? entries
  | _ => none
def unwritableKey? : List (Value × GraphSource) → Option Fault
  | [] => none
  | (_, .other) :: rest => unwritableKey? rest
  | (key, source) :: rest => (source.unwritable?.or key.unwritable?).or (unwritableKey? rest)
end

/-- The graph of a mapping whose keys have texts. -/
def readMapping (entries : List (Value × GraphSource)) : Except Fault IncludeGraph :=
  match unwritableKey? entries with
  | some e => .error e
  | none => .ok (buildGraph entries)

/-- A graph parameter: an expression or a mapping. -/
inductive GraphParameter
  | expression (s : Option String)
  | mapping (entries : List (Value × GraphSource))

namespace GraphParameter

def graph? : GraphParameter → Option IncludeGraph
  | .expression s => parseGraph s
  | .mapping entries => some (buildGraph entries)

/-- The graph of a parameter, none of an expression that is no graph. -/
def read : GraphParameter → Except Fault (Option IncludeGraph)
  | .expression s => .ok (parseGraph s)
  | .mapping entries => (readMapping entries).map some

end GraphParameter

/-- A filter or sort parameter. -/
inductive ExpressionParameter
  | expression (s : Option String)
  /-- A value that is no text. -/
  | value (v : Value)

/-- The clauses of a parameter. -/
def ExpressionParameter.parse {α : Type} (parse : Option String → Except Fault (List α)) :
    ExpressionParameter → Except Fault (List α)
  | .expression s => parse s
  | .value .null => .ok []
  | .value (.bytes bs) =>
    if bs.all isByteBlank then .ok []
    else .error .expressionIsBytes
  | .value v =>
    match v.text? with
    | some s => parse (some s)
    | none => .error (.expressionNotText v.qualifiedTypeName)

/-- The raw parameters of one request. -/
structure RequestParameters where
  pageSize : Value := .null
  pageNumber : Value := .null
  filter : ExpressionParameter := .expression none
  sort : ExpressionParameter := .expression none
  graph : GraphParameter := .expression none

/-- The integer that a page parameter stands for. Numbers lose their fraction. -/
def pageInteger (p : PageParameter) (v : Value) : Except Fault Int :=
  let unreadable := Except.error ((v.unquotable?).getD (Fault.pageUnreadable p v))
  let ofText := fun (s : String) =>
    match readLoose s with
    | .ok n => Except.ok n
    | .error _ => unreadable
  let ofDecimal := fun (decimal : Bool) (d : Decimal) =>
    match d with
    | .finite negative c e => Except.ok (Decimal.truncate negative c e)
    | .infinite _ => .error (.pageInfinite decimal)
    | .notANumber .. => unreadable
  match v with
  | .bool _ => unreadable
  | .uuid n => .ok n
  | .bytes bs =>
    -- Bytes beyond ASCII are no blanks and no digits.
    if bs.all (·.toNat < 128) then ofText (Text.ofBytes "latin-1" bs) else unreadable
  | v =>
    match v.text?, v.number? with
    | some s, _ => ofText s
    | none, some (d, decimal) => ofDecimal decimal d
    | none, none => unreadable

/-- Whether a page parameter is not given: missing or empty. -/
def Value.isAbsent (v : Value) : Bool := v.isNull || v.text? == some ""

/-- The value of a page parameter, the default for one that is not given. -/
def pageValue (p : PageParameter) (default : Int) (v : Value) : Except Fault Int :=
  if v.isAbsent then .ok default else pageInteger p v

/-- A fault that tells of an integer, unless the integer is too long to be told. -/
def Fault.telling (n : Int) (fault : Fault) : Fault := if isLong n then .longInteger else fault

/-- The page size and number of a request. -/
def RequestPolicy.pageWindow (policy : RequestPolicy) (size number : Value) :
    Except Fault (Int × Int) := do
  let size ← pageValue .size policy.defaultSize size
  let number ← pageValue .number defaultPageNumber number
  if size < 1 then throw (.telling size (.pageSizeNotPositive size))
  match policy.limit.filter (·.size < size) with
  | some limit => throw (.telling size (.pageSizeTooLarge (toString size) limit.shown))
  | none =>
    if number < 1 then throw (.telling number (.pageNumberTooSmall number))
    return (size, number)

/-- The query of raw parameters. -/
def RequestPolicy.parse (policy : RequestPolicy) (ps : RequestParameters) :
    Except Fault PageQuery := do
  let (size, number) ← policy.pageWindow ps.pageSize ps.pageNumber
  let graph ← ps.graph.read
  let filters ← ps.filter.parse (parseFilter policy.profile)
  let sorts ← ps.sort.parse (parseSort policy.profile)
  return ⟨size, number, filters, sorts, graph⟩

end PagedQuery
