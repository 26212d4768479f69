import PagedQuery.Page.Basic
import PagedQuery.Source.Memory
import PagedQuery.Source.Stored

/-!
# Sources

Collections of entities that queries run on, in memory or in tables. A source is a view: filters,
sorts and inclusions give a new one.
-/

namespace PagedQuery

inductive Source
  | memory (s : MemorySource)
  | stored (s : StoredSource)
  deriving Inhabited

namespace Source

def root : Source → FieldType
  | memory s => s.root
  | stored s => s.root

def schema : Source → Schema
  | memory s => s.schema
  | stored s => s.schema

/-- The source after an outcome, which may have made a type known. -/
def after {α : Type} (outcome : Except Fault α) : Source → Source
  | memory s => memory { s with schema := s.schema.after outcome }
  | stored s => stored s

def filteredBy (filters : List BoundFilter) : Source → Except Fault Source
  | memory s => .ok (.memory (s.filteredBy filters))
  | stored s => (s.filteredBy filters).map .stored

def orderedBy (sorts : List BoundSort) : Source → Source
  | memory s => .memory (s.orderedBy sorts)
  | stored s => .stored (s.orderedBy sorts)

def including (paths : List FieldPath) : Source → Source
  | memory s => .memory (s.including paths)
  | stored s => .stored (s.including paths)

/-- Whether loading the paths leaves the source as it is. -/
def ignores (paths : List FieldPath) : Source → Bool
  | memory _ => false
  | stored _ => paths.isEmpty

/-- The number of matching entities. -/
def count : Source → Except Fault Int
  | memory s => s.count
  | stored s => s.count

/-- Matching entities in order, from an offset on. -/
def fetch (offset limit : Int) : Source → Except Fault (List Value)
  | memory s => s.fetch offset limit
  | stored s => s.fetch offset limit

/-- The entity with an identifier, whatever the filters. -/
def find (identifier : Value) : Source → Except Fault (Option Value)
  | memory s => s.find identifier
  | stored s => s.find identifier

/-- The name of the sort of source, for one that has to be awaited. -/
def awaitedName : Source → String
  | memory _ => "AsyncMemorySource"
  | stored _ => "AsyncOrmSource"

/-- The source of a query's matches, and its page window. -/
def prepare (source : Source) (q : PageQuery) : Except Fault (Source × Plan) := do
  let plan ← source.schema.compile source.root q
  let filtered ← (source.including plan.includes).filteredBy plan.filters
  return (filtered.orderedBy plan.sorts, plan)

/-- One page of a query's matches, and the source that it came from. -/
def runOn (source : Source) (q : PageQuery) : Except Fault (Source × Page Value) := do
  let (prepared, plan) ← source.prepare q
  let w ← PageWindow.of plan.pageNumber plan.pageSize (← prepared.count)
  let elements ← prepared.fetch w.skip plan.pageSize
  return (prepared, .ofWindow w elements)

/-- One page of a query's matches. -/
def run (source : Source) (q : PageQuery) : Except Fault (Page Value) :=
  (source.runOn q).map (·.2)

/-- Pages one after the other up to the first empty one, at most as many as the bound. -/
def pagesFrom (source : Source) (q : PageQuery) (number : Int) :
    Nat → Except Fault (List (Source × Page Value))
  | 0 => .ok []
  | bound + 1 => do
    let (prepared, page) ← source.runOn (q.withPage number none)
    if page.elements.isEmpty then return [(prepared, page)]
    return (prepared, page) :: (← source.pagesFrom q (number + 1) bound)

/-- All pages from the first one up to the first empty one. No page but the last is empty, so
that there is one more of them than elements at most. -/
def pages (source : Source) (q : PageQuery) : Except Fault (List (Source × Page Value)) := do
  let (_, first) ← source.runOn (q.withPage 1 none)
  source.pagesFrom q 1 (first.info.totalElements.toNat + 1)

/-- An identifier, converted to the type of the identifier field if it is a text. -/
def identifier (source : Source) (given : Value) : Except Fault Value :=
  match given.text? with
  | none => .ok given
  | some s => do
    match ← source.schema.identifier source.root with
    | none => return given
    | some f => source.schema.convert s f.type

/-- The graph that a parameter requires. -/
def requiredGraph : GraphParameter → Except Fault IncludeGraph
  | .mapping entries => readMapping entries
  | .expression s =>
    match parseRequiredGraph s with
    | .ok graph => .ok graph
    | .error .missing => .error .graphMissing
    | .error .malformed => .error .graphMalformed

/-- One entity with the relations that a graph names, and the source that it came from. -/
def getOn (source : Source) (given : Value) (graph : GraphParameter) :
    Except Fault (Source × Value) := do
  let graph ← requiredGraph graph
  let (includes, _) ← source.schema.bindIncludes source.root (some graph)
  let identifier ← source.identifier given
  let prepared := source.including includes
  match ← prepared.find identifier with
  | some entity => return (prepared, entity)
  | none => throw (.entityNotFound source.root.label (← identifier.written))

end Source

/-- How the answers of a source come: at once, or after waiting for them. -/
inductive Delivery
  | direct
  | awaited
  deriving Repr, DecidableEq, Inhabited

/-- Refuses to take answers at once that have to be awaited. -/
def Delivery.check (d : Delivery) (source : Source) (awaited : Bool) (advice : String) :
    Except Fault Unit :=
  match d with
  | .direct => if awaited then .error (.asynchronous source.awaitedName advice) else .ok ()
  | .awaited => .ok ()

end PagedQuery
