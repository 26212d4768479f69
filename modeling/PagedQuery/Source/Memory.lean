import PagedQuery.Page.Slice
import PagedQuery.Plan.Ordering
import PagedQuery.Plan.Predicate

/-!
# Sources in memory

A list of entities with selections, orderings and inclusions put on it one after the other.
Inclusions are only recorded, since relations are attributes here.
-/

namespace PagedQuery

structure MemorySource where
  schema : Schema
  root : FieldType
  items : List Value
  /-- The filters of each selection. -/
  selections : List (List BoundFilter) := []
  /-- The sorts of each ordering. -/
  orderings : List (List BoundSort) := []
  includes : List String := []
  deriving Inhabited

namespace MemorySource

/-- The filters of all selections. -/
def filters (s : MemorySource) : List BoundFilter := s.selections.flatten

/-- The sorts of all orderings. -/
def sorts (s : MemorySource) : List BoundSort := s.orderings.flatten

def including (s : MemorySource) (paths : List FieldPath) : MemorySource :=
  { s with includes := s.includes ++ paths.map (·.key) }

/-- Also selects by filters. -/
def filteredBy (s : MemorySource) (filters : List BoundFilter) : MemorySource :=
  if filters.isEmpty then s else { s with selections := s.selections ++ [filters] }

/-- Orders by further sorts, where the earlier ones leave entities equal. -/
def orderedBy (s : MemorySource) (sorts : List BoundSort) : MemorySource :=
  if sorts.isEmpty then s else { s with orderings := s.orderings ++ [sorts] }

/-- The elements that pass a test, in order; the first failing test is the result. -/
def keep {α : Type} (test : α → Except Fault Bool) : List α → Except Fault (List α)
  | [] => .ok []
  | x :: xs =>
    match test x with
    | .error e => .error e
    | .ok kept => (keep test xs).map fun ys => if kept then x :: ys else ys

/-- Whether an entity is in all selections, the first that it is not in settling it. -/
def selects (s : MemorySource) (entity : Value) : Except Fault Bool :=
  allHold (fun filters => s.schema.satisfies filters entity) s.selections

/-- The entities that are in all selections. -/
def matching (s : MemorySource) : Except Fault (List Value) := keep s.selects s.items

def count (s : MemorySource) : Except Fault Int := do
  return (← s.matching).length

/-- The order of two entities by several orderings, the first that tells them apart. -/
def orderByAll : List (List BoundSort) → Value → Value → Except Fault Ordering
  | [], _, _ => .ok .eq
  | sorts :: rest, x, y =>
    match orderBy sorts x y with
    | .ok .eq => orderByAll rest x y
    | r => r

/-- Entities in the order of all orderings, equal ones as they stood. -/
def arranged (s : MemorySource) (entities : List Value) : Except Fault (List Value) :=
  if s.orderings.isEmpty then .ok entities
  else Sorting.sort (fun x y => (orderByAll s.orderings x y).map (· == .lt)) entities

/-- The entities in order from a position on, at most `limit` of them. -/
def fetch (s : MemorySource) (offset limit : Int) : Except Fault (List Value) := do
  let ordered ← s.arranged (← s.matching)
  return slice ordered offset (offset + limit)

/-- The first entity with an identifier. -/
def findBy (path : List Field) (identifier : Value) : List Value → Except Fault (Option Value)
  | [] => .ok none
  | x :: xs =>
    match Value.compare .equal (FieldPath.follow path x) identifier with
    | .error e => .error (.incomparable e)
    | .ok true => .ok (some x)
    | .ok false => findBy path identifier xs

/-- The entity with an identifier, whatever the filters. -/
def find (s : MemorySource) (identifier : Value) : Except Fault (Option Value) :=
  match s.schema.identifier s.root with
  | .error e => .error e
  | .ok none =>
    match s.root.name? with
    | some name => .error (.noIdentifier name)
    | none => .error (.typeWithoutName s.root)
  | .ok (some f) => findBy [f] identifier s.items

end MemorySource

end PagedQuery
