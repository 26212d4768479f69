import PagedQuery.Plan.Basic
import PagedQuery.Sorting

/-!
# Orderings

The order in which bound sorts put entities. A missing value comes before all others; later sorts
only order what earlier ones leave equal.
-/

namespace PagedQuery

/-- The order of two values: a missing one is least, and values of which neither is greater are
equal. -/
def Value.order (a b : Value) : Except Fault Ordering :=
  if a.isNull || b.isNull then
    .ok (Ord.compare (!a.isNull).toNat (!b.isNull).toNat)
  else
    let (a, b) := align a b
    match Value.compare .greater a b, Value.compare .less a b with
    | .error e, _ | _, .error e => .error (.incomparable e)
    | .ok greater, .ok less => .ok (Ord.compare greater.toNat less.toNat)

namespace BoundSort

/-- The order of two entities by one sort. A sequence is equal to itself, whatever its elements
are. -/
def order (b : BoundSort) (x y : Value) : Except Fault Ordering :=
  let found := b.path.get x
  (if x.isSame y && found.isSequence then .ok .eq else Value.order found (b.path.get y)).map fun o =>
    if b.isDescending then o.swap else o

end BoundSort

/-- The order of two entities by several sorts, the first that tells them apart. -/
def orderBy : List BoundSort → Value → Value → Except Fault Ordering
  | [], _, _ => .ok .eq
  | b :: bs, x, y =>
    match b.order x y with
    | .ok .eq => orderBy bs x y
    | r => r

/-- The entities in the order of the sorts, equal ones as they stood. -/
def arrange (sorts : List BoundSort) (entities : List Value) : Except Fault (List Value) :=
  if sorts.isEmpty then .ok entities
  else Sorting.sort (fun x y => (orderBy sorts x y).map (· == .lt)) entities

end PagedQuery
