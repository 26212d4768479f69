import PagedQuery.Plan.Basic
import PagedQuery.Text.Search

/-!
# Predicates

What bound filters say about entities. A missing value matches no filter. Of several filters the
first one that does not match settles the matter.
-/

namespace PagedQuery

open PagedQuery.Text

namespace BoundFilter

/-- Compares a value with the expected one, moments aligned first. -/
def compare (b : BoundFilter) (op : Comparison) (actual expected : Value) : Except Fault Bool :=
  let (x, y) := align actual expected
  match Value.compare op x y with
  | .ok holds => .ok holds
  | .error .notANumber => .error (.incomparable .notANumber)
  | .error _ => .error (.notComparable b.clause.property actual.typeName b.clause.value)

/-- The value to compare with: a deferred one is converted to the type of what it is compared
with, unless that is a text. -/
def expected (s : Schema) (b : BoundFilter) (actual : Value) : Except Fault Value :=
  if b.deferred && actual.text?.isNone then s.convert b.clause.value actual.type
  else .ok b.value

/-- Whether a value that is there satisfies the filter. -/
def test (s : Schema) (b : BoundFilter) (actual : Value) : Except Fault Bool :=
  match b.clause.operator with
  | .like => actual.written.map fun text => occursIn b.value.toText.toList text.toList
  | .ilike =>
    actual.written.map fun text =>
      occursIn (foldChars b.value.toText.toList) (foldChars text.toList)
  | .compare op =>
    match b.expected s actual with
    | .error e => .error e
    | .ok expected => b.compare op actual expected

/-- Whether an entity satisfies the filter. -/
def holds (s : Schema) (b : BoundFilter) (entity : Value) : Except Fault Bool :=
  let actual := b.path.get entity
  if actual.isNull then .ok false else b.test s actual

end BoundFilter

/-- Whether all tests hold, the first that does not or fails settling it. -/
def allHold {α : Type} (test : α → Except Fault Bool) : List α → Except Fault Bool
  | [] => .ok true
  | a :: as =>
    match test a with
    | .ok true => allHold test as
    | r => r

namespace Schema

/-- Whether an entity satisfies all filters. -/
def satisfies (s : Schema) (filters : List BoundFilter) (entity : Value) : Except Fault Bool :=
  allHold (fun b => b.holds s entity) filters

end Schema

end PagedQuery
