import PagedQuery.Fault
import PagedQuery.Json.Basic
import PagedQuery.Value.Attribute

/-!
# Elements as plain data

How the elements of a page are written out. Entities with a form of their own use it; records become
mappings, also inside other records; other entities become mappings of their public attributes. An
attribute that takes the name of the form stands in its way.
-/

namespace PagedQuery.Value

/-- The mapping of a record of some fields, given what its attributes unfold to. -/
def recordMapping (type : String) (names : List String)
    (attributes : List (String × Except Fault Value)) : Except Fault Value := do
  let entries ← names.mapM fun n =>
    match lookup? n attributes with
    | some r => r.map fun v => (Value.text n, v)
    | none => Except.error (Fault.missingField type n)
  return .dict entries

mutual
/-- A value with the records in it as mappings. -/
def unfold : Value → Except Fault Value
  | .entity t form i fields =>
    match form.record with
    | some names => recordMapping t names (unfoldFields fields)
    | none => .ok (.entity t form i fields)
  | .list xs => do return .list (← unfoldAll xs)
  | .tuple xs => do return .tuple (← unfoldAll xs)
  | .dict entries => do return .dict (← unfoldEntries entries)
  | v => .ok v
def unfoldAll : List Value → Except Fault (List Value)
  | [] => .ok []
  | x :: xs => do return (← unfold x) :: (← unfoldAll xs)
def unfoldEntries : List (Value × Value) → Except Fault (List (Value × Value))
  | [] => .ok []
  | (k, v) :: rest => do return (k, ← unfold v) :: (← unfoldEntries rest)
def unfoldFields : List (String × Value) → List (String × Except Fault Value)
  | [] => []
  | (k, v) :: rest => (k, unfold v) :: unfoldFields rest
end

/-- An entity of a page as plain data. -/
def documentOf (v : Value) (form : EntityForm) (attributes : List (String × Value)) :
    Except Fault Value :=
  match lookup? formAttribute attributes with
  | some w => .error (.notCallable w.qualifiedTypeName)
  | none =>
    if form.custom then .ok (.dict [(.text "custom", .bool true)])
    else if form.record.isSome then unfold v
    else .ok (.dict ((attributes.filter fun (n, _) => n.toList.head? != some '_').map fun (n, w) =>
      (.text n, w)))

/-- An element of a page as plain data. -/
def document (v : Value) : Except Fault Value :=
  match v with
  | .entity _ form _ attributes => documentOf v form attributes
  | .member .. | .code _ => .ok (.dict [])
  | .isbn digits => .ok (.dict [(.text "digits", .text digits)])
  | v => .ok v

end PagedQuery.Value
