import PagedQuery.Schema.Expression

/-!
# Types as schemas write them

A written type is a name, a text, or a form around other written types. Forms under capitalized
names take texts as references that are looked up later; they check how many types they are given,
and that these are no class-wide ones.
-/

namespace PagedQuery

inductive TypeForm
  | type (t : FieldType)
  | missing
  | text (source : String)
  | optional (t : TypeForm)
  | oneOf (ts : List TypeForm)
  /-- Alternatives with bars between them. -/
  | alternatives (ts : List TypeForm)
  | classWide (t : TypeForm)
  | container (capitalized : Bool) (c : Container) (elements : List TypeForm)
  deriving Inhabited

namespace FieldType

/-- A type in a place that takes nothing but types. -/
def argument : FieldType → Except Fault FieldType
  | .missing => .ok .nothing
  | .expression s =>
    match Expression.parse s with
    | .ok _ => .ok (.forward s)
    | .error e => .error (.expression e)
  | .classWide t => .error (.classWideArgument (FieldType.classWide t).display)
  | t => .ok t

/-- Whether bars beside it give a spelled form. -/
def isSpelled : FieldType → Bool
  | .generic true _ _ | .bare _ | .forward _ | .classWide _ | .union true _ => true
  | _ => false

/-- The class of a type as messages about signs call it. -/
def operandName : FieldType → String
  | .enumeration _ => "EnumType"
  | .any => "_AnyMeta"
  | .generic false _ _ => "types.GenericAlias"
  | .union false _ => "types.UnionType"
  | t => t.formName

/-- Two alternatives with a bar between them. -/
def alternative (s t : FieldType) : Except Fault FieldType :=
  if s.isSpelled || t.isSpelled then do
    let s ← s.argument
    return .unionOf true [s, ← t.argument]
  else
    match s, t with
    | .expression _, _ | _, .expression _ | .missing, .missing =>
      .error (.noAlternative s.operandName t.operandName)
    | s, t => do
      let s ← s.argument
      return .unionOf false [s, ← t.argument]

end FieldType

/-- How many types a container under its capitalized name takes, if that is fixed. -/
def Container.arity? : Container → Option Nat
  | .tuple | .callable => none
  | .dict => some 2
  | _ => some 1

namespace TypeForm

/-- A container under its capitalized name. The result of a function is checked before its
arguments. -/
def spelledContainer (c : Container) (elements : List FieldType) : Except Fault FieldType :=
  match c with
  | .callable => do
    let result ← (elements.getLast?.getD .missing).argument
    let arguments ← elements.dropLast.mapM fun t =>
      match t with
      | .classWide _ => .ok t
      | t => t.argument
    return .generic true .callable (arguments ++ [result])
  | c => do
    let elements ← elements.mapM (·.argument)
    match c.arity? with
    | some n =>
      if elements.length = n then return .generic true c elements
      else throw (.wrongArity (FieldType.bare c).display elements.length n)
    | none => return .generic true c elements

mutual
/-- The type that a form stands for. -/
def toType : TypeForm → Except Fault FieldType
  | .type t => .ok t
  | .missing => .ok .missing
  | .text source => .ok (.expression source)
  | .optional t => do return (← (← t.toType).argument).optional
  | .oneOf ts => do
    if ts.isEmpty then throw .noMembers
    let members ← (← toTypes ts).mapM (·.argument)
    return .unionOf true members
  | .alternatives ts => do
    match ← toTypes ts with
    | [] => throw .noMembers
    | t :: ts => ts.foldlM FieldType.alternative t
  | .classWide t => do return .classWide (← (← t.toType).argument)
  | .container true c elements => do spelledContainer c (← toTypes elements)
  | .container false c elements => do return .generic false c (← toTypes elements)
def toTypes : List TypeForm → Except Fault (List FieldType)
  | [] => .ok []
  | t :: ts => do
    let t ← t.toType
    return t :: (← toTypes ts)
end

end TypeForm

end PagedQuery
