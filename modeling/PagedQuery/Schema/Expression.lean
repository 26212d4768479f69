import PagedQuery.Schema.Expression.Evaluation

/-!
# Type expressions

Types written as texts. Only names that every expression knows are known; alternatives, element
types and nested texts may be written, and whatever else gives a type or stands in the place of one.
-/

namespace PagedQuery

open PagedQuery.Text

namespace Expression

/-- The text that is read as a term: items to be spread give their only one. -/
def spelledOut (source : String) : String :=
  if source.toList.head? = some '*' then "(" ++ source ++ ",)\x5b0\x5d" else source

/-- The term of a text. -/
def parse (source : String) : Except ExpressionError Term :=
  if source = "" then .error .empty
  else if source.toList.contains '\x00' then .error .zeroCharacter
  else
    match term? (spelledOut source) with
    | some t => .ok t
    | none => .error (.malformed source)

end Expression

mutual
/-- A type with the expressions in it looked up. -/
def FieldType.lookUpWith (look : String → Except ExpressionError FieldType) :
    FieldType → Except ExpressionError FieldType
  | .expression s | .forward s => look s
  | .missing => .ok .nothing
  | .generic capitalized c ts => do return .generic capitalized c (← lookUpElements look ts)
  | .union spelled ts => do return .unionOf spelled (← lookUpElements look ts)
  | .classWide t => do return .classWide (← t.lookUpWith look)
  | t => .ok t
/-- The element types of a type; a missing value stays one. -/
def lookUpElements (look : String → Except ExpressionError FieldType) :
    List FieldType → Except ExpressionError (List FieldType)
  | [] => .ok []
  | .missing :: ts => do return .missing :: (← lookUpElements look ts)
  | t :: ts => do
    let t ← t.lookUpWith look
    return t :: (← lookUpElements look ts)
end

namespace Expression

/-- The type that a text names; texts within it are looked up in turn, up to a depth. -/
def typeWithin : Nat → String → Except ExpressionError FieldType
  | 0, _ => .error .meaningless
  | depth + 1, source => do
    match ← meaningOf (← parse source) with
    | .type t => t.lookUpWith (typeWithin depth)
    | .none => return .nothing
    | .text s => typeWithin depth s
    | .tuple _ => throw .meaningless
    | m => m.element.lookUpWith (typeWithin depth)

def typeOf (source : String) : Except ExpressionError FieldType := typeWithin 100 source

end Expression

/-- A type with the expressions in it looked up. -/
def FieldType.lookUp (t : FieldType) : Except ExpressionError FieldType :=
  t.lookUpWith Expression.typeOf

end PagedQuery
