import PagedQuery.Json.Basic
import PagedQuery.Text.Utf8
import PagedQuery.Value.Order

/-!
# Schemas

Enumerations and entity types, as they are declared.
-/

namespace PagedQuery

open PagedQuery.Number PagedQuery.Text

/-- An enumeration: its members in order, and the member that each declared name stands for. A name
whose value equals an earlier one is another name of that member. -/
structure Enumeration where
  name : String
  base : EnumBase
  members : List (String × Value)
  aliases : List (String × String)
  deriving Inhabited

namespace Enumeration

/-- The arguments that a declared value gives: those of a tuple, or itself. -/
def arguments : Value → List Value
  | .tuple vs => vs
  | v => [v]

/-- The integer of arguments: a number without its fraction, or a text in a base. -/
def integerOf? : List Value → Option Int
  | [] => some 0
  | [.bool b] => some (if b then 1 else 0)
  | [.int n] => some n
  | [.uuid n] => some n
  | [.float x] =>
    match FloatParts.ofFloat x with
    | .finite negative m e => some (truncateFloat negative m e)
    | _ => none
  | [.decimal (.finite negative c e)] => some (Decimal.truncate negative c e)
  | [.text s] => (readLoose s).toOption
  | [.bytes bs] => (readLoose (Text.ofBytes "latin-1" bs)).toOption
  | [.text s, .int base] => (readIn base.toNat s).toOption
  | _ => none

/-- The float of arguments: a number, or the text of one. -/
def floatOf? : List Value → Option Float
  | [] => some 0.0
  | [.bool b] => some (if b then 1.0 else 0.0)
  | [.int n] =>
    let x := floatOfDecimal n.natAbs 0
    some (if n < 0 then -x else x)
  | [.float x] => some x
  | [.decimal d] => readFloat? d.text
  | [.text s] => readFloat? s
  | [.bytes bs] => readFloat? (Text.ofBytes "latin-1" bs)
  | _ => none

/-- The text of arguments: of a value, or of bytes in an encoding. -/
def textOf? : List Value → Option String
  | [] => some ""
  | [v] => some v.toText
  | .bytes bs :: .text encoding :: _ => some (Text.ofBytes encoding bs)
  | _ => none

/-- The value of a member in an enumeration of integers or floats or texts. -/
def memberValue (base : EnumBase) (v : Value) : Value :=
  match base with
  | .integer => ((integerOf? (arguments v)).map .int).getD v
  | .float => ((floatOf? (arguments v)).map .float).getD v
  | .text | .string => ((textOf? (arguments v)).map .text).getD v
  | .plain => v

/-- Whether two member values are the same one. -/
def sameValue (v w : Value) : Bool :=
  match Value.compare .equal v w with
  | .ok b => b
  | .error _ => false

/-- An enumeration of declared members. -/
def ofMembers (name : String) (base : EnumBase) (declared : List (String × Value)) : Enumeration :=
  declared.foldl (fun e (n, v) =>
    let v := memberValue base v
    match e.members.find? fun (_, w) => sameValue v w with
    | some (first, _) => { e with aliases := e.aliases ++ [(n, first)] }
    | none => { e with members := e.members ++ [(n, v)], aliases := e.aliases ++ [(n, n)] })
    ⟨name, base, [], []⟩

/-- The member that a declared name stands for. -/
def member? (e : Enumeration) (name : String) : Option Value := do
  let (_, first) ← e.aliases.find? (·.1 == name)
  let (n, v) ← e.members.find? (·.1 == first)
  return .member e.name e.base n v

def values (e : Enumeration) : List Value := e.members.map fun (n, v) => .member e.name e.base n v

end Enumeration

/-- An entity type as it is declared. -/
structure EntityType where
  name : String
  fields : List (String × FieldType)
  bases : List String := []
  kind : EntityKind := .plain
  /-- Fields that a new entity need not be given. -/
  optional : List String := []
  deriving Inhabited

/-- A column or relation of a stored entity type. -/
structure StoredField where
  name : String
  type : FieldType
  many : Bool := false
  relation : Bool := false
  deriving Inhabited

/-- An entity type whose fields are those of a table. -/
structure StoredType where
  name : String
  fields : List StoredField
  identifier : Option String
  deriving Inhabited

structure Schema where
  enumerations : List Enumeration := []
  types : List EntityType := []
  stored : List StoredType := []
  /-- Types without a name that paths have led to before. -/
  nameless : List FieldType := []
  deriving Inhabited

namespace Schema

def enumeration? (s : Schema) (name : String) : Option Enumeration :=
  s.enumerations.find? (·.name == name)

def type? (s : Schema) (name : String) : Option EntityType := s.types.find? (·.name == name)

def stored? (s : Schema) (name : String) : Option StoredType := s.stored.find? (·.name == name)

/-- The first candidate that stands in no list except at its head. -/
def nextBase? (lists : List (List String)) : Option String :=
  lists.findSome? fun
    | [] => none
    | head :: _ => if lists.any fun l => (l.drop 1).contains head then none else some head

/-- One list that keeps the order of all lists. -/
def mergeBases : Nat → List (List String) → List String
  | 0, _ => []
  | fuel + 1, lists =>
    match nextBase? lists with
    | none => []
    | some b =>
      b :: mergeBases fuel (lists.map fun l => if l.head? = some b then l.drop 1 else l)

/-- A type and the types it extends, nearest first. -/
def lineage (s : Schema) : Nat → String → List String
  | 0, name => [name]
  | fuel + 1, name =>
    match s.type? name with
    | none => [name]
    | some t =>
      let lists := t.bases.map (s.lineage fuel) ++ [t.bases]
      name :: mergeBases lists.flatten.length lists

/-- The declared types of a lineage, nearest first. -/
def ancestry (s : Schema) (name : String) : List EntityType :=
  (s.lineage s.types.length name).filterMap s.type?

/-- The nearest type of records among a type and those it extends. -/
def recordType? (s : Schema) (name : String) : Option EntityType :=
  (s.ancestry name).find? (·.kind == .record)

/-- The fields of a record type, inherited ones first. -/
def recordFields (s : Schema) (name : String) : List String :=
  ((s.ancestry name).reverse.filter (·.kind == .record)).foldl (fun seen t =>
    t.fields.foldl (fun seen (n, type) =>
      match type with
      | .classWide _ => seen
      | _ => if seen.contains n then seen else seen ++ [n]) seen) []

/-- How entities of a type are written out. -/
def formOf (s : Schema) (name : String) : EntityForm where
  record := (s.recordType? name).map fun t => s.recordFields t.name
  custom := (s.ancestry name).any (·.kind == .custom)

/-- An entity of a type with attributes, the last one of a name counting. -/
def newEntity (s : Schema) (type : String) (identity : Nat) (attributes : List (String × Value)) :
    Value :=
  .entity type (s.formOf type) identity
    (attributes.foldl (fun fields (name, v) => putEntry name v fields) [])

end Schema

end PagedQuery
