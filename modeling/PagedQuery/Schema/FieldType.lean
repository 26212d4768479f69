import PagedQuery.Text.Quoted

/-!
# Types of fields

The types that a field can be declared with, as they are written in a schema and as they stand
after the forward references in them have been looked up.
-/

namespace PagedQuery

/-- Types whose values are compared directly. -/
inductive Scalar
  | text
  | int
  | float
  | bool
  | decimal
  | dateTime
  | date
  | time
  | span
  | uuid
  | bytes
  deriving Repr, DecidableEq, Inhabited

def Scalar.name : Scalar → String
  | .text => "str"
  | .int => "int"
  | .float => "float"
  | .bool => "bool"
  | .decimal => "Decimal"
  | .dateTime => "datetime"
  | .date => "date"
  | .time => "time"
  | .span => "timedelta"
  | .uuid => "UUID"
  | .bytes => "bytes"

def Scalar.all : List Scalar :=
  [.text, .int, .float, .bool, .decimal, .dateTime, .date, .time, .span, .uuid, .bytes]

/-- Containers that take element types. -/
inductive Container
  | list
  | tuple
  | set
  | frozenSet
  | sequence
  | mutableSequence
  | abstractSet
  | mutableSet
  | collection
  | iterable
  | dict
  | callable
  | deque
  /-- A class that takes arguments and is no container of values. -/
  | other (name : String)
  deriving Repr, DecidableEq, Inhabited

/-- The capitalized name of a container. -/
def Container.aliasName : Container → String
  | .list => "List"
  | .tuple => "Tuple"
  | .set => "Set"
  | .frozenSet => "FrozenSet"
  | .sequence => "Sequence"
  | .mutableSequence => "MutableSequence"
  | .abstractSet => "AbstractSet"
  | .mutableSet => "MutableSet"
  | .collection => "Collection"
  | .iterable => "Iterable"
  | .dict => "Dict"
  | .callable => "Callable"
  | .deque => "Deque"
  | .other name => name

/-- The name of the class behind a container. -/
def Container.className : Container → String
  | .list => "list"
  | .tuple => "tuple"
  | .set => "set"
  | .frozenSet => "frozenset"
  | .dict => "dict"
  | .deque => "deque"
  | .abstractSet => "Set"
  | c => c.aliasName

/-- Whether a field of this container holds many values of its element type. -/
def Container.isCollection : Container → Bool
  | .dict | .callable | .deque | .other _ => false
  | _ => true

/-- Something that stands in the place of a type and is none. -/
structure Thing where
  className : String
  /-- How messages show it. -/
  shown : String
  name? : Option String := none
  /-- Whether tables can be kept under it. -/
  isKey : Bool := true
  deriving Repr, DecidableEq, Inhabited

/-- Types of fields. -/
inductive FieldType
  | scalar (kind : Scalar)
  | any
  | object
  /-- The type of the missing value. -/
  | nothing
  | isbn
  | wrapped
  | code
  | enumeration (name : String)
  | entity (name : String)
  /-- A container class without element types. -/
  | plain (container : Container)
  /-- A container under its capitalized name without element types. -/
  | bare (container : Container)
  /-- A container with element types, under its capitalized name or not. -/
  | generic (capitalized : Bool) (container : Container) (elements : List FieldType)
  /-- One of several types; `spelled` tells apart `Union[a, b]` and `a | b`. -/
  | union (spelled : Bool) (members : List FieldType)
  /-- A type that belongs to the class and not to its instances. -/
  | classWide (type : FieldType)
  /-- A type given by an expression that has not been looked up. -/
  | forward (expression : String)
  /-- An expression that stands for itself. -/
  | expression (source : String)
  /-- The missing value where a type is expected. -/
  | missing
  /-- A class of which nothing but the name is known. -/
  | foreign (name : String)
  | thing (t : Thing)
  deriving Repr, Inhabited

namespace FieldType

mutual
/-- Whether two types are written in the same way. -/
def beq : FieldType → FieldType → Bool
  | .scalar k, .scalar k' => k == k'
  | .any, .any | .object, .object | .nothing, .nothing | .isbn, .isbn | .wrapped, .wrapped
  | .code, .code | .missing, .missing => true
  | .enumeration n, .enumeration n' | .entity n, .entity n' | .foreign n, .foreign n' => n == n'
  | .plain c, .plain c' | .bare c, .bare c' => c == c'
  | .generic a c ts, .generic a' c' ts' => a == a' && c == c' && beqAll ts ts'
  | .union spelled ts, .union spelled' ts' => spelled == spelled' && beqAll ts ts'
  | .classWide t, .classWide t' => beq t t'
  | .forward e, .forward e' | .expression e, .expression e' => e == e'
  | .thing t, .thing t' => t == t'
  | _, _ => false
def beqAll : List FieldType → List FieldType → Bool
  | [], [] => true
  | t :: ts, t' :: ts' => beq t t' && beqAll ts ts'
  | _, _ => false
end

instance : BEq FieldType := ⟨beq⟩

mutual
theorem eq_of_beq : ∀ {t u : FieldType}, beq t u → t = u
  | .generic a c ts, u, h => by
    cases u with
    | generic a' c' ts' =>
      simp only [beq, Bool.and_eq_true, beq_iff_eq] at h
      rw [h.1.1, h.1.2, eq_of_beqAll h.2]
    | _ => cases h
  | .union spelled ts, u, h => by
    cases u with
    | union spelled' ts' =>
      simp only [beq, Bool.and_eq_true, beq_iff_eq] at h
      rw [h.1, eq_of_beqAll h.2]
    | _ => cases h
  | .classWide t, u, h => by
    cases u with
    | classWide t' =>
      simp only [beq] at h
      rw [eq_of_beq h]
    | _ => cases h
  | .scalar k, u, h | .enumeration k, u, h | .entity k, u, h | .plain k, u, h | .bare k, u, h
  | .forward k, u, h | .expression k, u, h | .foreign k, u, h | .thing k, u, h => by
    cases u <;> simp_all [beq]
  | .any, u, h | .object, u, h | .nothing, u, h | .isbn, u, h | .wrapped, u, h | .code, u, h
  | .missing, u, h => by
    cases u <;> first | rfl | cases h
theorem eq_of_beqAll : ∀ {ts us : List FieldType}, beqAll ts us → ts = us
  | [], [], _ => rfl
  | [], _ :: _, h | _ :: _, [], h => by cases h
  | t :: ts, u :: us, h => by
    simp only [beqAll, Bool.and_eq_true] at h
    rw [eq_of_beq h.1, eq_of_beqAll h.2]
end

mutual
theorem beq_self : ∀ t : FieldType, beq t t
  | .generic a c ts => by simp [beq, beqAll_self ts]
  | .union spelled ts => by simp [beq, beqAll_self ts]
  | .classWide t => by simp [beq, beq_self t]
  | .scalar _ | .enumeration _ | .entity _ | .plain _ | .bare _ | .forward _ | .expression _
  | .foreign _ | .thing _ => by simp [beq]
  | .any | .object | .nothing | .isbn | .wrapped | .code | .missing => rfl
theorem beqAll_self : ∀ ts : List FieldType, beqAll ts ts
  | [] => rfl
  | t :: ts => by simp [beqAll, beq_self t, beqAll_self ts]
end

instance : LawfulBEq FieldType where
  eq_of_beq := eq_of_beq
  rfl := beq_self _

instance : DecidableEq FieldType := fun t u => decidable_of_iff (t == u) beq_iff_eq

def str : FieldType := .scalar .text

/-- Fields of this type take a value of any kind. -/
def isUntyped : FieldType → Bool
  | .any | .object => true
  | _ => false

/-- Whether values of the type are compared directly; the others are navigated. Classes that are
no scalars are navigated, and what is not a class counts as compared. -/
def isDirect : FieldType → Bool
  | .nothing | .isbn | .wrapped | .entity _ | .plain _ | .foreign _ => false
  | _ => true

mutual
/-- Whether two types are the same one: the members of a union have no order, and both ways to
write a union mean the same. -/
def same : FieldType → FieldType → Bool
  | .union _ ts, .union _ us => eachIn ts us && us.all (inSome ts)
  | .generic a c ts, .generic b d us => a == b && c == d && sameAll ts us
  | .classWide t, .classWide u => same t u
  | t, u => t == u
def sameAll : List FieldType → List FieldType → Bool
  | [], [] => true
  | t :: ts, u :: us => same t u && sameAll ts us
  | _, _ => false
/-- Whether each type of the first list is one of the second. -/
def eachIn : List FieldType → List FieldType → Bool
  | [], _ => true
  | t :: ts, us => us.any (same t) && eachIn ts us
/-- Whether a type is one of a list. -/
def inSome : List FieldType → FieldType → Bool
  | [], _ => false
  | t :: ts, u => same t u || inSome ts u
end

mutual
/-- Whether tables can be kept under the type. -/
def isKey : FieldType → Bool
  | .thing t => t.isKey
  | .generic _ _ ts | .union _ ts => areKeys ts
  | _ => true
def areKeys : List FieldType → Bool
  | [] => true
  | t :: ts => t.isKey && areKeys ts
end

/-- A list with a type more, unless it is there. -/
def insertType (seen : List FieldType) (t : FieldType) : List FieldType :=
  if inSome seen t then seen else seen ++ [t]

/-- Flattened members, the first of equal ones kept. -/
def flattenUnion (members : List FieldType) : List FieldType :=
  (members.flatMap fun
    | .union _ inner => inner
    | t => [t]).foldl insertType []

/-- One of several types; a single one is that type, and with none the value is missing. -/
def unionOf (spelled : Bool) (members : List FieldType) : FieldType :=
  match flattenUnion members with
  | [] => .nothing
  | [t] => t
  | ts => .union spelled ts

/-- The type or nothing. -/
def optional (t : FieldType) : FieldType := unionOf true [t, .nothing]

mutual
/-- The type as messages show it in full. -/
def display : FieldType → String
  | .scalar .decimal => "decimal.Decimal"
  | .scalar .dateTime => "datetime.datetime"
  | .scalar .date => "datetime.date"
  | .scalar .time => "datetime.time"
  | .scalar .span => "datetime.timedelta"
  | .scalar .uuid => "uuid.UUID"
  | .scalar k => k.name
  | .any => "typing.Any"
  | .object => "object"
  | .nothing => "None"
  | .isbn => "Isbn"
  | .wrapped => "Wrapped"
  | .code => "Code"
  | .enumeration n => n
  | .entity n => n
  | .plain c => c.className
  | .bare c => "typing." ++ c.aliasName
  | .generic capitalized c ts =>
    (if capitalized then "typing." ++ c.aliasName else c.className) ++ "[" ++
      String.intercalate ", " (displayAll ts) ++ "]"
  | .union true ts => "typing.Union[" ++ String.intercalate ", " (displayAll ts) ++ "]"
  | .union false ts => String.intercalate " | " (displayAll ts)
  | .classWide t => "typing.ClassVar[" ++ t.display ++ "]"
  | .forward e => "ForwardRef(" ++ Text.quoted e ++ ")"
  | .expression e => Text.quoted e
  | .missing => "None"
  | .foreign n => n
  | .thing t => t.shown
def displayAll : List FieldType → List String
  | [] => []
  | t :: ts => t.display :: displayAll ts
end

/-- The name of the type, if it has one. -/
def name? : FieldType → Option String
  | .scalar k => some k.name
  | .any => some "Any"
  | .object => some "object"
  | .nothing => some "NoneType"
  | .isbn => some "Isbn"
  | .wrapped => some "Wrapped"
  | .code => some "Code"
  | .enumeration n | .entity n | .foreign n => some n
  | .plain c => some c.className
  | .bare c => some c.aliasName
  | .generic capitalized c _ => some (if capitalized then c.aliasName else c.className)
  | .union true ts =>
    some (if ts.length = 2 && ts.contains .nothing then "Optional" else "Union")
  | .classWide _ => some "ClassVar"
  | .thing t => t.name?
  | .union false _ | .forward _ | .expression _ | .missing => none

/-- The name by which messages call the type. -/
def label (t : FieldType) : String := t.name?.getD t.display

/-- The class of the type itself, for types that are no classes. -/
def formName : FieldType → String
  | .generic false (.other "Unpack") _ => "_UnpackGenericAlias"
  | .generic false _ _ => "GenericAlias"
  | .generic true .callable _ => "_CallableGenericAlias"
  | .generic true _ _ | .classWide _ => "_GenericAlias"
  | .bare .tuple => "_TupleType"
  | .bare .callable => "_CallableType"
  | .bare _ => "_SpecialGenericAlias"
  | .union true _ => "_UnionGenericAlias"
  | .union false _ => "UnionType"
  | .forward _ => "ForwardRef"
  | .expression _ => "str"
  | .missing => "NoneType"
  | .thing t => t.className
  | _ => "type"

end FieldType

end PagedQuery
