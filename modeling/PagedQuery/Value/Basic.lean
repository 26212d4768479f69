import PagedQuery.Identifier
import PagedQuery.Number.Binary64
import PagedQuery.Schema.FieldType
import PagedQuery.Text.Quoted
import PagedQuery.Time.Calendar

/-!
# Values

The values that attributes, documents and filters can hold, and their texts.
-/

namespace PagedQuery

open PagedQuery.Number PagedQuery.Text PagedQuery.Time

/-- What the members of an enumeration are besides being members. -/
inductive EnumBase
  | plain
  /-- Members are integers and print as such. -/
  | integer
  /-- Members are texts and print as such. -/
  | string
  /-- Members are texts and print as members. -/
  | text
  /-- Members are floats and print as members. -/
  | float
  deriving Repr, DecidableEq, Inhabited

/-- How entities of a type are declared to be written out. -/
inductive EntityKind
  | plain
  /-- Field by field. -/
  | record
  /-- By a form of its own. -/
  | custom
  deriving Repr, DecidableEq, Inhabited

/-- How an entity is written out. -/
structure EntityForm where
  /-- The fields of a record in the order of their declaration; none for other entities. -/
  record : Option (List String) := none
  /-- Whether the entity has a form of its own, which wins over the one of records. -/
  custom : Bool := false
  deriving Repr, DecidableEq, Inhabited

/-- A value of which only its class and its texts are known. -/
structure OtherValue where
  className : String
  /-- The name of the class with the module it comes from, where that is shown. -/
  qualifiedName : String
  /-- The text that shows the value inside another one. -/
  shown : String
  text : String
  deriving Repr, DecidableEq, Inhabited

/-- A value of a class with one text. -/
def OtherValue.ofClass (name shown : String) : OtherValue := ⟨name, name, shown, shown⟩

inductive Value
  | null
  | bool (b : Bool)
  | int (n : Int)
  | float (x : Float)
  | decimal (d : Decimal)
  | text (s : String)
  /-- A text of a class of its own. -/
  | code (s : String)
  | bytes (bs : List UInt8)
  | date (d : Date)
  | dateTime (t : DateTime)
  | time (t : TimeOfDay)
  | span (micros : Int)
  | uuid (n : Nat)
  | isbn (digits : String)
  | wrapped (n : Int)
  | list (xs : List Value)
  | tuple (xs : List Value)
  | set (xs : List Value)
  | dict (entries : List (Value × Value))
  /-- A list or mapping around this place, held by itself. -/
  | enclosing (mapping : Bool)
  | member (enumeration : String) (base : EnumBase) (name : String) (value : Value)
  /-- Entities are told apart by their identity; the one that a conversion builds has number 0. -/
  | entity (type : String) (form : EntityForm) (identity : Nat) (fields : List (String × Value))
  | other (o : OtherValue)
  deriving Inhabited

namespace Value

def isNull : Value → Bool
  | .null => true
  | _ => false

/-- The name of a value's type. -/
def typeName : Value → String
  | .null => "NoneType"
  | .bool _ => "bool"
  | .int _ => "int"
  | .float _ => "float"
  | .decimal _ => "Decimal"
  | .text _ => "str"
  | .code _ => "Code"
  | .bytes _ => "bytes"
  | .date _ => "date"
  | .dateTime _ => "datetime"
  | .time _ => "time"
  | .span _ => "timedelta"
  | .uuid _ => "UUID"
  | .isbn _ => "Isbn"
  | .wrapped _ => "Wrapped"
  | .list _ => "list"
  | .tuple _ => "tuple"
  | .set _ => "set"
  | .dict _ => "dict"
  | .enclosing mapping => if mapping then "dict" else "list"
  | .member e _ _ _ => e
  | .entity t _ _ _ => t
  | .other o => o.className

/-- The name of a value's type with the module it comes from, where that is shown. -/
def qualifiedTypeName (v : Value) : String :=
  match v with
  | .decimal _ => "decimal.Decimal"
  | .date _ => "datetime.date"
  | .dateTime _ => "datetime.datetime"
  | .time _ => "datetime.time"
  | .span _ => "datetime.timedelta"
  | .other o => o.qualifiedName
  | v => v.typeName

/-- The type of a value. -/
def type : Value → FieldType
  | .null => .nothing
  | .bool _ => .scalar .bool
  | .int _ => .scalar .int
  | .float _ => .scalar .float
  | .decimal _ => .scalar .decimal
  | .text _ => .scalar .text
  | .code _ => .code
  | .bytes _ => .scalar .bytes
  | .date _ => .scalar .date
  | .dateTime _ => .scalar .dateTime
  | .time _ => .scalar .time
  | .span _ => .scalar .span
  | .uuid _ => .scalar .uuid
  | .isbn _ => .isbn
  | .wrapped _ => .wrapped
  | .list _ => .plain .list
  | .tuple _ => .plain .tuple
  | .set _ => .plain .set
  | .dict _ => .plain .dict
  | .enclosing mapping => .plain (if mapping then .dict else .list)
  | .member e _ _ _ => .enumeration e
  | .entity t _ _ _ => .entity t
  | .other o => .foreign o.className

/-- The characters of a value that is a text. -/
def text? : Value → Option String
  | .text s | .code s => some s
  | .member _ .string _ (.text s) | .member _ .text _ (.text s) => some s
  | _ => none

/-- Whether a value counts as one: zeros, empty texts and empty collections do not. -/
def isTruthy : Value → Bool
  | .null => false
  | .bool b => b
  | .int n | .span n => n != 0
  | .float x => x != 0.0
  | .decimal (.finite _ c _) => c != 0
  | .text s | .code s => s != ""
  | .bytes bs => !bs.isEmpty
  | .list xs | .tuple xs | .set xs => !xs.isEmpty
  | .dict entries => !entries.isEmpty
  | .member _ base _ v => base == .plain || isTruthy v
  | _ => true

/-- Whether two values are one entity. -/
def isSame : Value → Value → Bool
  | .entity _ _ i _, .entity _ _ j _ => i == j && i != 0
  | _, _ => false

/-- The arguments of a time with its trailing zeros left out. -/
def clockArguments (t : TimeOfDay) : List String :=
  [toString t.hour, toString t.minute] ++
    (if t.second = 0 ∧ t.micro = 0 then [] else [toString t.second]) ++
    (if t.micro = 0 then [] else [toString t.micro]) ++
    (match t.offset with
     | none => []
     | some 0 => ["tzinfo=datetime.timezone.utc"]
     | some o => ["tzinfo=datetime.timezone(" ++ spanParts o ++ ")"])

def dateArguments (d : Date) : List String := [toString d.year, toString d.month, toString d.day]

def call (name : String) (arguments : List String) : String :=
  name ++ "(" ++ String.intercalate ", " arguments ++ ")"

/-- An entity without fields to show, by its type and a number of its own. -/
def objectText (type : String) (identity : Nat) : String :=
  "<" ++ type ++ " object at 0x" ++ hexText 12 (0x7f6000000000 + 16 * identity) ++ ">"

def braces (inner : String) : String := "\x7b" ++ inner ++ "\x7d"

mutual
/-- The text that shows a value inside another one. -/
def quoted : Value → String
  | .null => "None"
  | .bool b => if b then "True" else "False"
  | .int n => toString n
  | .float x => floatText x
  | .decimal d => call "Decimal" [Text.quoted d.text]
  | .text s => Text.quoted s
  | .code s => Text.quoted s
  | .bytes bs => quotedBytes bs
  | .date d => call "datetime.date" (dateArguments d)
  | .dateTime t => call "datetime.datetime" (dateArguments t.date ++ clockArguments t.time)
  | .time t => call "datetime.time" (clockArguments t)
  | .span us => spanParts us
  | .uuid n => call "UUID" [Text.quoted (Identifier.text n)]
  | .isbn s => call "Isbn" [Text.quoted s]
  | .wrapped n => call "Wrapped" [toString n]
  | .list xs => "[" ++ String.intercalate ", " (quotedAll xs) ++ "]"
  | .tuple xs =>
    let parts := quotedAll xs
    "(" ++ String.intercalate ", " parts ++ (if parts.length = 1 then ",)" else ")")
  | .set xs =>
    if xs.isEmpty then "set()" else braces (String.intercalate ", " (quotedAll xs))
  | .dict entries => braces (String.intercalate ", " (quotedEntries entries))
  | .enclosing mapping => if mapping then braces "..." else "[...]"
  | .member e _ name v => "<" ++ e ++ "." ++ name ++ ": " ++ quoted v ++ ">"
  | .entity t form i fields =>
    match form.record with
    | none => objectText t i
    | some names =>
      let shown := quotedFields fields
      call t (names.filterMap fun n =>
        (shown.find? (·.1 == n)).map fun (_, part) => n ++ "=" ++ part)
  | .other o => o.shown
def quotedAll : List Value → List String
  | [] => []
  | x :: xs => quoted x :: quotedAll xs
def quotedEntries : List (Value × Value) → List String
  | [] => []
  | (k, v) :: rest => (quoted k ++ ": " ++ quoted v) :: quotedEntries rest
def quotedFields : List (String × Value) → List (String × String)
  | [] => []
  | (k, v) :: rest => (k, quoted v) :: quotedFields rest
end

mutual
/-- The type and the name of a field that is missing where a value is shown inside another one. -/
def unshown? : Value → Option (String × String)
  | .list xs | .tuple xs | .set xs => unshownAmong? xs
  | .dict entries => unshownEntry? entries
  | .entity t form _ fields =>
    let found := unshownFields fields
    (form.record.getD []).findSome? fun n =>
      match found.find? (·.1 == n) with
      | none => some (t, n)
      | some (_, r) => r
  | _ => none
def unshownAmong? : List Value → Option (String × String)
  | [] => none
  | x :: xs => (unshown? x).orElse fun _ => unshownAmong? xs
def unshownEntry? : List (Value × Value) → Option (String × String)
  | [] => none
  | (k, v) :: rest =>
    ((unshown? k).orElse fun _ => unshown? v).orElse fun _ => unshownEntry? rest
def unshownFields : List (String × Value) → List (String × Option (String × String))
  | [] => []
  | (k, v) :: rest => (k, unshown? v) :: unshownFields rest
end

mutual
/-- Whether the text that shows a value inside another one has an integer that is too long. -/
def showsLong : Value → Bool
  | .int n | .wrapped n => isLong n
  | .list xs | .tuple xs | .set xs => someShowLong xs
  | .dict entries => someEntryShowsLong entries
  | .member _ _ _ v => showsLong v
  | .entity _ form _ fields => someFieldShowsLong (form.record.getD []) fields
  | _ => false
def someShowLong : List Value → Bool
  | [] => false
  | x :: xs => showsLong x || someShowLong xs
def someEntryShowsLong : List (Value × Value) → Bool
  | [] => false
  | (k, v) :: rest => showsLong k || showsLong v || someEntryShowsLong rest
def someFieldShowsLong (names : List String) : List (String × Value) → Bool
  | [] => false
  | (k, v) :: rest => (names.contains k && showsLong v) || someFieldShowsLong names rest
end

/-- The text of a value. -/
def toText : Value → String
  | .text s | .code s => s
  | .decimal d => d.text
  | .date d => d.text
  | .dateTime t => t.textWith " "
  | .time t => t.text
  | .span us => spanText us
  | .uuid n => Identifier.text n
  | .isbn s => s
  | .member _ .integer _ (.int n) => toString n
  | .member _ .string _ (.text s) => s
  | .member e _ name _ => e ++ "." ++ name
  | .other o => o.text
  | v => v.quoted

end Value

end PagedQuery
