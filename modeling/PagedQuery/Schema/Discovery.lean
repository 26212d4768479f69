import PagedQuery.Fault
import PagedQuery.Json.Basic
import PagedQuery.Schema.Basic
import PagedQuery.Schema.Expression
import PagedQuery.Value.Attribute

/-!
# Field tables

The fields of an entity type under the names by which requests call them: every attribute is found
under its name with the first letter in upper case and under its name as one word.
-/

namespace PagedQuery

open PagedQuery.Text

/-- One attribute of an entity type. -/
structure Field where
  name : String
  /-- The declared type; for a collection the type of its elements. -/
  type : FieldType
  many : Bool := false
  /-- Whether it leads to entities of another type. -/
  relation : Bool := false
  deriving Repr, DecidableEq, Inhabited

namespace FieldType

/-- A type that may be missing as the type it is otherwise. -/
def unwrapOptional (t : FieldType) : FieldType :=
  match t with
  | .union _ members => unionOf true (members.filter (· != .nothing))
  | t => t

/-- The field of a declared type; types that belong to the class are no fields. -/
def describe? (name : String) (declared : FieldType) : Option Field :=
  match declared with
  | .classWide _ => none
  | declared =>
    some <|
      match declared.unwrapOptional with
      | .generic _ c elements =>
        if c.isCollection then
          let element := (elements.head?.map unwrapOptional).getD .any
          ⟨name, element, true, !element.isDirect⟩
        else ⟨name, .any, false, false⟩
      | .bare c => ⟨name, .any, c.isCollection, false⟩
      | .union spelled members => ⟨name, .union spelled members, false, false⟩
      | .expression _ => ⟨name, .any, false, false⟩
      | t => ⟨name, t, false, !t.isDirect⟩

end FieldType

/-- The table of one entity type. -/
structure EntityModel where
  type : FieldType
  /-- Fields by request name, in order of discovery. -/
  fields : List (String × Field)
  identifier : Option Field
  deriving Inhabited

/-- The field of a request name. -/
def EntityModel.lookup (m : EntityModel) (name : String) : Option Field :=
  lookup? (normalizeProperty name) m.fields

/-- The attributes of a table, each once. -/
def EntityModel.names (m : EntityModel) : List String :=
  m.fields.foldl (fun seen (_, f) => if seen.contains f.name then seen else seen ++ [f.name]) []

/-- Adds an entry under a key that is still free. -/
def putNew {α : Type} (key : String) (value : α) (entries : List (String × α)) :
    List (String × α) :=
  if (lookup? key entries).isSome then entries else entries ++ [(key, value)]

/-- The table of attributes: each under its two names, the first claim to a name winning. -/
def fieldTable (attributes : List (String × Field)) : List (String × Field) :=
  attributes.foldl (fun table (name, f) =>
    putNew (pascalCase name) f (putNew (normalizeProperty name) f table)) []

namespace Schema

/-- The declared types of all attributes, inherited ones first. -/
def declarations (s : Schema) (name : String) : List (String × FieldType) :=
  ((s.ancestry name).reverse.flatMap (·.fields)).foldl (fun seen (n, t) => putEntry n t seen) []

/-- The declared types with all expressions looked up. Where one of them has no meaning, all
of them stay as they are written. -/
def resolvedDeclarations (s : Schema) (name : String) :
    Except Fault (List (String × FieldType)) :=
  let declared := s.declarations name
  let all := (s.ancestry name).reverse.flatMap (·.fields)
  match all.mapM fun (n, t) => do return (n, ← t.lookUp) with
  | .ok resolved => .ok (resolved.foldl (fun seen (n, t) => putEntry n t seen) [])
  | .error .meaningless => .ok declared
  | .error e => .error (.expression e)

/-- The attributes of an entity type in order of discovery. -/
def attributes (s : Schema) (name : String) : Except Fault (List (String × Field)) :=
  match s.stored? name with
  | some t => .ok (t.fields.map fun f => (f.name, ⟨f.name, f.type, f.many, f.relation⟩))
  | none => do
    let declared ← s.resolvedDeclarations name
    return (declared.filter fun (n, _) => n.toList.head? != some '_').filterMap fun (n, t) =>
      (t.describe? n).map (n, ·)

/-- The table of a type; types that are compared directly have no fields. -/
def model (s : Schema) (type : FieldType) : Except Fault EntityModel := do
  if !type.isKey then throw (.noTableKey type.formName)
  let name? := match type with
    | .entity name => some name
    | _ => none
  let attributes ← match name? with
    | some name => s.attributes name
    | none => pure []
  let table := fieldTable attributes
  let identifier :=
    match name?.bind s.stored? with
    | some t => t.identifier.bind fun n => lookup? n attributes
    | none => lookup? "Id" table
  return ⟨type, table, identifier⟩

end Schema

/-- A path of request names found on a root type, one field for each segment. -/
structure FieldPath where
  root : FieldType
  fields : List Field
  deriving Repr, DecidableEq, Inhabited

namespace FieldPath

/-- The declared type at the end of the path. -/
def valueType (p : FieldPath) : FieldType := (p.fields.getLast?.map (·.type)).getD .any

/-- The dotted attribute names. -/
def attributePath (p : FieldPath) : String := String.intercalate "." (p.fields.map (·.name))

/-- The dotted request names in one spelling. -/
def key (p : FieldPath) : String :=
  String.intercalate "." (p.fields.map fun f => pascalCase f.name)

/-- The value at the end of the attributes, missing if one on the way is. -/
def follow : List Field → Value → Value
  | [], v => v
  | f :: rest, v => if v.isNull then .null else follow rest ((v.attribute? f.name).getD .null)

/-- Nothing is found beyond a missing value. -/
theorem follow_eq_null {fields : List Field} {v : Value} (h : v.isNull) :
    follow fields v = .null := by
  cases fields with
  | nil =>
    cases v with
    | null => rfl
    | _ => cases h
  | cons f rest => rw [follow, if_pos h]

/-- The value of an entity at the end of the path. -/
def get (p : FieldPath) (entity : Value) : Value := follow p.fields entity

end FieldPath

/-- What a path is for: a value to compare, or relations to load. -/
inductive PathMode
  | value
  | inclusion
  deriving Repr, DecidableEq

namespace Schema

/-- Whether a path may lead to the type: to one without a name only if one has before. -/
def isReachable (s : Schema) (type : FieldType) : Bool :=
  type.name?.isSome || FieldType.inSome s.nameless type

/-- The fields that segments name from a type on. Value paths cross no collection and end at no
relation. -/
def fieldsOf? (s : Schema) (mode : PathMode) :
    FieldType → List String → Except Fault (Option (List Field))
  | _, [] => .ok (some [])
  | current, segment :: rest =>
    if segment = "" then .ok none
    else
      match s.model current with
      | .error e => .error e
      | .ok m =>
        if !s.isReachable current then .error (.typeWithoutName current)
        else
          match m.lookup segment with
          | none => .ok none
          | some f =>
            if mode = .value ∧ (f.many ∨ (rest = [] ∧ f.relation)) then .ok none
            else
              match s.fieldsOf? mode f.type rest with
              | .error e => .error e
              | .ok fields? => .ok (fields?.map (f :: ·))

/-- The path of request names from a root type, if each segment is found. -/
def resolve (s : Schema) (mode : PathMode) (root : FieldType) (path : String) :
    Except Fault (Option FieldPath) :=
  if path = "" then .ok none
  else
    match s.fieldsOf? mode root (split '.' path) with
    | .error e => .error e
    | .ok none =>
      if root.name?.isSome then .ok none else .error (.typeWithoutName root)
    | .ok (some fields) => .ok (some ⟨root, fields⟩)

/-- The schema after an outcome: a type without a name that a path has led to is known. -/
def after {α : Type} (s : Schema) : Except Fault α → Schema
  | .error (.typeWithoutName t) => { s with nameless := t :: s.nameless }
  | _ => s

/-- Paths resolved one after the other. -/
def resolveEach (s : Schema) (mode : PathMode) (root : FieldType) :
    List String → List (Except Fault (Option FieldPath))
  | [] => []
  | path :: paths =>
    let found := s.resolve mode root path
    found :: (s.after found).resolveEach mode root paths

/-- The identifier of entities of a type, if it has one. -/
def identifier (s : Schema) (type : FieldType) : Except Fault (Option Field) := do
  return (← s.model type).identifier

end Schema

end PagedQuery
