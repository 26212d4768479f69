import PagedQuery.Query.Request
import PagedQuery.Sorting
import PagedQuery.Yaml.Document

/-!
# Saved queries

Queries kept by name, with a description and the file that they come from. Queries are read from a
document that maps each name to its definition; a document is read as a whole or not at all.
-/

namespace PagedQuery

open PagedQuery.Text

/-- A query and what is said about it. -/
structure SavedQuery where
  query : PageQuery
  description : Value := .null
  deriving Inhabited

/-- The keys that a definition may have. -/
def definitionKeys : List String :=
  ["filter", "sort", "graph", "page_size", "page_number", "description"]

/-- The value under a key of a definition, null without it. -/
def definitionEntry (key : String) (definition : List (Value × Value)) : Value :=
  (valueAt? (.text key) definition).getD .null

/-- A value as a filter or sort parameter. -/
def ExpressionParameter.ofValue : Value → ExpressionParameter
  | .text s => .expression (some s)
  | v => .value v

/-- A value as a graph parameter, if it can be one. -/
def GraphParameter.ofValue? : Value → Option GraphParameter
  | .null => some (.expression none)
  | .text s => some (.expression (some s))
  | .dict entries => some (.mapping (entriesOfValues entries))
  | _ => none

/-- Refuses keys that a definition may not have. -/
def unknownKeys (name : Value) : List Value → Except Fault Unit
  | [] => .ok ()
  | keys => do
    let name ← name.written
    match Sorting.sort (fun k l => Value.compare .less k l) keys with
    | .error e => throw (.incomparable e)
    | .ok sorted =>
      match sorted.zipIdx.find? fun (k, _) => k.text?.isNone with
      | some (k, i) => throw (.definitionKeyType i k.qualifiedTypeName)
      | none => throw (.definitionKeys name (sorted.map (·.toText)))

/-- The keys of a definition that it may not have. -/
def strangeKeys (definition : List (Value × Value)) : List Value :=
  (definition.map (·.1)).filter fun k => !definitionKeys.any fun known => sameKey k (.text known)

/-- The parameters that a definition gives, with its graph. -/
def RequestParameters.ofDefinition (definition : List (Value × Value)) (graph : GraphParameter) :
    RequestParameters where
  pageSize := definitionEntry "page_size" definition
  pageNumber := definitionEntry "page_number" definition
  filter := .ofValue (definitionEntry "filter" definition)
  sort := .ofValue (definitionEntry "sort" definition)
  graph := graph

/-- The query of one definition. -/
def RequestPolicy.definition (policy : RequestPolicy) (name : Value) :
    Value → Except Fault SavedQuery
  | .dict entries => do
    unknownKeys name (strangeKeys entries)
    match GraphParameter.ofValue? (definitionEntry "graph" entries) with
    | none => throw (.definitionGraph (← name.written))
    | some graph =>
      let query ← policy.parse (.ofDefinition entries graph)
      let _ ← name.written
      return ⟨query, definitionEntry "description" entries⟩
  | v => do throw (.definitionShape (← name.written) v.typeName)

/-- The queries of definitions, after those read so far; the last one of a name counts. -/
def RequestPolicy.definitionsFrom (policy : RequestPolicy) (seen : List (String × SavedQuery)) :
    List (Value × Value) → Except Fault (List (String × SavedQuery))
  | [] => .ok seen
  | (name, v) :: rest => do
    let saved ← policy.definition name v
    policy.definitionsFrom (putEntry name.toText saved seen) rest

/-- The queries of a decoded document. -/
def RequestPolicy.definitions (policy : RequestPolicy) :
    Value → Except Fault (List (String × SavedQuery))
  | .dict entries => policy.definitionsFrom [] entries
  | v => .error (.savedShape v.typeName)

def Yaml.DocumentError.fault : Yaml.DocumentError → Fault
  | .unreadable .malformed => .malformedYaml
  | .unreadable (.codePoint code) => .yamlCodePoint code
  | .scalar e => .yamlScalar e

/-- The levels of a document of saved queries that are read one by one: the names, and the
definition of each. -/
def savedLevels : Nat := 2

/-- The queries of a document. -/
def RequestPolicy.read (policy : RequestPolicy) (document : String) :
    Except Fault (List (String × SavedQuery)) :=
  match Yaml.read savedLevels document with
  | .error e => .error e.fault
  | .ok v => policy.definitions v

/-- The saved queries, in the order in which their names first came. What is known of a name is kept
in three lists, under that name in each. -/
structure SavedQueries where
  queries : List (String × PageQuery) := []
  descriptions : List (String × Value) := []
  /-- For names that have come from a file, that file. -/
  origins : List (String × String) := []
  deriving Inhabited

namespace SavedQueries

variable (saved : SavedQueries)

def names : List String := saved.queries.map (·.1)

def contains (name : String) : Bool := (lookup? name saved.queries).isSome

/-- A query under a name, from a file if one is given. -/
def register (name : String) (query : SavedQuery) (origin : Option String) : SavedQueries :=
  { queries := putEntry name query.query saved.queries
    descriptions := putEntry name query.description saved.descriptions
    origins :=
      match origin with
      | some path => putEntry name path saved.origins
      | none => saved.origins }

/-- The query of a name. -/
def get (name : String) : Except Fault PageQuery :=
  match lookup? name saved.queries with
  | some query => .ok query
  | none => .error (.unknownQuery name)

/-- The description of a name's query. -/
def describe (name : String) : Except Fault Value := do
  let _ ← saved.get name
  return (lookup? name saved.descriptions).getD .null

/-- The file that a name's query has come from. -/
def origin? (name : String) : Option String := lookup? name saved.origins

/-! ## Loading -/

/-- Adds the queries of a document one after the other, and counts them. -/
def addDocument (policy : RequestPolicy) (origin : Option String) (document : String) :
    EStateM Fault SavedQueries Nat := do
  let queries ← MonadExcept.ofExcept (policy.read document)
  queries.forM fun (name, query) => modify (·.register name query origin)
  return queries.length

/-- The document of saved queries that a path leads to. -/
def documentOf (files : FileTree) (path : String) : Except Fault String :=
  match files.look path with
  | .error e => .error (.file e)
  | .ok none => .error (.queriesFileMissing (cleanPath path))
  | .ok (some .directory) => .error (.file (.isDirectory (cleanPath path)))
  | .ok (some (.file document)) => .ok document

/-- Adds the queries of a file, and counts them. -/
def addFile (policy : RequestPolicy) (files : FileTree) (path : String) :
    EStateM Fault SavedQueries Nat := do
  addDocument policy (some (cleanPath path)) (← MonadExcept.ofExcept (documentOf files path))

/-- The queries after something is added to them, and what it gives. -/
def adding (action : EStateM Fault SavedQueries Nat) : Except Fault (SavedQueries × Nat) :=
  match action.run saved with
  | .ok n added => .ok (added, n)
  | .error e _ => .error e

/-- The queries with those of a document, and their number. -/
def load (policy : RequestPolicy) (origin : Option String) (document : String) :
    Except Fault (SavedQueries × Nat) := saved.adding (addDocument policy origin document)

/-- The queries with those of a file, and their number. -/
def loadFile (policy : RequestPolicy) (files : FileTree) (path : String) :
    Except Fault (SavedQueries × Nat) := saved.adding (addFile policy files path)

end SavedQueries

end PagedQuery
