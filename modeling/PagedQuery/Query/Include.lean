import PagedQuery.Json.Reader
import PagedQuery.Query.Clause
import PagedQuery.Text.Blank

/-!
# Include graphs

Trees of relations to load along with an entity. A key without a subtree is a leaf and names a
path to load; a key with an empty subtree names nothing.
-/

namespace PagedQuery

open PagedQuery.Text

inductive IncludeTree
  | leaf
  | node (children : List (String × IncludeTree))
  deriving Inhabited

abbrev IncludeGraph := List (String × IncludeTree)

namespace IncludeTree

mutual
/-- The dotted paths of a child's leaves. -/
def paths (path : String) : IncludeTree → List String
  | .leaf => [path]
  | .node children => pathsBelow (path ++ ".") children
/-- The dotted paths of the leaves of all children, in order. -/
def pathsBelow (base : String) : List (String × IncludeTree) → List String
  | [] => []
  | (key, child) :: rest =>
    paths (base ++ normalizeProperty key) child ++ pathsBelow base rest
end

mutual
/-- The graph as it appears inside a query's text. -/
def text : IncludeTree → String
  | .leaf => "None"
  | .node children => Value.braces (String.intercalate ", " (textOfAll children))
def textOfAll : List (String × IncludeTree) → List String
  | [] => []
  | (key, child) :: rest => (quoted key ++ ": " ++ text child) :: textOfAll rest
end

end IncludeTree

namespace IncludeGraph

/-- The paths that a graph loads, depth first. -/
def flatten (graph : IncludeGraph) : List String := IncludeTree.pathsBelow "" graph

def text (graph : IncludeGraph) : String := IncludeTree.text (.node graph)

end IncludeGraph

/-- The children under a key, none for a leaf or an absent key. -/
def childrenAt (key : String) (graph : IncludeGraph) : IncludeGraph :=
  match lookup? key graph with
  | some (.node children) => children
  | _ => []

/-- A graph with one more path. A leaf on the way gets a subtree; a key that is there already, with
a subtree or without, is left as it is at the end of the path. -/
def IncludeGraph.insert (graph : IncludeGraph) : List String → IncludeGraph
  | [] => graph
  | [key] => if (lookup? key graph).isSome then graph else putEntry key .leaf graph
  | key :: path => putEntry key (.node (insert (childrenAt key graph) path)) graph

/-- A graph as it is given: keys of any kind, and values that are mappings, missing, or neither. -/
inductive GraphSource
  | missing
  | mapping (entries : List (Value × GraphSource))
  | other
  deriving Inhabited

mutual
/-- The tree of a source: a missing value marks a leaf, a mapping has children, anything else
is left out. -/
def GraphSource.tree? : GraphSource → Option IncludeTree
  | .missing => some .leaf
  | .mapping entries => some (.node (treesOf [] entries))
  | .other => none
/-- The children given by entries, after those given so far. -/
def treesOf (seen : IncludeGraph) : List (Value × GraphSource) → IncludeGraph
  | [] => seen
  | (key, source) :: rest =>
    match source.tree? with
    | some tree => treesOf (putEntry key.toText tree seen) rest
    | none => treesOf seen rest
end

/-- The graph of a mapping. -/
def buildGraph (entries : List (Value × GraphSource)) : IncludeGraph := treesOf [] entries

mutual
/-- A decoded JSON value as a source of a graph. -/
def GraphSource.ofJson : Json → GraphSource
  | .null => .missing
  | .object fields => .mapping (entriesOfJson fields)
  | _ => .other
def entriesOfJson : List (String × Json) → List (Value × GraphSource)
  | [] => []
  | (key, v) :: rest => (.text key, GraphSource.ofJson v) :: entriesOfJson rest
end

mutual
/-- A value as a source of a graph. -/
def GraphSource.ofValue : Value → GraphSource
  | .null => .missing
  | .dict entries => .mapping (entriesOfValues entries)
  | _ => .other
def entriesOfValues : List (Value × Value) → List (Value × GraphSource)
  | [] => []
  | (key, v) :: rest => (key, GraphSource.ofValue v) :: entriesOfValues rest
end

/-- The graph of a JSON object; anything else gives none. -/
def parseGraph (expression : Option String) : Option IncludeGraph :=
  match expression with
  | none => none
  | some s =>
    if isBlankText s then none
    else
      match Json.read? s with
      | some (.object fields) => some (buildGraph (entriesOfJson fields))
      | _ => none

/-- Why a required graph is refused. -/
inductive GraphError
  | missing
  | malformed
  deriving Repr, DecidableEq

/-- The graph of a JSON object that the caller requires. -/
def parseRequiredGraph (expression : Option String) : Except GraphError IncludeGraph :=
  match expression with
  | none => .error .missing
  | some s =>
    if isBlankText s then .error .missing
    else
      match Json.read? s with
      | some (.object fields) => .ok (buildGraph (entriesOfJson fields))
      | _ => .error .malformed

end PagedQuery
