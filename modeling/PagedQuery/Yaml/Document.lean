import PagedQuery.Value.Order
import PagedQuery.Yaml.Node
import PagedQuery.Yaml.Resolution

/-!
# Values of YAML documents

The value that a document stands for. Only the tags of plain data are known. A merge key stands for
the entries of the mappings it names, which the other entries override. Nodes are built level by
level from the root, a scalar with the collection that holds it, and the first fault on this way is
the one that counts.
-/

namespace PagedQuery.Yaml

inductive DocumentError
  | unreadable (e : ReadError)
  | scalar (e : ScalarError)
  deriving Repr, DecidableEq

def DocumentError.malformed : DocumentError := .unreadable .malformed

/-- What a node is built as. -/
inductive Construction
  | scalar (type : ScalarType)
  | list
  | mapping
  | set
  /-- A list of pairs, written as mappings of one entry. -/
  | pairs
  | unknown
  deriving Repr, DecidableEq

/-- What the standard tags stand for. -/
def standardTags : List (String × Construction) :=
  [("null", .scalar .null), ("bool", .scalar .bool), ("int", .scalar .int),
   ("float", .scalar .float), ("timestamp", .scalar .timestamp), ("merge", .scalar .merge),
   ("value", .scalar .default), ("str", .scalar .text), ("binary", .scalar .binary),
   ("seq", .list), ("map", .mapping), ("set", .set), ("omap", .pairs), ("pairs", .pairs)]

def Construction.ofTag (tag : String) : Construction :=
  let space := "tag:yaml.org,2002:".toList
  let cs := tag.toList
  if cs.take space.length = space then
    (lookup? (String.ofList (cs.drop space.length)) standardTags).getD .unknown
  else .unknown

/-- A node is built by its tag, or else by its form and, if it may have a type by it, its text. -/
def Node.construction : Node → Construction
  | .scalar (some tag) _ _ | .sequence (some tag) _ | .mapping (some tag) _ => .ofTag tag
  | .scalar none implied text => .scalar (if implied then typeOf text else .text)
  | .sequence none _ => .list
  | .mapping none _ => .mapping

namespace Document

variable (d : Document)

def node (n : Nat) : Node := d.nodes.getD n .empty

/-- Whether a node is a key that stands for merged entries or for the mapping's own text. -/
def isSpecial (type : ScalarType) (n : Nat) : Bool := (d.node n).construction == .scalar type

/-- What a node is built as where it is a key: the key for a mapping's own text is a text. -/
def keyConstruction (n : Nat) : Construction :=
  if d.isSpecial .default n then .scalar .text else (d.node n).construction

/-- The text of a scalar, or the one that a mapping gives for itself. -/
def text? : Nat → Nat → Option String
  | 0, _ => none
  | fuel + 1, n =>
    match d.node n with
    | .scalar _ _ text => some text
    | .mapping _ entries =>
      match entries.find? fun (key, _) => d.isSpecial .default key with
      | some (_, value) => text? fuel value
      | none => none
    | .sequence .. => none

/-- The value of a node that is built as a scalar. -/
def scalar (type : ScalarType) (n : Nat) : Except DocumentError Value :=
  match d.text? (d.nodes.size + 1) n, d.node n with
  | none, _ => .error .malformed
  | some _, .mapping .. =>
    if type = .timestamp then .error (.scalar .notText) else read (d.text? (d.nodes.size + 1) n)
  | text, _ => read text
where
  read (text : Option String) : Except DocumentError Value :=
    match type.read (text.getD "") with
    | .error e => .error (.scalar e)
    | .ok none => .error .malformed
    | .ok (some v) => .ok v

/-- The entries of a mapping, with those that its merge keys stand for in front; of several
mappings that one key names the first overrides the others. A mapping that is merged into itself,
at any depth, gives its own entries there. -/
def entries? : Nat → List Nat → Nat → Option (List (Nat × Nat))
  | 0, _, _ => none
  | fuel + 1, around, n =>
    match d.node n with
    | .mapping _ entries =>
      let own := entries.filter fun (key, _) => !d.isSpecial .merge key
      if around.contains n then some own
      else do
        let merged ← (entries.filter fun (key, _) => d.isSpecial .merge key).mapM fun (_, value) =>
          match d.node value with
          | .mapping .. => entries? fuel (n :: around) value
          | .sequence _ items =>
            (items.mapM (entries? fuel (n :: around))).map fun parts => parts.reverse.flatten
          | .scalar .. => none
        return merged.flatten ++ own
    | _ => none

def entries (n : Nat) : Option (List (Nat × Nat)) := d.entries? (d.nodes.size + 1) [] n

/-- The only entry of a mapping. -/
def pair? (n : Nat) : Option (Nat × Nat) :=
  match d.node n with
  | .mapping _ [entry] => some entry
  | _ => none

/-! ## The first fault -/

/-- The nodes that have been built, and the collections whose parts have not been. -/
structure Progress where
  built : List Nat := []
  waiting : List Nat := []

/-- Builds a node: a scalar at once, a collection without its parts. -/
def build (p : Progress) (n : Nat) (construction : Construction) : Except DocumentError Progress :=
  if p.built.contains n then .ok p
  else
    let built := n :: p.built
    match construction with
    | .scalar type => (d.scalar type n).map fun _ => { p with built }
    | .unknown => .error .malformed
    | _ => .ok ⟨built, p.waiting ++ [n]⟩

/-- Builds an entry; the key of a mapping must not be a collection. -/
def buildEntry (anyKey : Bool) (p : Progress) (entry : Nat × Nat) :
    Except DocumentError Progress := do
  let key := if anyKey then (d.node entry.1).construction else d.keyConstruction entry.1
  let p ← d.build p entry.1 key
  match anyKey, key with
  | true, _ | false, .scalar _ => d.build p entry.2 (d.node entry.2).construction
  | _, _ => throw .malformed

/-- Builds the parts of a collection. -/
def buildParts (p : Progress) (n : Nat) : Except DocumentError Progress :=
  match (d.node n).construction, d.node n with
  | .list, .sequence _ items =>
    items.foldlM (fun p item => d.build p item (d.node item).construction) p
  | .mapping, .mapping .. | .set, .mapping .. =>
    match d.entries n with
    | some entries => entries.foldlM (d.buildEntry false) p
    | none => .error .malformed
  | .pairs, .sequence _ items =>
    items.foldlM (fun p item =>
      match d.pair? item with
      | some entry => d.buildEntry true p entry
      | none => .error .malformed) p
  | _, _ => .error .malformed

/-- Builds the parts of all collections that wait, in order. -/
def buildAll : Nat → Progress → Except DocumentError Unit
  | 0, _ => .ok ()
  | fuel + 1, p =>
    match p.waiting with
    | [] => .ok ()
    | n :: waiting => do buildAll fuel (← d.buildParts { p with waiting } n)

/-- Refuses a document in which something cannot be built. -/
def check : Except DocumentError Unit := do
  d.buildAll (d.nodes.size + 1) (← d.build {} d.root (d.node d.root).construction)

/-! ## Values -/

/-- Whether a node is the number that is not one, of which there is only one in a document. -/
def isNotANumber (n : Nat) : Bool :=
  match (d.node n).construction, d.node n with
  | .scalar .float, .scalar _ _ text =>
    withoutSign ((Text.lower text).toList.filter (· != '_')) == ".nan".toList
  | _, _ => false

/-- A mapping with one entry more: a key that is there stays and gets the new value. -/
def putNode (key : Nat × Value) (value : Value) :
    List ((Nat × Value) × Value) → List ((Nat × Value) × Value)
  | [] => [(key, value)]
  | (k, v) :: rest =>
    if sameKey key.2 k.2 || key.1 == k.1 || (d.isNotANumber key.1 && d.isNotANumber k.1) then
      (k, value) :: rest
    else (k, v) :: putNode key value rest

/-- The value of a node that is held by collections. A collection that it is part of is not written
out again, but for the first `levels` collections from the root. -/
def valueOf : Nat → Nat → List Nat → Nat → Value
  | 0, _, _, _ => .null
  | fuel + 1, levels, around, n =>
    let within := if levels = 0 then n :: around else around
    let part := valueOf fuel (levels - 1) within
    let entries := fun (_ : Unit) =>
      (((d.entries n).getD []).foldl (fun seen (key, value) =>
        let keyValue := match d.keyConstruction key with
          | .scalar type => ((d.scalar type key).toOption).getD .null
          | _ => part key
        d.putNode (key, keyValue) (part value) seen) []).map fun ((_, key), value) => (key, value)
    match (d.node n).construction, d.node n with
    | .scalar type, _ => ((d.scalar type n).toOption).getD .null
    | .mapping, _ => if around.contains n then .enclosing true else .dict (entries ())
    | .set, _ => .set ((entries ()).map (·.1))
    | .pairs, .sequence _ items =>
      if around.contains n then .enclosing false
      else .list (items.filterMap fun item =>
        (d.pair? item).map fun (key, value) => .tuple [part key, part value])
    | _, .sequence _ items =>
      if around.contains n then .enclosing false else .list (items.map part)
    | _, _ => .null

/-- The value of a document whose first `levels` collections are each a value of its own. -/
def value (levels : Nat) : Except DocumentError Value := do
  d.check
  return d.valueOf (d.nodes.size + levels + 1) levels [] d.root

end Document

/-- The value of a text; a text without a document has none. -/
def read (levels : Nat) (s : String) : Except DocumentError Value :=
  match Document.read s with
  | .error e => .error (.unreadable e)
  | .ok none => .ok .null
  | .ok (some document) => document.value levels

end PagedQuery.Yaml
