import PagedQuery.Json.Basic
import PagedQuery.Yaml.Token

/-!
# YAML nodes

The nodes of a document. A node has a tag or takes one by its form; collections hold other nodes by
number, so that an alias can stand for any node whose anchor came before it, also for one that
holds the alias.
-/

namespace PagedQuery.Yaml

inductive Node
  /-- `implied` tells which scalars may take a tag by their text. -/
  | scalar (tag : Option String) (implied : Bool) (text : String)
  | sequence (tag : Option String) (items : List Nat)
  | mapping (tag : Option String) (entries : List (Nat × Nat))

/-- The node where nothing is written. -/
def Node.empty : Node := .scalar none true ""

instance : Inhabited Node := ⟨.empty⟩

/-- The nodes by number, and the number of the one that holds the others. -/
structure Document where
  nodes : Array Node
  root : Nat

/-- The tokens still to be used, what comes after them, the nodes and anchors so far, and the tag
handles of the document. -/
structure Reading where
  tokens : List Token
  /-- Where the tokens break off, why; none at the end of the text. -/
  broken : Option ReadError
  nodes : Array Node := #[]
  anchors : List (String × Nat) := []
  handles : List (String × String) := []

abbrev Read := StateT Reading (Except ReadError)

namespace Read

def refuse {α : Type} : Read α := throw .malformed

def peek? : Read (Option Token) := do
  let r ← get
  match r.tokens, r.broken with
  | [], some e => throw e
  | tokens, _ => return tokens.head?

def drop : Read Unit := modify fun r => { r with tokens := r.tokens.drop 1 }

/-- Uses the next token if it is the one given. -/
def accept (token : Token) : Read Bool := do
  if (← peek?) = some token then
    drop
    return true
  return false

def expect (token : Token) : Read Unit := do
  if !(← accept token) then refuse

/-- Whether the next token is one of those given, or there is none. -/
def atOneOf (tokens : List Token) : Read Bool := do
  match ← peek? with
  | none => return true
  | some t => return tokens.contains t

/-- The tag of a handle and a suffix. -/
def tagOf (handle : Option String) (suffix : String) : Read String := do
  match handle with
  | none => return suffix
  | some h =>
    match lookup? h (← get).handles with
    | some expansion => return expansion ++ suffix
    | none => refuse

/-- What can stand before a node: an anchor and a tag, in any order. -/
structure Properties where
  anchor : Option String := none
  tag : Option String := none

def property? (p : Properties) : Read (Option Properties) := do
  match ← peek? with
  | some (.anchor name) =>
    if p.anchor.isSome then return none
    drop
    return some { p with anchor := some name }
  | some (.tag handle suffix) =>
    if p.tag.isSome then return none
    drop
    return some { p with tag := some (← tagOf handle suffix) }
  | _ => return none

def properties : Read Properties := do
  match ← property? {} with
  | none => return {}
  | some p =>
    match ← property? p with
    | none => return p
    | some p => return p

/-- A number for a node, known by its anchor from now on; no anchor is given twice. -/
def begin (anchor : Option String) : Read Nat := do
  let n := (← get).nodes.size
  match anchor with
  | none => pure ()
  | some name =>
    if (lookup? name (← get).anchors).isSome then refuse
    modify fun r => { r with anchors := r.anchors ++ [(name, n)] }
  modify fun r => { r with nodes := r.nodes.push .empty }
  return n

/-- Completes the node of a number. -/
def finish (n : Nat) (node : Node) : Read Nat := do
  modify fun r => { r with nodes := r.nodes.setIfInBounds n node }
  return n

/-- A node without parts. -/
def leaf (anchor : Option String) (node : Node) : Read Nat := do finish (← begin anchor) node

def aliased (name : String) : Read Nat := do
  match lookup? name (← get).anchors with
  | some n => return n
  | none => refuse

/-- A tag that says nothing counts as none. -/
def specific (tag : Option String) : Option String := if tag = some "!" then none else tag

def scalarNode (tag : Option String) (plain : Bool) (text : String) : Node :=
  .scalar (specific tag) ((plain && tag.isNone) || tag = some "!") text

mutual
/-- A node; `block` allows blocks, `indentless` sequences without an indentation of their own. -/
def node : Nat → Bool → Bool → Read Nat
  | 0, _, _ => refuse
  | fuel + 1, block, indentless => do
    match ← peek? with
    | some (.alias name) =>
      drop
      aliased name
    | _ =>
      let p ← properties
      let next ← peek?
      if indentless && next = some .blockEntry then
        let n ← begin p.anchor
        finish n (.sequence (specific p.tag) (← indentlessItems fuel))
      else
        match next with
        | some (.scalar plain text) =>
          drop
          leaf p.anchor (scalarNode p.tag plain text)
        | some .flowSequence =>
          drop
          let n ← begin p.anchor
          finish n (.sequence (specific p.tag) (← flowItems fuel true))
        | some .flowMapping =>
          drop
          let n ← begin p.anchor
          finish n (.mapping (specific p.tag) (← flowEntries fuel true))
        | some .blockSequence =>
          if !block then refuse
          drop
          let n ← begin p.anchor
          finish n (.sequence (specific p.tag) (← blockItems fuel))
        | some .blockMapping =>
          if !block then refuse
          drop
          let n ← begin p.anchor
          finish n (.mapping (specific p.tag) (← blockEntries fuel))
        | _ =>
          if p.anchor.isNone && p.tag.isNone then refuse
          leaf p.anchor (scalarNode p.tag true "")
/-- A node, or the empty one if one of the given tokens comes next. -/
def nodeUnless : Nat → List Token → Bool → Bool → Read Nat
  | 0, _, _, _ => refuse
  | fuel + 1, stops, block, indentless => do
    if ← atOneOf stops then leaf none .empty
    else node fuel block indentless
/-- The items of a block sequence. -/
def blockItems : Nat → Read (List Nat)
  | 0 => refuse
  | fuel + 1 => do
    if ← accept .blockEntry then
      let item ← nodeUnless fuel [.blockEntry, .blockEnd] true false
      return item :: (← blockItems fuel)
    expect .blockEnd
    return []
/-- The items of a sequence that ends with the mapping around it. -/
def indentlessItems : Nat → Read (List Nat)
  | 0 => refuse
  | fuel + 1 => do
    if ← accept .blockEntry then
      let item ← nodeUnless fuel [.blockEntry, .key, .value, .blockEnd] true false
      return item :: (← indentlessItems fuel)
    return []
/-- The entries of a block mapping. -/
def blockEntries : Nat → Read (List (Nat × Nat))
  | 0 => refuse
  | fuel + 1 => do
    if ← accept .key then
      let key ← nodeUnless fuel [.key, .value, .blockEnd] true true
      let value ←
        if ← accept .value then nodeUnless fuel [.key, .value, .blockEnd] true true
        else leaf none .empty
      return (key, value) :: (← blockEntries fuel)
    expect .blockEnd
    return []
/-- The items of a flow sequence; an item may be a mapping of one entry. -/
def flowItems : Nat → Bool → Read (List Nat)
  | 0, _ => refuse
  | fuel + 1, first => do
    if ← accept .flowSequenceEnd then return []
    if !first then expect .flowEntry
    if ← accept .flowSequenceEnd then return []
    if ← accept .key then
      let n ← begin none
      let key ← nodeUnless fuel [.value, .flowEntry, .flowSequenceEnd] false false
      let value ←
        if ← accept .value then nodeUnless fuel [.flowEntry, .flowSequenceEnd] false false
        else leaf none .empty
      let item ← finish n (.mapping none [(key, value)])
      return item :: (← flowItems fuel false)
    let item ← node fuel false false
    return item :: (← flowItems fuel false)
/-- The entries of a flow mapping; an item alone is a key. -/
def flowEntries : Nat → Bool → Read (List (Nat × Nat))
  | 0, _ => refuse
  | fuel + 1, first => do
    if ← accept .flowMappingEnd then return []
    if !first then expect .flowEntry
    if ← accept .flowMappingEnd then return []
    if ← accept .key then
      let key ← nodeUnless fuel [.value, .flowEntry, .flowMappingEnd] false false
      let value ←
        if ← accept .value then nodeUnless fuel [.flowEntry, .flowMappingEnd] false false
        else leaf none .empty
      return (key, value) :: (← flowEntries fuel false)
    let key ← node fuel false false
    return (key, ← leaf none .empty) :: (← flowEntries fuel false)
end

/-- The handles that every document has. -/
def defaultHandles : List (String × String) := [("!", "!"), ("!!", "tag:yaml.org,2002:")]

/-- The directives before a document: at most one version, which must be the known one, and tag
handles, each given once. -/
def directives : Nat → Bool → List (String × String) → Read (List (String × String))
  | 0, _, _ => refuse
  | fuel + 1, versioned, handles => do
    match ← peek? with
    | some (.directive (.version major)) =>
      drop
      if versioned || major ≠ 1 then refuse
      directives fuel true handles
    | some (.directive (.tag handle expansion)) =>
      drop
      if (lookup? handle handles).isSome then refuse
      directives fuel versioned (handles ++ [(handle, expansion)])
    | some (.directive .other) =>
      drop
      directives fuel versioned handles
    | _ => return handles ++ defaultHandles.filter fun (h, _) => (lookup? h handles).isNone

def isDirective : Token → Bool
  | .directive _ => true
  | _ => false

def skipEnds : Nat → Read Unit
  | 0 => pure ()
  | fuel + 1 => do
    if ← accept .documentEnd then skipEnds fuel

/-- A document after the marks and directives before it. -/
def content (fuel : Nat) (explicit : Bool) : Read Nat := do
  let empty ← match ← peek? with
    | none | some .documentStart | some .documentEnd => pure true
    | some t => pure (isDirective t)
  if explicit && empty then leaf none .empty else node fuel true false

/-- The only document of a text, if there is one. -/
def document (fuel : Nat) : Read (Option Document) := do
  match ← peek? with
  | none => return none
  | some t =>
    let explicit := t = .documentStart || isDirective t
    let handles ← if explicit then directives fuel false [] else pure defaultHandles
    modify fun r => { r with handles }
    if explicit then expect .documentStart
    let root ← content fuel explicit
    skipEnds fuel
    if (← peek?).isSome then refuse
    return some ⟨(← get).nodes, root⟩

end Read

/-- The document of a text: nothing at all, or nodes. -/
def Document.read (s : String) : Except ReadError (Option Document) := do
  let (tokens, broken) := tokensOf s
  let (document, _) ← (Read.document (4 * tokens.length + 8)).run { tokens, broken }
  return document

end PagedQuery.Yaml
