import PagedQuery.Text.Utf8
import PagedQuery.Yaml.Scalar

/-!
# YAML tokens

A text as a list of tokens. Blocks are opened and closed by indentation. A mapping key on one line
is only known as such when its colon is met, so that the token for it is put in where it began.
-/

namespace PagedQuery.Yaml

open PagedQuery.Text

inductive Directive
  | version (major : Nat)
  | tag (handle expansion : String)
  | other
  deriving Repr, DecidableEq

inductive Token
  | directive (d : Directive)
  | documentStart
  | documentEnd
  | blockSequence
  | blockMapping
  | blockEnd
  | flowSequence
  | flowSequenceEnd
  | flowMapping
  | flowMappingEnd
  | blockEntry
  | flowEntry
  | key
  | value
  | alias (name : String)
  | anchor (name : String)
  | tag (handle : Option String) (suffix : String)
  | scalar (plain : Bool) (text : String)
  deriving Repr, DecidableEq, Inhabited

/-! ## Names, tags and directives -/

def isNameChar (c : Char) : Bool := c.isAlphanum || c == '-' || c == '_'

def isTagChar (c : Char) : Bool := isNameChar c || ";/?:@&=+$,.!~*'()[]%".toList.contains c

/-- The name of an anchor or alias after its mark. -/
def anchorName? (c : Cursor) : Option (String × Cursor) :=
  let (name, c) := c.takeWhile isNameChar
  if name.isEmpty then none
  else if isGap c.head || "?:,]\x7d%@`".toList.contains c.head then some (String.ofList name, c)
  else none

/-- Bytes given by escapes, and the position after them. -/
def escapedBytes? : Nat → Cursor → Option (List UInt8 × Cursor)
  | 0, _ => none
  | fuel + 1, c =>
    if c.head ≠ '%' then some ([], c)
    else
      match hexValue? (c.peek 1), hexValue? (c.peek 2) with
      | some x, some y =>
        (escapedBytes? fuel (c.skip 3)).map fun (bs, c) => (UInt8.ofNat (16 * x + y) :: bs, c)
      | _, _ => none

/-- The characters of a tag, its escapes decoded. -/
def tagChars? : Nat → Cursor → Option (List Char × Cursor)
  | 0, _ => none
  | fuel + 1, c =>
    if c.head = '%' then
      match escapedBytes? (c.rest.length + 1) c with
      | none => none
      | some (bytes, c) =>
        let decoded := decodeUtf8 bytes
        if decoded.contains replacement then none
        else (tagChars? fuel c).map fun (cs, c) => (decoded ++ cs, c)
    else if isTagChar c.head then (tagChars? fuel c.step).map fun (cs, c') => (c.head :: cs, c')
    else some ([], c)

/-- The characters of a tag, at least one. -/
def tagText? (c : Cursor) : Option (String × Cursor) :=
  match tagChars? (c.rest.length + 1) c with
  | some ([], _) | none => none
  | some (cs, c) => some (String.ofList cs, c)

/-- A tag handle: `!`, `!!` or a name between exclamation marks. -/
def tagHandle? (c : Cursor) : Option (String × Cursor) :=
  if c.head ≠ '!' then none
  else if c.peek 1 = ' ' then some ("!", c.step)
  else
    let (name, next) := c.step.takeWhile isNameChar
    if next.head = '!' then some ("!" ++ String.ofList name ++ "!", next.step) else none

/-- Whether an exclamation mark stands in the word that comes next. -/
def hasHandle (c : Cursor) : Bool := (c.rest.takeWhile (!isSpaceOrEnd ·)).contains '!'

/-- A tag that comes next. -/
def tag? (c : Cursor) : Option (Token × Cursor) := do
  let (token, c) ←
    if c.peek 1 = '<' then
      match tagText? (c.skip 2) with
      | some (text, c) => if c.head = '>' then some (Token.tag none text, c.step) else none
      | none => none
    else if isGap (c.peek 1) then some (Token.tag none "!", c.step)
    else
      match (if hasHandle c.step then tagHandle? c else some ("!", c.step)) with
      | none => none
      | some (handle, c) => (tagText? c).map fun (text, c) => (Token.tag (some handle) text, c)
  if isSpaceOrEnd c.head then some (token, c) else none

def number? (c : Cursor) : Option (Nat × Cursor) :=
  let (ds, c) := c.takeWhile Char.isDigit
  if ds.isEmpty then none else some (ofDigits (ds.map fun d => d.toNat - 48), c)

/-- A directive after its mark, up to the end of its line. -/
def directive? (c : Cursor) : Option (Directive × Cursor) := do
  let (name, c) := c.takeWhile isNameChar
  if name.isEmpty || !isSpaceOrEnd c.head then none
  else
    let (d, c) ←
      match String.ofList name with
      | "YAML" => do
        let (major, c) ← number? c.skipSpaces
        if c.head ≠ '.' then none
        else
          let (_, c) ← number? c.step
          if isSpaceOrEnd c.head then some (Directive.version major, c) else none
      | "TAG" => do
        let (handle, c) ← tagHandle? c.skipSpaces
        if c.head ≠ ' ' then none
        else
          let (expansion, c) ← tagText? c.skipSpaces
          if isSpaceOrEnd c.head then some (Directive.tag handle expansion, c) else none
      | _ => some (Directive.other, c.skipWhile (!isEnd ·))
    let c := c.skipSpaces.skipComment
    if isEnd c.head then some (d, ((c.lineBreak?).map (·.2)).getD c) else none

/-! ## Tokens -/

/-- A place where a mapping key may have begun. -/
structure PendingKey where
  /-- How many tokens stand before it. -/
  position : Nat
  /-- Whether nothing but a key can stand there. -/
  required : Bool
  index : Nat
  line : Nat
  column : Nat

/-- The tokens read so far, and what is open. -/
structure Tokens where
  cursor : Cursor
  /-- How many flow collections are open. -/
  flow : Nat := 0
  indent : Int := -1
  /-- The indentations around the innermost block. -/
  outer : List Int := []
  /-- Whether a mapping key may begin here. -/
  keyAllowed : Bool := true
  /-- Pending keys by the number of open flow collections. -/
  pending : List (Nat × PendingKey) := []
  tokens : List Token := []

namespace Tokens

def inFlow (t : Tokens) : Bool := t.flow ≠ 0

def add (t : Tokens) (token : Token) : Tokens := { t with tokens := t.tokens ++ [token] }

def insertAt (t : Tokens) (position : Nat) (token : Token) : Tokens :=
  { t with tokens := t.tokens.take position ++ token :: t.tokens.drop position }

def skip (t : Tokens) (n : Nat) : Tokens := { t with cursor := t.cursor.skip n }

/-- Closes the blocks that are indented more than a column. -/
def closeBlocks (column : Int) : Nat → Tokens → Tokens
  | 0, t => t
  | fuel + 1, t =>
    if t.inFlow ∨ t.indent ≤ column then t
    else
      closeBlocks column fuel
        ({ t with indent := t.outer.headD (-1), outer := t.outer.drop 1 }.add .blockEnd)

def close (column : Int) (t : Tokens) : Tokens := closeBlocks column (t.outer.length + 1) t

/-- Whether a block opens at a column. -/
def opens (t : Tokens) (column : Nat) : Bool := t.indent < column

def openBlock (t : Tokens) (column : Nat) : Tokens :=
  { t with indent := column, outer := t.indent :: t.outer }

/-- Whether a pending key can no longer be one: it takes one line and at most 1024 characters. -/
def isStale (t : Tokens) (k : PendingKey) : Bool :=
  k.line ≠ t.cursor.line || t.cursor.index - k.index > 1024

/-- Gives up stale pending keys; one that is required must not be given up. -/
def dropStale? (t : Tokens) : Option Tokens :=
  if t.pending.any fun (_, k) => t.isStale k && k.required then none
  else some { t with pending := t.pending.filter fun (_, k) => !t.isStale k }

/-- Gives up the pending key of the innermost collection. -/
def dropKey? (t : Tokens) : Option Tokens :=
  if t.pending.any fun (level, k) => level == t.flow && k.required then none
  else some { t with pending := t.pending.filter fun (level, _) => level != t.flow }

/-- Notes that a key may begin here. -/
def noteKey? (t : Tokens) : Option Tokens :=
  if !t.keyAllowed then some t
  else do
    let required := !t.inFlow && t.indent == (t.cursor.column : Int)
    let t ← t.dropKey?
    let key : PendingKey :=
      ⟨t.tokens.length, required, t.cursor.index, t.cursor.line, t.cursor.column⟩
    return { t with pending := t.pending ++ [(t.flow, key)] }

/-- Leaves all blocks before something that stands between documents. -/
def leaveBlocks? (t : Tokens) : Option Tokens :=
  ((t.close (-1)).dropKey?).map fun t => { t with keyAllowed := false }

/-- Opens a block at the current column, where keys may begin. -/
def openHere? (t : Tokens) (token : Token) : Option Tokens :=
  if t.inFlow then some t
  else if !t.keyAllowed then none
  else if t.opens t.cursor.column then some ((t.openBlock t.cursor.column).add token)
  else some t

def flowStart? (t : Tokens) (token : Token) : Option Tokens := do
  let t ← t.noteKey?
  return { (t.skip 1).add token with flow := t.flow + 1, keyAllowed := true }

def flowEnd? (t : Tokens) (token : Token) : Option Tokens := do
  let t ← t.dropKey?
  return { (t.skip 1).add token with flow := t.flow - 1, keyAllowed := false }

def flowEntry? (t : Tokens) : Option Tokens := do
  let t ← t.dropKey?
  return { (t.skip 1).add .flowEntry with keyAllowed := true }

def blockEntry? (t : Tokens) : Option Tokens := do
  let t ← t.openHere? .blockSequence
  let t ← t.dropKey?
  return { (t.skip 1).add .blockEntry with keyAllowed := true }

def key? (t : Tokens) : Option Tokens := do
  let t ← t.openHere? .blockMapping
  let t ← t.dropKey?
  return { (t.skip 1).add .key with keyAllowed := !t.inFlow }

/-- A colon: it makes the pending key one, or stands for an empty one. -/
def value? (t : Tokens) : Option Tokens :=
  match t.pending.find? fun (level, _) => level == t.flow with
  | some (_, k) =>
    let t := { t with pending := t.pending.filter fun (level, _) => level != t.flow }
    let t := t.insertAt k.position .key
    let t := if !t.inFlow && t.opens k.column then
        (t.openBlock k.column).insertAt k.position .blockMapping
      else t
    some { (t.skip 1).add .value with keyAllowed := false }
  | none => do
    let t ← t.openHere? .blockMapping
    let t := { t with keyAllowed := !t.inFlow }
    let t ← t.dropKey?
    return (t.skip 1).add .value

/-- A token that can be a key or stand before one. -/
def node? (t : Tokens) (read : Cursor → Option (Token × Cursor)) : Option Tokens := do
  let t ← t.noteKey?
  let (token, c) ← read t.cursor
  return { t.add token with cursor := c, keyAllowed := false }

def blockScalar? (t : Tokens) (folded : Bool) : Option Tokens := do
  let t ← t.dropKey?
  let (cs, c) ← blockText? folded t.indent t.cursor.step
  return { t.add (.scalar false (String.ofList cs)) with cursor := c, keyAllowed := true }

def quotedScalar (t : Tokens) (double : Bool) : Except ReadError Tokens := do
  let t ← orMalformed t.noteKey?
  let (cs, c) ← quotedText double (t.cursor.rest.length + 1) t.cursor.step
  return { t.add (.scalar false (String.ofList cs)) with cursor := c, keyAllowed := false }

def plainScalar? (t : Tokens) : Option Tokens := do
  let t ← t.noteKey?
  let (cs, c, ended) :=
    plainText t.inFlow (t.indent + 1) (t.cursor.rest.length + 1) t.cursor [] false
  return { t.add (.scalar true (String.ofList cs)) with cursor := c, keyAllowed := ended }

/-- Whether a plain scalar can begin here. -/
def startsPlain (t : Tokens) : Bool :=
  let a := t.cursor.head
  let indicators := "-?:,[]#&*!|>'\"%@`".toList ++ ['\x7b', '\x7d']
  (!isGap a && !indicators.contains a) ||
    (!isGap (t.cursor.peek 1) && (a == '-' || (!t.inFlow && (a == '?' || a == ':'))))

/-- The position of the next token; a new line lets keys begin. -/
def toNext : Nat → Tokens → Tokens
  | 0, t => t
  | fuel + 1, t =>
    let c := t.cursor.skipSpaces.skipComment
    match c.lineBreak? with
    | none => { t with cursor := c }
    | some (_, c) => toNext fuel { t with cursor := c, keyAllowed := t.keyAllowed || !t.inFlow }

/-- Reads one token that is no quoted scalar. -/
def next? (t : Tokens) : Option Tokens :=
  let c := t.cursor
  let a := c.head
  let followed := t.inFlow || isGap (c.peek 1)
  let between := fun (token : Token) => (t.leaveBlocks?).map fun t => (t.skip 3).add token
  if a = '%' ∧ c.column = 0 then do
    let t ← t.leaveBlocks?
    let (d, c) ← directive? t.cursor.step
    return { t.add (.directive d) with cursor := c }
  else if c.column = 0 ∧ c.atMark '-' then between .documentStart
  else if c.column = 0 ∧ c.atMark '.' then between .documentEnd
  else if a = '\x5b' then t.flowStart? .flowSequence
  else if a = '\x7b' then t.flowStart? .flowMapping
  else if a = '\x5d' then t.flowEnd? .flowSequenceEnd
  else if a = '\x7d' then t.flowEnd? .flowMappingEnd
  else if a = ',' then t.flowEntry?
  else if a = '-' ∧ isGap (c.peek 1) then t.blockEntry?
  else if a = '?' ∧ followed then t.key?
  else if a = ':' ∧ followed then t.value?
  else if a = '*' then t.node? fun c => (anchorName? c.step).map fun (n, c) => (.alias n, c)
  else if a = '&' then t.node? fun c => (anchorName? c.step).map fun (n, c) => (.anchor n, c)
  else if a = '!' then t.node? tag?
  else if a = '|' ∧ !t.inFlow then t.blockScalar? false
  else if a = '>' ∧ !t.inFlow then t.blockScalar? true
  else if t.startsPlain then t.plainScalar?
  else none

/-- Reads one token. -/
def next (t : Tokens) : Except ReadError Tokens :=
  match t.cursor.head with
  | '\'' => t.quotedScalar false
  | '"' => t.quotedScalar true
  | _ => orMalformed t.next?

/-- The tokens up to the end of the text, or up to where it breaks the grammar. -/
def readAll : Nat → Tokens → List Token × Option ReadError
  | 0, t => (t.tokens, some .malformed)
  | fuel + 1, t =>
    let t := toNext (t.cursor.rest.length + 1) t
    match t.dropStale? with
    | none => (t.tokens, some .malformed)
    | some t =>
      let t := t.close t.cursor.column
      if t.cursor.rest.isEmpty then
        match t.leaveBlocks? with
        | none => (t.tokens, some .malformed)
        | some t => (t.tokens, none)
      else
        match t.next with
        | .error e => (t.tokens, some e)
        | .ok t => readAll fuel t

end Tokens

/-- The tokens of a text, as far as it keeps to the grammar. -/
def tokensOf (s : String) : List Token × Option ReadError :=
  let cs := s.toList
  if cs.all isAllowed then
    let start : Cursor := ⟨cs, 0, 0, 0⟩
    let start := if start.head = '\uFEFF' then start.step else start
    Tokens.readAll (cs.length + 2) { cursor := start }
  else ([], some .malformed)

end PagedQuery.Yaml
