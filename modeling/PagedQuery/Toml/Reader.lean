import PagedQuery.Toml.Scalar
import PagedQuery.Toml.Table
import PagedQuery.Toml.Text

/-!
# Reading TOML

Statements one after the other: entries `key = value`, headers of tables and headers of tables of
arrays. Inline tables and arrays may go over several lines.
-/

namespace PagedQuery.Toml

open PagedQuery.Text

def isBareKey (c : Char) : Bool := c.isAlphanum || c == '-' || c == '_'

def isKeyStart (c : Char) : Bool := isBareKey c || c == '"' || c == '\''

/-- One part of a dotted key. -/
def readKeyPart (cs : List Char) : Except Failure (String × List Char) :=
  let bare := cs.takeWhile isBareKey
  if bare.isEmpty then
    match readLine? cs with
    | some r => r.map fun (inside, rest) => (String.ofList inside, rest)
    | none => stop .keyStart cs
  else .ok (String.ofList bare, cs.drop bare.length)

/-- A dotted key and the blanks after it. -/
def readKey : Nat → List Char → Except Failure (Path × List Char)
  | 0, cs => stop .keyStart cs
  | fuel + 1, cs => do
    let (part, cs) ← readKeyPart cs
    match skipSpaces cs with
    | '.' :: rest =>
      let (path, rest) ← readKey fuel (skipSpaces rest)
      return (part :: path, rest)
    | rest => return ([part], rest)

/-- A key and the equals sign after it. -/
def readKeyAndSign (cs : List Char) : Except Failure (Path × List Char) := do
  let (path, cs) ← readKey (cs.length + 1) cs
  match cs with
  | '=' :: rest => return (path, skipSpaces rest)
  | rest => stop .equalsSign rest

def skipAllGaps (cs : List Char) : Except Failure (List Char) := skipGaps (cs.length + 1) cs

/-- Gives a problem its place. -/
def before {α : Type} (rest : List Char) : Except Problem α → Except Failure α
  | .ok a => .ok a
  | .error e => stop e rest

mutual
/-- A value at the start of a text. -/
def readValue : Nat → List Char → Except Failure (Value × List Char)
  | 0, cs => stop .value cs
  | fuel + 1, cs =>
    match readText? cs with
    | some r => r.map fun (inside, rest) => (.text (String.ofList inside), rest)
    | none =>
      match readWord? words cs with
      | some r => .ok r
      | none =>
        match cs with
        | '\x5b' :: rest => do
          let rest ← skipAllGaps rest
          if rest.head? = some '\x5d' then return (.list [], rest.drop 1)
          let (vs, rest) ← readElements fuel rest
          return (.list vs, rest)
        | '\x7b' :: rest => do
          let rest ← skipAllGaps rest
          if rest.head? = some '\x7d' then return (.dict [], rest.drop 1)
          let (es, rest) ← readFields fuel [] {} rest
          return (.dict es, rest)
        | cs => readScalar cs
/-- The elements of an array up to its end. -/
def readElements : Nat → List Char → Except Failure (List Value × List Char)
  | 0, cs => stop .unclosedArray cs
  | fuel + 1, cs => do
    let (v, cs) ← readValue fuel cs
    let cs ← skipAllGaps cs
    match cs with
    | '\x5d' :: rest => return ([v], rest)
    | ',' :: rest =>
      let rest ← skipAllGaps rest
      if rest.head? = some '\x5d' then return ([v], rest.drop 1)
      let (vs, rest) ← readElements fuel rest
      return (v :: vs, rest)
    | rest => stop .unclosedArray rest
/-- The entries of an inline table up to its end, after those read so far. -/
def readFields : Nat → Entries → Marks → List Char → Except Failure (Entries × List Char)
  | 0, _, _, cs => stop .unclosedTable cs
  | fuel + 1, seen, marks, cs => do
    let (path, cs) ← readKeyAndSign cs
    let (v, cs) ← readValue fuel cs
    if marks.isComplete path then stop (.immutable path) cs
    let seen ← before cs (addAt false (.duplicateKey (path.getLastD "")) path v seen)
    let cs ← skipAllGaps cs
    match cs with
    | '\x7d' :: rest => return (seen, rest)
    | ',' :: rest =>
      let rest ← skipAllGaps rest
      if rest.head? = some '\x7d' then return (seen, rest.drop 1)
      readFields fuel seen (if isCompound v then marks.completeAt path else marks) rest
    | rest => stop .unclosedTable rest
end

/-- An entry, into the current table. -/
def readEntry (d : Document) (cs : List Char) : Except Failure (Document × List Char) := do
  let (path, cs) ← readKeyAndSign cs
  let (v, cs) ← readValue (2 * cs.length + 2) cs
  return (← before cs (d.add path v), cs)

/-- The header of a table, after its opening bracket. -/
def readTable (d : Document) (cs : List Char) : Except Failure (Document × List Char) := do
  let (path, cs) ← readKey (cs.length + 1) (skipSpaces cs)
  let d ← before cs (d.openTable path)
  match cs with
  | '\x5d' :: rest => return (d, rest)
  | rest => stop .tableEnd rest

/-- The header of a table of an array, after its opening brackets. -/
def readArrayTable (d : Document) (cs : List Char) : Except Failure (Document × List Char) := do
  let (path, cs) ← readKey (cs.length + 1) (skipSpaces cs)
  let d ← before cs (d.openArrayTable path)
  match cs with
  | '\x5d' :: '\x5d' :: rest => return (d, rest)
  | rest => stop .arrayEnd rest

/-- One statement, up to the blanks after it; nothing for a comment. -/
def readStatement (d : Document) : List Char → Except Failure (Document × List Char)
  | '\x5b' :: '\x5b' :: rest => readArrayTable d rest
  | '\x5b' :: rest => readTable d rest
  | '#' :: rest => .ok (d, '#' :: rest)
  | c :: rest => if isKeyStart c then readEntry d (c :: rest) else stop .statement (c :: rest)
  | [] => .ok (d, [])

/-- The statements of a text. -/
def readStatements : Nat → Document → List Char → Except Failure Document
  | 0, d, _ => .ok d
  | fuel + 1, d, cs => do
    match skipSpaces cs with
    | [] => return d
    | '\n' :: rest => readStatements fuel d rest
    | cs =>
      let (d, cs) ← readStatement d cs
      let cs ← skipComment (skipSpaces cs)
      match cs with
      | [] => return d
      | '\n' :: rest => readStatements fuel d rest
      | rest => stop .statementEnd rest

/-- A text with each carriage return before a line feed left out. -/
def joinBreaks : List Char → List Char
  | '\r' :: '\n' :: rest => '\n' :: joinBreaks rest
  | c :: rest => c :: joinBreaks rest
  | [] => []

/-- The entries of a text, or its failure and the characters in which that has its place. -/
def read (s : String) : Except (Failure × List Char) (List (String × Value)) :=
  let cs := joinBreaks s.toList
  match readStatements (cs.length + 1) {} cs with
  | .ok d => .ok (d.root.map fun (k, v) => (k.toText, v))
  | .error e => .error (e, cs)

end PagedQuery.Toml
