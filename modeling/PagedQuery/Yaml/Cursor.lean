/-!
# Positions in YAML texts

A text still to be read, with the line and column reached. Columns matter: nesting is shown by
indentation.
-/

namespace PagedQuery.Yaml

/-- Characters that end a line. -/
def isBreak (c : Char) : Bool :=
  c == '\n' || c == '\r' || c == '\u0085' || c == '\u2028' || c == '\u2029'

/-- The character that stands for the end of the text. -/
def endMark : Char := '\x00'

def isEnd (c : Char) : Bool := c == endMark || isBreak c

/-- A blank, a line's end or the text's end. -/
def isGap (c : Char) : Bool := c == ' ' || c == '\t' || isEnd c

/-- A space, a line's end or the text's end. -/
def isSpaceOrEnd (c : Char) : Bool := c == ' ' || isEnd c

/-- Characters that texts may hold. -/
def isAllowed (c : Char) : Bool :=
  let code := c.toNat
  code == 0x9 || code == 0xa || code == 0xd || (0x20 ≤ code && code ≤ 0x7e) || code == 0x85 ||
    (0xa0 ≤ code && code ≤ 0xfffd) || 0x10000 ≤ code

structure Cursor where
  rest : List Char
  line : Nat := 0
  column : Nat := 0
  index : Nat := 0
  deriving Inhabited

namespace Cursor

/-- The character at a distance. -/
def peek (c : Cursor) (distance : Nat) : Char := c.rest.getD distance endMark

def head (c : Cursor) : Char := c.rest.headD endMark

def step (c : Cursor) : Cursor :=
  match c.rest with
  | [] => c
  | a :: rest =>
    if isBreak a && !(a == '\r' && rest.head? == some '\n') then ⟨rest, c.line + 1, 0, c.index + 1⟩
    else ⟨rest, c.line, if a = '\uFEFF' then c.column else c.column + 1, c.index + 1⟩

/-- The position some characters later. -/
def skip : Nat → Cursor → Cursor
  | 0, c => c
  | n + 1, c => skip n c.step

/-- The characters of a class that come next, and the position after them. -/
def takeWhile (p : Char → Bool) (c : Cursor) : List Char × Cursor :=
  let cs := c.rest.takeWhile p
  (cs, c.skip cs.length)

def skipWhile (p : Char → Bool) (c : Cursor) : Cursor := (c.takeWhile p).2

def skipSpaces (c : Cursor) : Cursor := c.skipWhile (· == ' ')

/-- The position after a comment that may come next. -/
def skipComment (c : Cursor) : Cursor :=
  if c.head = '#' then c.skipWhile (!isEnd ·) else c

/-- The line break that comes next, as it is read, and the position after it. -/
def lineBreak? (c : Cursor) : Option (Char × Cursor) :=
  match c.rest with
  | '\r' :: '\n' :: _ => some ('\n', c.skip 2)
  | a :: _ =>
    if a = '\n' ∨ a = '\r' ∨ a = '\u0085' then some ('\n', c.step)
    else if isBreak a then some (a, c.step)
    else none
  | [] => none

/-- Whether a mark of three equal characters comes next, with a gap after it. -/
def atMark (mark : Char) (c : Cursor) : Bool :=
  c.peek 0 == mark && c.peek 1 == mark && c.peek 2 == mark && isGap (c.peek 3)

/-- Whether a mark between documents comes next. -/
def atDocumentMark (c : Cursor) : Bool := c.atMark '-' || c.atMark '.'

/-- The line breaks that come next, with spaces before each that are left out. -/
def breaks (blank : Char → Bool) : Nat → Cursor → List Char × Cursor
  | 0, c => ([], c)
  | fuel + 1, c =>
    let c := c.skipWhile blank
    match c.lineBreak? with
    | none => ([], c)
    | some (b, c) =>
      let (bs, c) := breaks blank fuel c
      (b :: bs, c)

/-- A single line break reads as a space, more of them as one less. -/
def foldBreaks (first : Char) (more : List Char) : List Char :=
  if first ≠ '\n' then first :: more else if more.isEmpty then [' '] else more

end Cursor

end PagedQuery.Yaml
