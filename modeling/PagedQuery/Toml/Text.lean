import PagedQuery.Text.Digit
import PagedQuery.Text.Split
import PagedQuery.Toml.Failure

/-!
# TOML texts

Blanks, comments and the four kinds of strings: basic ones with escapes, literal ones without, and
both over several lines.
-/

namespace PagedQuery.Toml

open PagedQuery.Text

def isSpace (c : Char) : Bool := c == ' ' || c == '\t'

def isSpaceOrBreak (c : Char) : Bool := isSpace c || c == '\n'

/-- Control characters that must be escaped. -/
def isIllegal (multiline : Bool) (c : Char) : Bool :=
  (c.toNat < 0x20 || c.toNat == 0x7f) && c != '\t' && !(multiline && c == '\n')

def skipSpaces (cs : List Char) : List Char := cs.dropWhile isSpace

/-- Refuses illegal characters among those before the rest of a text. -/
def checkLegal (multiline : Bool) (inside rest : List Char) : Except Failure Unit :=
  match inside.dropWhile (!isIllegal multiline ·) with
  | [] => .ok ()
  | c :: more => stop (.invalidCharacter c) (c :: more ++ rest)

/-- The rest after a comment that may come next; the line's end stays. -/
def skipComment : List Char → Except Failure (List Char)
  | '#' :: cs => do
    let rest := cs.dropWhile (· != '\n')
    checkLegal false (cs.takeWhile (· != '\n')) rest
    return rest
  | cs => .ok cs

/-- The rest after blanks, line breaks and comments. -/
def skipGaps : Nat → List Char → Except Failure (List Char)
  | 0, cs => .ok cs
  | fuel + 1, cs => do
    let cs := cs.dropWhile isSpaceOrBreak
    if cs.head? = some '#' then skipGaps fuel (← skipComment cs) else return cs

/-- The characters before a mark, and those after it. -/
def cutAtMark? (mark : List Char) : List Char → Option (List Char × List Char)
  | [] => none
  | c :: cs =>
    match afterPrefix? mark (c :: cs) with
    | some rest => some ([], rest)
    | none => (cutAtMark? mark cs).map fun (inside, rest) => (c :: inside, rest)

/-- A literal string after its opening mark. -/
def readLiteral (multiline : Bool) (mark : String) (cs : List Char) :
    Except Failure (List Char × List Char) :=
  match cutAtMark? mark.toList cs with
  | none => stop (.expected mark) []
  | some (inside, rest) => do
    checkLegal multiline inside (mark.toList ++ rest)
    return (inside, rest)

/-- A character by its code in hexadecimal digits. -/
def readCode (digits : Nat) (cs : List Char) : Except Failure (List Char × List Char) :=
  match (cs.take digits).mapM hexValue? with
  | none => stop .hexValue cs
  | some ds =>
    if ds.length = digits then
      let code := ds.foldl (fun n d => 16 * n + d) 0
      if code < 0xD800 ∨ (0xE000 ≤ code ∧ code ≤ 0x10FFFF) then
        .ok ([Char.ofNat code], cs.drop digits)
      else stop .notScalar (cs.drop digits)
    else stop .hexValue cs

/-- The characters that short escapes stand for. -/
def escapes : List (Char × Char) :=
  [('b', '\x08'), ('t', '\t'), ('n', '\n'), ('f', '\x0c'), ('r', '\r'), ('e', '\x1b'), ('"', '"'),
   ('\\', '\\')]

/-- What an escape stands for, after its backslash. In a string over several lines a backslash at a
line's end takes the blanks and line breaks after it away. -/
def readEscape (multiline : Bool) : List Char → Except Failure (List Char × List Char)
  | [] => stop .unescaped []
  | c :: rest =>
    if multiline && isSpaceOrBreak c then
      match skipSpaces (c :: rest) with
      | [] => .ok ([], [])
      | d :: more =>
        if d = '\n' then .ok ([], more.dropWhile isSpaceOrBreak) else stop .unescaped (d :: more)
    else if c = 'x' then readCode 2 rest
    else if c = 'u' then readCode 4 rest
    else if c = 'U' then readCode 8 rest
    else
      match escapes.find? (·.1 == c) with
      | some (_, d) => .ok ([d], rest)
      | none => stop .unescaped rest

/-- A basic string after its opening mark. -/
def readBasic (multiline : Bool) : Nat → List Char → Except Failure (List Char × List Char)
  | 0, cs => stop .unterminated cs
  | _ + 1, [] => stop .unterminated []
  | fuel + 1, c :: cs =>
    if c = '\\' then do
      let (escaped, rest) ← readEscape multiline cs
      let (more, rest) ← readBasic multiline fuel rest
      return (escaped ++ more, rest)
    else if c = '"' && !multiline then .ok ([], cs)
    else if c = '"' && cs.take 2 = ['"', '"'] then .ok ([], cs.drop 2)
    else if isIllegal multiline c then stop (.illegalCharacter c) (c :: cs)
    else do
      let (more, rest) ← readBasic multiline fuel cs
      return (c :: more, rest)

/-- One or two marks directly before the closing ones belong to the string. -/
def withClosingMarks (mark : Char) (inside : List Char) : List Char → List Char × List Char
  | c :: d :: rest =>
    if c = mark then
      if d = mark then (inside ++ [mark, mark], rest) else (inside ++ [mark], d :: rest)
    else (inside, c :: d :: rest)
  | [c] => if c = mark then (inside ++ [mark], []) else (inside, [c])
  | [] => (inside, [])

/-- A string of one line, at its opening mark. -/
def readLine? : List Char → Option (Except Failure (List Char × List Char))
  | '"' :: cs => some (readBasic false (cs.length + 1) cs)
  | '\'' :: cs => some (readLiteral false "'" cs)
  | _ => none

/-- A string of any kind, at its opening mark; a line break directly after the opening marks of one
over several lines is left out. -/
def readText? : List Char → Option (Except Failure (List Char × List Char))
  | '"' :: '"' :: '"' :: cs => some do
    let cs := if cs.head? = some '\n' then cs.drop 1 else cs
    let (inside, rest) ← readBasic true (cs.length + 1) cs
    return withClosingMarks '"' inside rest
  | '\'' :: '\'' :: '\'' :: cs => some do
    let cs := if cs.head? = some '\n' then cs.drop 1 else cs
    let (inside, rest) ← readLiteral true "'''" cs
    return withClosingMarks '\'' inside rest
  | cs => readLine? cs

end PagedQuery.Toml
