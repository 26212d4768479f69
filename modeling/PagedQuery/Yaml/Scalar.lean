import PagedQuery.Text.Digit
import PagedQuery.Yaml.Cursor

/-!
# YAML scalars

The texts of plain, quoted and block scalars.
-/

namespace PagedQuery.Yaml

open PagedQuery.Text Cursor

/-- Why a text is no document. -/
inductive ReadError
  | malformed
  /-- An escape for a number that no character has. -/
  | codePoint (code : Nat)
  deriving Repr, DecidableEq

def orMalformed {α : Type} : Option α → Except ReadError α
  | some a => .ok a
  | none => .error .malformed

/-! ## Plain scalars -/

/-- How many characters of a plain scalar come next on its line. -/
def plainLength (flow : Bool) : List Char → Nat
  | [] => 0
  | a :: rest =>
    let next := rest.headD endMark
    let ends :=
      isGap a ||
        (a == ':' &&
          (isGap next || (flow && [',', '\x5b', '\x5d', '\x7b', '\x7d'].contains next))) ||
        (flow && [',', '?', '\x5b', '\x5d', '\x7b', '\x7d'].contains a)
    if ends then 0 else plainLength flow rest + 1

/-- Line breaks after a plain scalar up to a mark between documents. -/
def plainBreaks : Nat → Cursor → Option (List Char) × Cursor
  | 0, c => (some [], c)
  | fuel + 1, c =>
    let c := c.skipSpaces
    match c.lineBreak? with
    | none => (some [], c)
    | some (b, c) =>
      if c.atDocumentMark then (none, c)
      else
        let (bs?, c) := plainBreaks fuel c
        (bs?.map (b :: ·), c)

/-- What stands between two parts of a plain scalar, and whether a line has ended. -/
def plainGap (c : Cursor) : List Char × Cursor × Bool :=
  let (spaces, c) := c.takeWhile (· == ' ')
  match c.lineBreak? with
  | none => (spaces, c, false)
  | some (b, c) =>
    if c.atDocumentMark then ([], c, true)
    else
      let (bs?, c) := plainBreaks (c.rest.length + 1) c
      ((bs?.map (foldBreaks b)).getD [], c, true)

/-- The text of a plain scalar after a gap, and whether a line has ended since. -/
def plainText (flow : Bool) (indent : Int) : Nat → Cursor → List Char → Bool →
    List Char × Cursor × Bool
  | 0, c, _, ended => ([], c, ended)
  | fuel + 1, c, gap, ended =>
    let n := if c.head = '#' then 0 else plainLength flow c.rest
    if n = 0 then ([], c, ended)
    else
      let part := gap ++ c.rest.take n
      let (gap, c, ended) := plainGap (c.skip n)
      if gap.isEmpty ∨ c.head = '#' ∨ (!flow ∧ (c.column : Int) < indent) then (part, c, ended)
      else
        let (more, c, ended) := plainText flow indent fuel c gap ended
        (part ++ more, c, ended)

/-! ## Quoted scalars -/

/-- Characters that a backslash and a letter stand for. -/
def namedEscape? : Char → Option Char
  | '0' => some '\x00'
  | 'a' => some '\x07'
  | 'b' => some '\x08'
  | 't' | '\t' => some '\t'
  | 'n' => some '\n'
  | 'v' => some '\x0b'
  | 'f' => some '\x0c'
  | 'r' => some '\r'
  | 'e' => some '\x1b'
  | ' ' => some ' '
  | '"' => some '"'
  | '\\' => some '\\'
  | '/' => some '/'
  | 'N' => some '\u0085'
  | '_' => some '\u00a0'
  | 'L' => some '\u2028'
  | 'P' => some '\u2029'
  | _ => none

/-- How many hexadecimal digits follow a backslash and a letter. -/
def escapeDigits? : Char → Option Nat
  | 'x' => some 2
  | 'u' => some 4
  | 'U' => some 8
  | _ => none

/-- The line breaks inside quotes; a mark between documents must not stand there. -/
def quotedBreaks? : Nat → Cursor → Option (List Char × Cursor)
  | 0, _ => none
  | fuel + 1, c =>
    if c.atDocumentMark then none
    else
      let c := c.skipWhile fun a => a == ' ' || a == '\t'
      match c.lineBreak? with
      | none => some ([], c)
      | some (b, c) => (quotedBreaks? fuel c).map fun (bs, c) => (b :: bs, c)

/-- The number that hexadecimal digits after a backslash and a letter spell. -/
def escapedCode? (count : Nat) (c : Cursor) : Option Nat :=
  let digits := (c.rest.drop 1).take count
  if digits.length = count then
    (digits.mapM hexValue?).map fun ds => ds.foldl (fun code d => 16 * code + d) 0
  else none

/-- What a backslash and what follows it stand for, the position being after the backslash. -/
def escaped (c : Cursor) : Except ReadError (List Char × Cursor) :=
  match namedEscape? c.head with
  | some a => if c.rest.isEmpty then .error .malformed else .ok ([a], c.step)
  | none =>
    match escapeDigits? c.head with
    | some count =>
      match escapedCode? count c with
      | none => .error .malformed
      | some code =>
        if code < 0x110000 then .ok ([Char.ofNat code], c.skip (count + 1))
        else .error (.codePoint code)
    | none =>
      match c.lineBreak? with
      | none => .error .malformed
      | some (_, c) => orMalformed (quotedBreaks? (c.rest.length + 1) c)

/-- The characters of a quoted scalar up to a blank, a line's end or the closing quote. -/
def quotedWord (double : Bool) : Nat → Cursor → Except ReadError (List Char × Cursor)
  | 0, _ => .error .malformed
  | fuel + 1, c =>
    let a := c.head
    let go := fun (cs : List Char) (c : Cursor) =>
      (quotedWord double fuel c).map fun (more, c) => (cs ++ more, c)
    if isGap a then .ok ([], c)
    else if double then
      if a = '"' then .ok ([], c)
      else if a = '\\' then
        match escaped c.step with
        | .error e => .error e
        | .ok (cs, c) => go cs c
      else go [a] c.step
    else if a = '\'' then
      if c.peek 1 = '\'' then go ['\''] (c.skip 2) else .ok ([], c)
    else go [a] c.step

/-- The blanks and line breaks between words of a quoted scalar. -/
def quotedGap? (c : Cursor) : Option (List Char × Cursor) :=
  let (blanks, c) := c.takeWhile fun a => a == ' ' || a == '\t'
  if c.rest.isEmpty then none
  else
    match c.lineBreak? with
    | none => some (blanks, c)
    | some (b, c) => (quotedBreaks? (c.rest.length + 1) c).map fun (bs, c) => (foldBreaks b bs, c)

/-- The text of a quoted scalar after its opening quote. -/
def quotedText (double : Bool) : Nat → Cursor → Except ReadError (List Char × Cursor)
  | 0, _ => .error .malformed
  | fuel + 1, c =>
    match quotedWord double (c.rest.length + 1) c with
    | .error e => .error e
    | .ok (word, c) =>
      if c.head = (if double then '"' else '\'') then .ok (word, c.step)
      else
        match quotedGap? c with
        | none => .error .malformed
        | some (gap, c) => (quotedText double fuel c).map fun (more, c) => (word ++ gap ++ more, c)

/-! ## Block scalars -/

/-- What happens to the line breaks at the end of a block scalar. -/
inductive Chomping
  | strip
  | clip
  | keep
  deriving DecidableEq

structure BlockHeader where
  chomping : Chomping := .clip
  /-- The indentation that the header gives. -/
  increment : Option Nat := none

def chomping? : Char → Option Chomping
  | '+' => some .keep
  | '-' => some .strip
  | _ => none

/-- An indentation indicator that comes next, if there is one: a digit other than zero. -/
def increment? (c : Cursor) : Option (Option Nat × Cursor) :=
  if !c.head.isDigit then some (none, c)
  else if c.head = '0' then none
  else some (some (c.head.toNat - 48), c.step)

/-- The header of a block scalar after its first character, up to the end of its line. -/
def blockHeader? (c : Cursor) : Option (BlockHeader × Cursor) := do
  let (header, c) ←
    match chomping? c.head with
    | some chomping =>
      (increment? c.step).map fun (increment, c) => (BlockHeader.mk chomping increment, c)
    | none =>
      (increment? c).map fun (increment, c) =>
        match increment, chomping? c.head with
        | some _, some chomping => (BlockHeader.mk chomping increment, c.step)
        | _, _ => (BlockHeader.mk .clip increment, c)
  if !isSpaceOrEnd c.head then none
  else
    let c := c.skipSpaces.skipComment
    if !isEnd c.head then none
    else some (header, ((c.lineBreak?).map (·.2)).getD c)

/-- Leading empty lines of a block scalar, and the widest indentation found. -/
def leadingBreaks : Nat → Cursor → Nat → List Char × Cursor × Nat
  | 0, c, widest => ([], c, widest)
  | fuel + 1, c, widest =>
    let c := c.skipSpaces
    let widest := max widest c.column
    match c.lineBreak? with
    | none => ([], c, widest)
    | some (b, c) =>
      let (bs, c, widest) := leadingBreaks fuel c widest
      (b :: bs, c, widest)

/-- The position after the spaces of an indentation. -/
def indentTo (indent : Nat) : Nat → Cursor → Cursor
  | 0, c => c
  | fuel + 1, c =>
    if c.column < indent ∧ c.head = ' ' then indentTo indent fuel c.step else c

/-- Empty lines of a block scalar. -/
def blockBreaks (indent : Nat) : Nat → Cursor → List Char × Cursor
  | 0, c => ([], c)
  | fuel + 1, c =>
    let c := indentTo indent indent c
    match c.lineBreak? with
    | none => ([], c)
    | some (b, c) =>
      let (bs, c) := blockBreaks indent fuel c
      (b :: bs, c)

/-- The lines of a block scalar after its empty ones. -/
def blockLines (folded : Bool) (chomping : Chomping) (indent : Nat) :
    Nat → List Char → Cursor → List Char × Cursor
  | 0, _, c => ([], c)
  | fuel + 1, empty, c =>
    if c.column ≠ indent ∨ c.rest.isEmpty then
      (if chomping = .keep then empty else [], c)
    else
      let isWord := fun (a : Char) => a ≠ ' ' && a ≠ '\t'
      let starts := isWord c.head
      let (line, c) := c.takeWhile (!isEnd ·)
      let (ending, c) := match c.lineBreak? with
        | some (b, c) => ([b], c)
        | none => ([], c)
      let (next, c) := blockBreaks indent (c.rest.length + 1) c
      if c.column = indent ∧ !c.rest.isEmpty then
        let between :=
          if folded ∧ ending = ['\n'] ∧ starts ∧ isWord c.head then
            if next.isEmpty then [' '] else []
          else ending
        let (more, c) := blockLines folded chomping indent fuel next c
        (empty ++ line ++ between ++ more, c)
      else
        (empty ++ line ++ (if chomping = .strip then [] else ending) ++
          (if chomping = .keep then next else []), c)

/-- The text of a block scalar after its first character, in a block of an indentation. -/
def blockText? (folded : Bool) (outer : Int) (c : Cursor) : Option (List Char × Cursor) :=
  match blockHeader? c with
  | none => none
  | some (header, c) =>
    let least := max 1 (outer + 1).toNat
    let (indent, empty, c) :=
      match header.increment with
      | some n =>
        let indent := least + n - 1
        let (empty, c) := blockBreaks indent (c.rest.length + 1) c
        (indent, empty, c)
      | none =>
        let (empty, c, widest) := leadingBreaks (c.rest.length + 1) c 0
        (max least widest, empty, c)
    some (blockLines folded header.chomping indent (c.rest.length + 1) empty c)

end PagedQuery.Yaml
