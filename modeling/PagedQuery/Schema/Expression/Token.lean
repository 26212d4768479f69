import PagedQuery.Number.Binary64
import PagedQuery.Number.Integer
import PagedQuery.Text.Blank
import PagedQuery.Text.Split
import PagedQuery.Text.Word

/-!
# Tokens of type expressions

An expression is one line of words, literals and signs. Line ends count as blanks inside brackets;
elsewhere nothing but blank lines and comments may follow one.
-/

namespace PagedQuery.Expression

open PagedQuery.Number PagedQuery.Text

/-- A part of a text with places to fill in. -/
inductive TemplatePart
  | text (s : String)
  /-- A place for the value of an expression, with the letter of its form of text and its layout. -/
  | place (source form : String) (layout : List TemplatePart)
  deriving Inhabited

mutual
/-- The expressions in the places of a template. -/
def TemplatePart.sources : TemplatePart → List String
  | .text _ => []
  | .place source _ layout => source :: sourcesOf layout
def sourcesOf : List TemplatePart → List String
  | [] => []
  | part :: parts => part.sources ++ sourcesOf parts
end

inductive Token
  | word (s : String)
  | whole (n : Nat)
  | float (x : Float)
  /-- A number with the mark of the imaginary unit. -/
  | imaginary
  | text (s : String)
  | bytes (bs : List UInt8)
  | template (parts : List TemplatePart)
  | sign (s : String)

/-! ## Numbers -/

/-- Digits of a base with single underscores between them, and the rest. -/
def takeDigits (base : Nat) : List Char → List Nat × List Char
  | '_' :: c :: rest =>
    match (letterValue? c).filter (· < base) with
    | some d =>
      let (ds, rest) := takeDigits base rest
      (d :: ds, rest)
    | none => ([], '_' :: c :: rest)
  | c :: rest =>
    match (letterValue? c).filter (· < base) with
    | some d =>
      let (ds, rest) := takeDigits base rest
      (d :: ds, rest)
    | none => ([], c :: rest)
  | [] => ([], [])

/-- Decimal digits that start with one, and the rest. -/
def takeDecimals (cs : List Char) : List Nat × List Char :=
  if (cs.head?.map Char.isDigit).getD false then takeDigits 10 cs else ([], cs)

/-- The exponent of a number and the rest; without digits there is none. -/
def takeExponent (cs : List Char) : Option Int × List Char :=
  match cs with
  | e :: rest =>
    if e = 'e' ∨ e = 'E' then
      let (negative, digits) := splitSign rest
      match takeDecimals digits with
      | ([], _) => (none, cs)
      | (ds, rest) => (some (applySign negative (ofDigits ds)), rest)
    else (none, cs)
  | [] => (none, [])

/-- Whether a number may end before these characters: before no word but one that joins operands. -/
def mayFollowNumber (cs : List Char) : Bool :=
  !(cs.head?.map isWordPart).getD false ||
    ["and", "else", "for", "if", "in", "is", "not", "or"].any fun w =>
      (afterPrefix? w.toList cs).isSome

/-- A whole number of the digits after a mark of its base. -/
def readMarked (base : Nat) (cs : List Char) : Option (Token × List Char) :=
  match takeDigits base cs with
  | ([], _) => none
  | (ds, rest) => some (.whole (ds.foldl (fun n d => base * n + d) 0), rest)

/-- A decimal number: only zeros may follow a leading zero of a whole one. -/
def readDecimalNumber (cs : List Char) : Option (Token × List Char) :=
  let (whole, rest) := takeDecimals cs
  let (pointed, fraction, rest) :=
    match rest with
    | '.' :: rest =>
      let (ds, rest) := takeDecimals rest
      (true, ds, rest)
    | rest => (false, [], rest)
  let (exponent?, rest) := takeExponent rest
  match rest with
  | 'j' :: rest | 'J' :: rest => some (.imaginary, rest)
  | rest =>
    if pointed ∨ exponent?.isSome then
      let e := exponent?.getD 0 - fraction.length
      some (.float (floatOfDecimal (ofDigits (whole ++ fraction)) e), rest)
    else if digitLimit < whole.length then none
    else if 1 < whole.length ∧ whole.head? = some 0 ∧ whole.any (· ≠ 0) then none
    else some (.whole (ofDigits whole), rest)

/-- A number and the rest. -/
def readNumber (cs : List Char) : Option (Token × List Char) :=
  let read :=
    match cs with
    | '0' :: mark :: rest =>
      if mark = 'x' ∨ mark = 'X' then readMarked 16 rest
      else if mark = 'o' ∨ mark = 'O' then readMarked 8 rest
      else if mark = 'b' ∨ mark = 'B' then readMarked 2 rest
      else readDecimalNumber cs
    | cs => readDecimalNumber cs
  read.filter fun (_, rest) => mayFollowNumber rest

/-! ## Texts -/

/-- The number of hexadecimal digits after the letter of an escape. -/
def escapeWidth? (letter : Char) : Option Nat :=
  if letter = 'x' then some 2
  else if letter = 'u' then some 4
  else if letter = 'U' then some 8
  else none

/-- The characters that one letter after a backslash stands for. -/
def escapedLetter? : Char → Option (List Char)
  | '\n' => some []
  | '\\' => some ['\\']
  | '\'' => some ['\'']
  | '"' => some ['"']
  | 'a' => some ['\x07']
  | 'b' => some ['\x08']
  | 'f' => some ['\x0c']
  | 'n' => some ['\n']
  | 'r' => some ['\r']
  | 't' => some ['\t']
  | 'v' => some ['\x0b']
  | _ => none

def isOctal (c : Char) : Bool := '0' ≤ c && c ≤ '7'

/-- The characters of a literal with escapes; bytes have none for larger code points. An escape
that is not known stays as it is. -/
def unescape (isBytes : Bool) : Nat → List Char → Option (List Char)
  | 0, _ => some []
  | _ + 1, [] => some []
  | fuel + 1, '\\' :: c :: rest =>
    match escapedLetter? c with
    | some cs => (unescape isBytes fuel rest).map (cs ++ ·)
    | none =>
      if isOctal c then
        let digits := ((c :: rest).take 3).takeWhile isOctal
        let code := digits.foldl (fun n d => 8 * n + (d.toNat - 48)) 0
        (unescape isBytes fuel ((c :: rest).drop digits.length)).map
          (Char.ofNat (if isBytes then code % 256 else code) :: ·)
      else if c = 'N' ∧ !isBytes then none
      else
        match (escapeWidth? c).filter fun width => !isBytes || width == 2 with
        | none => (unescape isBytes fuel rest).map ('\\' :: c :: ·)
        | some width =>
          match (rest.take width).mapM hexValue? with
          | none => none
          | some ds =>
            let code := ds.foldl (fun n d => 16 * n + d) 0
            if ds.length = width ∧ code < 0x110000 then
              (unescape isBytes fuel (rest.drop width)).map (Char.ofNat code :: ·)
            else none
  | fuel + 1, c :: rest => (unescape isBytes fuel rest).map (c :: ·)

/-- The characters up to a closing mark, and the rest; a backslash keeps the character after it
from closing. One mark alone closes on the same line. -/
def takeQuoted (mark : List Char) : List Char → Option (List Char × List Char)
  | [] => none
  | '\\' :: c :: rest =>
    (takeQuoted mark rest).map fun (body, rest) => ('\\' :: c :: body, rest)
  | c :: rest =>
    match afterPrefix? mark (c :: rest) with
    | some after => some ([], after)
    | none =>
      if c = '\n' ∧ mark.length = 1 then none
      else (takeQuoted mark rest).map fun (body, rest) => (c :: body, rest)

/-- Letters before a quote that say how the literal is read. -/
structure LiteralMarks where
  raw : Bool := false
  bytes : Bool := false
  template : Bool := false

def literalMarks? (word : List Char) : Option LiteralMarks :=
  match String.ofList (word.map Char.toLower) with
  | "" | "u" => some {}
  | "r" => some { raw := true }
  | "b" => some { bytes := true }
  | "br" | "rb" => some { raw := true, bytes := true }
  | "f" => some { template := true }
  | "fr" | "rf" => some { raw := true, template := true }
  | _ => none

/-! ## Templates -/

/-- The characters of an expression in a template up to what ends it: a closing brace, a colon, an
equals sign or a mark of a form, outside of brackets and quotes. -/
def takePlace (depth : Nat) (quote : Option Char) : List Char → Option (List Char × List Char)
  | [] => none
  | c :: rest =>
    let go := fun (depth : Nat) (quote : Option Char) =>
      (takePlace depth quote rest).map fun (source, rest) => (c :: source, rest)
    if c = '\\' ∨ c = '#' then none
    else
      match quote with
      | some q => go depth (if c = q then none else quote)
      | none =>
        if c = '\'' ∨ c = '"' then go depth (some c)
        else if c = '(' ∨ c = '\x5b' ∨ c = '\x7b' then go (depth + 1) none
        else if depth = 0 ∧ (c = '\x7d' ∨ c = ':') then some ([], c :: rest)
        else if depth = 0 ∧ c = '!' ∧ rest.head? ≠ some '=' then some ([], c :: rest)
        else if depth = 0 ∧ (c = '=' ∨ c = '!' ∨ c = '<' ∨ c = '>') then
          match rest with
          | '=' :: rest =>
            (takePlace depth none rest).map fun (source, rest) => (c :: '=' :: source, rest)
          | rest => if c = '=' then some ([], c :: rest) else go depth none
        else if c = ')' ∨ c = '\x5d' ∨ c = '\x7d' then
          if depth = 0 then none else go (depth - 1) none
        else go depth none

/-- The mark of a form, if there is one, and the rest. -/
def takeForm (cs : List Char) : Option (String × List Char) :=
  match cs with
  | '!' :: c :: rest =>
    if c = 's' ∨ c = 'r' ∨ c = 'a' then some (c.toString, rest) else none
  | '!' :: _ => none
  | cs => some ("", cs)

/-- Parts with the rest after them. -/
abbrev PartsRead := Option (List TemplatePart × List Char)

/-- What stands in a place after its opening brace, and the rest. An equals sign shows the
expression before its value. `takeLayout` takes a layout up to the closing brace of the place. -/
def readPlace (takeLayout : List Char → PartsRead) (cs : List Char) : PartsRead := do
  let (source, rest) ← takePlace 0 none cs
  if source.all isBlank then none
  else
    let shown := rest.head? = some '='
    let blanks := if shown then (rest.drop 1).takeWhile isBlank else []
    let rest := if shown then rest.drop (1 + blanks.length) else rest
    let (form, rest) ← takeForm rest
    let (layout, after) ←
      match rest with
      | ':' :: rest => takeLayout rest
      | '\x7d' :: rest => some ([], rest)
      | _ => none
    let form := if shown ∧ form = "" ∧ layout.isEmpty then "r" else form
    let place := TemplatePart.place (String.ofList source) form layout
    let label := if shown then [TemplatePart.text (String.ofList (source ++ '=' :: blanks))] else []
    return (label ++ [place], after)

/-- A layout without places, up to its closing brace. -/
def takePlainLayout (decode : List Char → Option (List Char)) (cs : List Char) : PartsRead := do
  let text := cs.takeWhile fun c => c != '\x7b' && c != '\x7d'
  match cs.drop text.length with
  | '\x7d' :: rest =>
    if text.isEmpty then return ([], rest)
    else return ([.text (String.ofList (← decode text))], rest)
  | _ => none

/-- A layout with places that have plain layouts, up to its closing brace. -/
def takeLayout (decode : List Char → Option (List Char)) : Nat → List Char → PartsRead
  | 0, _ => none
  | fuel + 1, cs => do
    let text := cs.takeWhile fun c => c != '\x7b' && c != '\x7d'
    let before ← if text.isEmpty then some [] else
      (decode text).map fun cs => [TemplatePart.text (String.ofList cs)]
    match cs.drop text.length with
    | '\x7d' :: rest => return (before, rest)
    | '\x7b' :: rest =>
      let (place, rest) ← readPlace (takePlainLayout decode) rest
      let (more, rest) ← takeLayout decode fuel rest
      return (before ++ place ++ more, rest)
    | _ => none

/-- The parts of a template; in its text braces are doubled. -/
def templateParts? (decode : List Char → Option (List Char)) :
    Nat → List Char → List Char → Option (List TemplatePart)
  | 0, _, _ => none
  | fuel + 1, seen, cs =>
    let text := (decode seen.reverse).map fun cs => TemplatePart.text (String.ofList cs)
    match cs with
    | [] => text.map ([·])
    | '\x7b' :: '\x7b' :: rest => templateParts? decode fuel ('\x7b' :: seen) rest
    | '\x7d' :: '\x7d' :: rest => templateParts? decode fuel ('\x7d' :: seen) rest
    | '\x7d' :: _ => none
    | '\x7b' :: rest => do
      let (place, rest) ← readPlace (takeLayout decode (rest.length + 1)) rest
      return (← text) :: place ++ (← templateParts? decode fuel [] rest)
    | c :: rest => templateParts? decode fuel (c :: seen) rest

/-- A literal from its quote on, and the rest. -/
def readLiteral (marks : LiteralMarks) (cs : List Char) : Option (Token × List Char) := do
  let (body, rest) ←
    match cs with
    | a :: b :: c :: rest =>
      if a = b ∧ b = c then takeQuoted [a, a, a] rest else takeQuoted [a] (b :: c :: rest)
    | a :: rest => takeQuoted [a] rest
    | [] => none
  let decode := fun cs : List Char =>
    if marks.raw then some cs else unescape marks.bytes cs.length.succ cs
  if marks.bytes ∧ body.any fun c => 128 ≤ c.toNat then none
  else if marks.template then
    return (.template (← templateParts? decode (body.length + 1) [] body), rest)
  else
    let cs ← decode body
    if marks.bytes then return (.bytes (cs.map fun c => UInt8.ofNat c.toNat), rest)
    else return (.text (String.ofList cs), rest)

/-! ## Lines -/

/-- Signs of more than one character, the longest first. -/
def longSigns : List String :=
  ["...", "**", "//", "<<", ">>", "<=", ">=", "==", "!=", ":="]

/-- A sign and the rest. -/
def readSign (cs : List Char) : Option (String × List Char) :=
  match longSigns.findSome? fun s => (afterPrefix? s.toList cs).map fun rest => (s, rest) with
  | some found => some found
  | none =>
    match cs with
    | c :: rest =>
      if "()\x5b\x5d\x7b\x7d,.:|^&+-*/%@~<>=".toList.contains c then some (c.toString, rest)
      else none
    | [] => none

/-- Blanks between tokens. -/
def isSpacing (c : Char) : Bool := c = ' ' || c = '\t' || c = '\x0c'

/-- Whether lines hold nothing but blanks and comments; blanks end no text. -/
def onlyBlankLines (cs : List Char) : Bool :=
  let lines := splitChars '\n' cs
  let isBlankLine := fun line : List Char =>
    match line.dropWhile isSpacing with
    | [] => true
    | c :: _ => c = '#'
  lines.all isBlankLine && (lines.getLast?.all fun line => line = [] || line.contains '#')

/-- How deep brackets may be nested. -/
def bracketLimit : Nat := 200

/-- The change of the bracket depth at a sign, none below zero or beyond the limit. -/
def depthAfter? (depth : Nat) (sign : String) : Option Nat :=
  if ["(", "\x5b", "\x7b"].contains sign then
    if depth < bracketLimit then some (depth + 1) else none
  else if [")", "\x5d", "\x7d"].contains sign then if depth = 0 then none else some (depth - 1)
  else some depth

/-- Words that are no names. -/
def keywords : List String :=
  ["False", "None", "True", "and", "as", "assert", "async", "await", "break", "class", "continue",
   "def", "del", "elif", "else", "except", "finally", "for", "from", "global", "if", "import", "in",
   "is", "lambda", "nonlocal", "not", "or", "pass", "raise", "return", "try", "while", "with",
   "yield"]

/-- A word in its one spelling; variants of letters make no keyword. -/
def wordToken (cs : List Char) : Token :=
  let plain := plainWord cs
  if keywords.contains plain then .word (String.ofList cs) else .word plain

/-- The tokens from a place within the line on. -/
def scan : Nat → Nat → List Char → Option (List Token)
  | 0, _, _ => none
  | _ + 1, _, [] => some []
  | fuel + 1, depth, c :: rest =>
    let take := fun (read : Option (Token × List Char)) =>
      match read with
      | some (t, rest) => (scan fuel depth rest).map (t :: ·)
      | none => none
    if isSpacing c then scan fuel depth rest
    else if c = '#' then scan fuel depth (rest.dropWhile (· != '\n'))
    else if c = '\n' then
      if depth = 0 then if onlyBlankLines rest then some [] else none
      else scan fuel depth rest
    else if c = '\\' then
      match rest with
      | '\n' :: d :: rest => scan fuel depth (d :: rest)
      | _ => none
    else if c.isDigit ∨ (c = '.' ∧ (rest.head?.map Char.isDigit).getD false) then
      take (readNumber (c :: rest))
    else if c = '\'' ∨ c = '"' then take (readLiteral {} (c :: rest))
    else if isWordStart c then
      let word := c :: rest.takeWhile isWordPart
      let after := rest.dropWhile isWordPart
      if after.head? = some '\'' ∨ after.head? = some '"' then
        match literalMarks? word with
        | some marks => take (readLiteral marks after)
        | none => take (some (wordToken word, after))
      else take (some (wordToken word, after))
    else
      match readSign (c :: rest) with
      | none => none
      | some (sign, rest) =>
        match depthAfter? depth sign with
        | none => none
        | some depth => (scan fuel depth rest).map (.sign sign :: ·)

/-- Every line end as one character. -/
def unifyLineEnds : List Char → List Char
  | '\r' :: '\n' :: rest => '\n' :: unifyLineEnds rest
  | '\r' :: rest => '\n' :: unifyLineEnds rest
  | c :: rest => c :: unifyLineEnds rest
  | [] => []

/-- The text from its first line on that is not blank; that line is not indented. -/
def dropBlankLines : Nat → List Char → Option (List Char)
  | 0, _ => none
  | fuel + 1, cs =>
    let line := cs.takeWhile (· != '\n')
    let body := line.dropWhile isSpacing
    let indent := (line.takeWhile isSpacing).reverse.takeWhile (· != '\x0c')
    match body, cs.drop line.length with
    | [], [] => none
    | [], _ :: rest => dropBlankLines fuel rest
    | '#' :: _, [] => none
    | '#' :: _, _ :: rest => dropBlankLines fuel rest
    | ['\\'], _ :: d :: rest => if indent.isEmpty then dropBlankLines fuel (d :: rest) else none
    | _, rest => if indent.isEmpty then some (body ++ rest) else none

/-- The tokens of an expression, none if it is no line of tokens. -/
def tokens? (source : String) : Option (List Token) := do
  let cs := unifyLineEnds source.toList
  let cs ← dropBlankLines (cs.length + 1) cs
  scan (cs.length + 1) 0 cs

end PagedQuery.Expression
