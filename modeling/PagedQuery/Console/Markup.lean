import PagedQuery.Console.Picture
import PagedQuery.Console.Style
import PagedQuery.Number.Integer

/-!
# Markup

Texts for the console may hold style tags in brackets and names of pictures. Styles do not show on
a plain console, so that only the text between the tags is left; a closing tag without an open one
is an error.
-/

namespace PagedQuery.Console

open PagedQuery.Text

/-- Why a text cannot be shown. Positions are numbers of characters before a tag. -/
inductive MarkupError
  | unmatched (tag : String) (position : Nat)
  | nothingOpen (position : Nat)
  /-- A color lacks one of its three numbers. -/
  | incompleteColor
  deriving Repr, DecidableEq

def MarkupError.message : MarkupError → String
  | .unmatched tag position =>
    "closing tag '" ++ tag ++ "' at position " ++ toString position ++
      " doesn't match any open tag"
  | .nothingOpen position =>
    "closing tag '[/]' at position " ++ toString position ++ " has nothing to close"
  | .incompleteColor => Number.literalMessage 10 ""

inductive Piece
  | plain (cs : List Char)
  | tag (body : List Char) (position : Nat)
  deriving Repr, DecidableEq

/-- The characters that a tag starts with. -/
def startsTag (c : Char) : Bool := c.isLower || c == '#' || c == '/' || c == '@'

/-- The body of a tag at the start of a text, and the rest. -/
def tagBody? : List Char → Option (List Char × List Char)
  | '\x5b' :: c :: rest =>
    if startsTag c then
      let inside := rest.takeWhile fun d => d != '\x5b' && d != '\x5d'
      match rest.drop inside.length with
      | '\x5d' :: rest => some (c :: inside, rest)
      | _ => none
    else none
  | _ => none

/-- The pieces of a text from a position on. Before a tag two backslashes stand for one, and an odd
one makes the tag plain. -/
def pieces : Nat → Nat → List Char → List Char → List Piece
  | 0, _, seen, cs => [.plain (seen.reverse ++ cs)]
  | fuel + 1, position, seen, cs =>
    let slashes := cs.takeWhile (· == '\\')
    let n := slashes.length
    match tagBody? (cs.drop n), cs with
    | some (body, rest), _ =>
      let before := [Piece.plain seen.reverse, .plain (List.replicate (n / 2) '\\')]
      let next := position + n + body.length + 2
      let here :=
        if n % 2 = 1 then Piece.plain ('\x5b' :: body ++ ['\x5d'])
        else .tag body (position + n)
      before ++ here :: pieces fuel next [] rest
    | none, [] => [.plain seen.reverse]
    | none, c :: rest => pieces fuel (position + 1) (c :: seen) rest

/-- A plain piece as it shows: an escaped bracket is a bracket. -/
def unescape : List Char → List Char
  | '\\' :: '\x5b' :: rest => '\x5b' :: unescape rest
  | c :: rest => c :: unescape rest
  | [] => []

/-- Characters that move the cursor, which are left out. -/
def isControl (c : Char) : Bool :=
  let code := c.toNat
  code == 7 || code == 8 || (11 ≤ code && code ≤ 13)

/-- The name of the style of a tag. -/
def tagStyle (cs : List Char) : Except MarkupError String :=
  (styleName cs).mapError fun _ => .incompleteColor

/-- The text of pieces inside open tags, the innermost first. -/
def plainText (opened : List String) : List Piece → Except MarkupError (List Char)
  | [] => .ok []
  | .plain cs :: rest => do return withPictures (unescape cs) ++ (← plainText opened rest)
  | .tag body position :: rest =>
    match body.takeWhile (· != '=') with
    | '/' :: closed =>
      if (trimChars closed).isEmpty then
        match opened with
        | [] => .error (.nothingOpen position)
        | _ :: opened => plainText opened rest
      else do
        let style ← tagStyle closed
        if opened.contains style then plainText (opened.erase style) rest
        else throw (.unmatched (String.ofList ('\x5b' :: body ++ ['\x5d'])) position)
    | name => do plainText ((← tagStyle name) :: opened) rest

/-- The text that shows. -/
def render (s : String) : Except MarkupError String := do
  let cs := s.toList
  let shown ← plainText [] (pieces (cs.length + 1) 0 [] cs)
  return String.ofList (shown.filter (!isControl ·))

/-- A text in a style. -/
def styled (style s : String) : String := "[" ++ style ++ "]" ++ s ++ "[/" ++ style ++ "]"

end PagedQuery.Console
