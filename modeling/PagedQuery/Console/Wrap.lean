import PagedQuery.Text.Blank
import PagedQuery.Text.Split
import PagedQuery.Text.Width

/-!
# Wrapping

Texts as lines of a limited width. Lines break between words, and words that are too wide for any
line are folded or cut.
-/

namespace PagedQuery.Console

open PagedQuery.Text

def spaces (n : Nat) : List Char := List.replicate n ' '

def trimEnd (cs : List Char) : List Char := (cs.reverse.dropWhile isBlank).reverse

/-- How lines are filled. -/
inductive Alignment
  /-- As they are. -/
  | ragged
  | left
  | center
  deriving Repr, DecidableEq

/-- What becomes of words that are too wide. -/
inductive Overflow
  | fold
  | ellipsis
  deriving Repr, DecidableEq

/-- Words with the blanks after them; blanks before the first word belong to it. -/
def wordsFrom : Nat → List Char → List (List Char)
  | 0, _ => []
  | fuel + 1, cs =>
    let leading := cs.takeWhile isBlank
    let rest := cs.drop leading.length
    let word := rest.takeWhile (!isBlank ·)
    let rest := rest.drop word.length
    let trailing := rest.takeWhile isBlank
    if word.isEmpty then []
    else (leading ++ word ++ trailing) :: wordsFrom fuel (rest.drop trailing.length)

def words (cs : List Char) : List (List Char) := wordsFrom (cs.length + 1) cs

/-- Pieces of a word that are at most `width` wide, after a piece begun. -/
def chopFrom (width used : Nat) (piece : List Char) : List Sign → List (List Char)
  | [] => [piece]
  | s :: rest =>
    if used + s.width > width then piece :: chopFrom width s.width s.chars rest
    else chopFrom width (used + s.width) (piece ++ s.chars) rest

/-- The starts of pieces, from a position on, and the width of the last piece. -/
def pieceStarts : Nat → List (List Char) → List Nat × Nat
  | _, [] => ([], 0)
  | start, [piece] => ([start], columns piece)
  | start, piece :: rest =>
    let (starts, last) := pieceStarts (start + piece.length) rest
    (start :: starts, last)

/-- The positions at which lines break, for words from a position on, with part of a line used. -/
def breaks (width : Nat) (overflow : Overflow) : Nat → Nat → List (List Char) → List Nat
  | _, _, [] => []
  | start, used, word :: rest =>
    let next := start + word.length
    let wide := columns (trimEnd word)
    if used + wide ≤ width then breaks width overflow next (used + columns word) rest
    else if width < wide then
      match overflow with
      | .fold =>
        let (starts, last) := pieceStarts start (chopFrom width 0 [] (signs word))
        starts.filter (· != 0) ++ breaks width overflow next last rest
      | .ellipsis => [start].filter (· != 0) ++ breaks width overflow next (columns word) rest
    else if used ≠ 0 ∧ start ≠ 0 then start :: breaks width overflow next (columns word) rest
    else breaks width overflow next used rest

/-- A text cut at positions counted from an earlier position. -/
def cutAt : Nat → List Nat → List Char → List (List Char)
  | _, [], cs => [cs]
  | start, p :: ps, cs => cs.take (p - start) :: cutAt p ps (cs.drop (p - start))

/-- A line without the blanks at its end that stand beyond the width. -/
def dropOutside (width : Nat) (cs : List Char) : List Char :=
  let blanks := cs.length - (trimEnd cs).length
  cs.take (cs.length - min blanks (cs.length - width))

/-- The start of a text of the given width, filled where a wide sign does not fit. -/
def fit (width : Nat) : List Sign → List Char
  | [] => spaces width
  | s :: rest =>
    if 0 < width ∧ s.width ≤ width then s.chars ++ fit (width - s.width) rest else spaces width

/-- A line that is not wider than allowed. -/
def truncate (width : Nat) (overflow : Overflow) (cs : List Char) : List Char :=
  if columns cs ≤ width then cs
  else
    match overflow with
    | .fold => fit width (signs cs)
    | .ellipsis => fit (width - 1) (signs cs) ++ ['…']

/-- A line filled up to a width. -/
def fill (width : Nat) (cs : List Char) : List Char := cs ++ spaces (width - columns cs)

/-- A line in its place. A joiner at the end takes up the first blank after it, so that a second
filling adds one. -/
def align (width : Nat) (overflow : Overflow) : Alignment → List Char → List Char
  | .ragged, cs => truncate width overflow cs
  | .left, cs => fill width (fill width (truncate width overflow cs))
  | .center, cs =>
    let cs := truncate width overflow (trimEnd cs)
    fill width (spaces ((width - columns cs) / 2) ++ cs)

/-- The parts of a line between tabs, each tab widened to the next multiple of eight columns. -/
def expandTabs (column : Nat) : List (List Char) → List Char
  | [] => []
  | [part] => part
  | part :: rest =>
    let start := column + columns (part ++ [' '])
    let fill := (8 - start % 8) % 8
    part ++ spaces (1 + fill) ++ expandTabs (start + fill) rest

/-- A text as lines. -/
def wrap (width : Nat) (alignment : Alignment) (overflow : Overflow) (s : String) : List String :=
  (splitChars '\n' s.toList).flatMap fun line =>
    let line := expandTabs 0 (splitChars '\t' line)
    (cutAt 0 (breaks width overflow 0 0 (words line)) line).map fun piece =>
      String.ofList (align width overflow alignment (dropOutside width piece))

end PagedQuery.Console
