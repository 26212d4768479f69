import PagedQuery.Console.Markup
import PagedQuery.Console.Wrap

/-!
# Tables on the console

Columns as wide as their widest cell, made narrower together from the widest on until the table
fits; cells are wrapped then. The title is centered above the table and no wider than it.
-/

namespace PagedQuery.Console

open PagedQuery.Text

structure Grid where
  title : String
  columns : List String
  rows : List (List String)
  deriving Repr

/-- The width of the console. -/
def consoleWidth : Nat := 80

/-- Characters at which texts are taken apart into lines to measure them. -/
def isLineEnd (c : Char) : Bool :=
  c == '\n' || c == '\u001c' || c == '\u001d' || c == '\u001e' || c == '\u0085' ||
    c == '\u2028' || c == '\u2029'

/-- The width of the widest line of a text. -/
def textWidth (s : String) : Nat :=
  let cs := s.toList.map fun c => if isLineEnd c then '\n' else c
  ((splitChars '\n' cs).map columns).foldl max 0

/-- The width of a cell with a space on both sides, within a limit. -/
def cellWidth (limit : Nat) (s : String) : Nat :=
  if limit < 3 then limit else min (min (textWidth s) limit + 2) limit

def total (widths : List Nat) : Nat := widths.foldl (· + ·) 0

def columnWidth (limit : Nat) (cells : List String) : Nat :=
  (cells.map (cellWidth limit)).foldl max 0

/-- The whole number nearest to a quotient, of two the even one. -/
def roundQuotient (n d : Nat) : Nat :=
  let q := n / d
  let r := n % d
  if 2 * r < d then q else if d < 2 * r then q + 1 else q + q % 2

/-- Widths of which the chosen ones, `count` of them, are reduced by a total in equal shares, each
by its limit at most. -/
def reduce (total count : Nat) : List (Nat × Bool × Nat) → List Nat
  | [] => []
  | (width, chosen, limit) :: rest =>
    if chosen && 0 < count && 0 < limit then
      let share := min limit (roundQuotient total count)
      (width - share) :: reduce (total - share) (count - 1) rest
    else width :: reduce total count rest

/-- Reduces the widest columns to the width of the next ones until the sum is within the limit. -/
def collapse (limit : Nat) : Nat → List Nat → List Nat
  | 0, widths => widths
  | fuel + 1, widths =>
    let excess := total widths - limit
    let widest := widths.foldl max 0
    let second := (widths.filter (· != widest)).foldl max 0
    if excess = 0 ∨ widest = second then widths
    else
      let step := min excess (widest - second)
      collapse limit fuel
        (reduce excess (widths.count widest) (widths.map fun w => (w, w == widest, step)))

/-- Widths within the limit. -/
def fitWidths (limit : Nat) (widths : List Nat) : List Nat :=
  let narrow := collapse limit (total widths + 1) widths
  let excess := total narrow - limit
  reduce excess (narrow.filter (· != 0)).length (narrow.map fun w => (w, true, w))

namespace Grid

/-- The cells of each column, its heading first. -/
def columnCells (g : Grid) : List (List String) :=
  g.columns.zipIdx.map fun (heading, i) => heading :: g.rows.map fun row => row.getD i ""

/-- The widths of the columns, their spaces included. -/
def widths (g : Grid) : List Nat :=
  let limit := consoleWidth - (g.columns.length + 1)
  let wanted := g.columnCells.map (columnWidth limit)
  if total wanted ≤ limit then wanted
  else
    ((fitWidths limit wanted).zip g.columnCells).map fun (w, cells) => columnWidth w cells

end Grid

/-- A line between rows. -/
def rule (left fill divider right : String) (widths : List Nat) : String :=
  let lines := widths.map fun w => String.join (List.replicate w fill)
  left ++ String.intercalate divider lines ++ right

/-- The lines of a cell with a space on both sides. -/
def cellLines (width : Nat) (s : String) : List String :=
  (wrap (width - 2) .left .ellipsis s).map fun line => " " ++ line ++ " "

/-- The lines of a row. -/
def rowLines (edge : String) (widths : List Nat) (row : List String) : List String :=
  let columns := (widths.zip row).map fun (w, s) => (w, cellLines w s)
  let height := (columns.map (·.2.length)).foldl max 1
  (List.range height).map fun i =>
    edge ++ String.intercalate edge (columns.map fun (w, lines) =>
      lines.getD i (String.ofList (spaces w))) ++ edge

/-- The lines of a table whose texts hold no markup; none without columns but an empty one. -/
def Grid.lines (g : Grid) : List String :=
  if g.columns.isEmpty then [""]
  else
    let widths := g.widths
    let width := total widths + g.columns.length + 1
    let title := if g.title = "" then [] else wrap width .center .fold g.title
    title ++ [rule "┏" "━" "┳" "┓" widths] ++ rowLines "┃" widths g.columns ++
      [rule "┡" "━" "╇" "┩" widths] ++ g.rows.flatMap (rowLines "│" widths) ++
      [rule "└" "─" "┴" "┘" widths]

/-- A table with the markup of its texts resolved. Errors are looked for in column after column. -/
def Grid.resolve (g : Grid) : Except MarkupError Grid := do
  let _ ← g.columnCells.mapM fun cells => cells.mapM render
  let columns ← g.columns.mapM render
  let rows ← g.rows.mapM fun row => row.mapM render
  return ⟨← render g.title, columns, rows⟩

/-- The text of lines. -/
def ofLines (lines : List String) : String := String.join (lines.map (· ++ "\n"))

/-- The text of a table. -/
def Grid.text (g : Grid) : Except MarkupError String := do
  if g.columns.isEmpty then return "\n"
  return ofLines (← g.resolve).lines

/-- The text of a message. -/
def messageText (s : String) : Except MarkupError String := do
  return ofLines (wrap consoleWidth .ragged .fold (← render s))

end PagedQuery.Console
