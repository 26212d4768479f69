import PagedQuery.Fault
import PagedQuery.Schema.Basic
import PagedQuery.Text.Search
import PagedQuery.Time.Iso

/-!
# Cells

Values as tables store them, their order, and the comparisons that a missing value leaves open.
Moments are stored as texts without an offset, truth values as numbers, members of enumerations by
name.
-/

namespace PagedQuery

open PagedQuery.Number PagedQuery.Text PagedQuery.Time

inductive Cell
  | null
  | integer (n : Int)
  | real (x : Float)
  | text (s : String)
  deriving Inhabited

/-- Integers that a cell can hold, those of 64 bits with a sign. -/
def Cell.holdsInteger (n : Int) : Bool := -9223372036854775808 ≤ n && n < 9223372036854775808

namespace Cell

def ofInteger (n : Int) : Except Fault Cell :=
  if holdsInteger n then .ok (.integer n) else .error .integerTooLarge

/-- A not-a-number is stored as a missing value. -/
def ofFloat (x : Float) : Cell :=
  match FloatParts.ofFloat x with
  | .notANumber => .null
  | _ => .real x

/-- A moment with all its six decimals, its offset left out. -/
def momentText (t : DateTime) : String :=
  t.date.text ++ " " ++
    { t.time with micro := 0, offset := none }.text ++ "." ++ padded 6 t.time.micro

/-- The cell of a value of a declared type. -/
def ofValue : Value → Except Fault Cell
  | .null => .ok .null
  | .bool b => .ok (.integer (if b then 1 else 0))
  | .int n => ofInteger n
  | .float x => .ok (ofFloat x)
  | .decimal d => .ok (ofFloat ((readFloat? d.text).getD 0.0))
  | .date d => .ok (.text d.text)
  | .dateTime t => .ok (.text (momentText t))
  | .member _ _ name _ => .ok (.text name)
  | v => .ok (.text v.toText)

/-- The cell of a value of no declared type; values without a form of storage are refused. -/
def ofParameter : Value → Except Fault Cell
  | .null => .ok .null
  | .bool b => .ok (.integer (if b then 1 else 0))
  | .int n => ofInteger n
  | .float x => .ok (ofFloat x)
  | .text s | .code s => .ok (.text s)
  | .date d => .ok (.text d.text)
  | .dateTime t => .ok (.text (t.textWith " "))
  | .bytes bs => .ok (.text ("x" ++ String.join (bs.map fun b => hexText 2 b.toNat)))
  | _ => .error .unsupportedParameter

/-- The value of a cell in a column of a declared type. -/
def toValue (s : Schema) (type : FieldType) : Cell → Value
  | .null => .null
  | .integer n => if type == .scalar .bool then .bool (n != 0) else .int n
  | .real x => .float x
  | .text t =>
    match type with
    | .enumeration name => (((s.enumeration? name).bind (·.member? t))).getD .null
    | .scalar .dateTime =>
      match Iso.readDateTime t with
      | .ok moment => .dateTime moment
      | .error _ => .null
    | .scalar .date => ((Iso.readDate? t).map Value.date).getD .null
    | _ => .text t

/-- A number as an exact decimal. A not-a-number counts as missing. -/
def number? : Cell → Option Decimal
  | .integer n => some (.ofInt n)
  | .real x =>
    match FloatParts.ofFloat x with
    | .notANumber => none
    | parts => some parts.toDecimal
  | _ => none

/-- Missing values come first, then numbers, then texts. -/
def rank : Cell → Nat
  | .text _ => 2
  | c => if c.number?.isSome then 1 else 0

/-- The order of cells. -/
def order (a b : Cell) : Ordering :=
  match a, b with
  | .text s, .text t => compareText s t
  | a, b =>
    match a.number?, b.number? with
    | some m, some n => (compareDecimals m n).getD .eq
    | _, _ => compare a.rank b.rank

/-- A comparison, open if a value is missing. -/
def compare? (op : Comparison) : Cell → Cell → Option Bool
  | .null, _ | _, .null => none
  | a, b => some (op.holds (order a b))

/-- The characters of a text before its first null character, where patterns and the texts that
they are matched with end. -/
def patternChars (cs : List Char) : List Char := cs.takeWhile (· != '\x00')

/-- Whether a text contains another one, whatever the case of ASCII letters; it has to end with one
that is cut short. -/
def textContains (s pattern : String) : Bool :=
  let seen := patternChars (lowerAscii s).toList
  let wanted := (lowerAscii pattern).toList
  if '\x00' ∈ wanted then (patternChars wanted).isSuffixOf seen else occursIn wanted seen

/-- A text that spells a number as that number, as integer columns compare it. -/
def numeric (c : Cell) : Cell :=
  match c with
  | .text s =>
    match Decimal.readNumber? (splitSign (trimChars s.toList)).2 with
    | none => c
    | some _ =>
      match readFloat? s with
      | some x => .real x
      | none => c
  | c => c

end Cell

end PagedQuery
