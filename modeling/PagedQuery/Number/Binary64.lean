import PagedQuery.Number.Decimal

/-!
# Binary floating-point numbers

Exact values of 64-bit floats, their shortest texts and the reading of float texts.
-/

namespace PagedQuery.Number

open PagedQuery.Text

/-- A float taken apart: `mantissa · 2 ^ exponent` with a sign, or a special value. -/
inductive FloatParts
  | finite (negative : Bool) (mantissa : Nat) (exponent : Int)
  | infinite (negative : Bool)
  | notANumber
  deriving Repr, DecidableEq

def FloatParts.ofBits (bits : Nat) : FloatParts :=
  let negative : Bool := bits / Nat.pow 2 63 = 1
  let field : Nat := bits / Nat.pow 2 52 % 2048
  let fraction : Nat := bits % Nat.pow 2 52
  if field = 2047 then (if fraction = 0 then .infinite negative else .notANumber)
  else if field = 0 then .finite negative fraction (-1074)
  else .finite negative (fraction + Nat.pow 2 52) ((field : Int) - 1075)

def FloatParts.ofFloat (x : Float) : FloatParts := .ofBits x.toBits.toNat

/-- The exact decimal value of `mantissa · 2 ^ exponent`. -/
def exactDecimal (mantissa : Nat) (exponent : Int) : Nat × Int :=
  if 0 ≤ exponent then (mantissa * Nat.pow 2 exponent.toNat, 0)
  else (mantissa * Nat.pow 5 exponent.natAbs, exponent)

/-- The decimal number equal to a float. -/
def FloatParts.toDecimal : FloatParts → Decimal
  | .finite negative mantissa exponent =>
    let (coefficient, e) := exactDecimal mantissa exponent
    .finite negative coefficient e
  | .infinite negative => .infinite negative
  | .notANumber => .notANumber false false 0

/-- The whole part of a finite float, toward zero. -/
def truncateFloat (negative : Bool) (mantissa : Nat) (exponent : Int) : Int :=
  applySign negative
    (if 0 ≤ exponent then mantissa * Nat.pow 2 exponent.toNat
     else mantissa / Nat.pow 2 exponent.natAbs)

/-- A positive float `mantissa · 2 ^ exponent` and the interval of reals that round to it, all in
units of `2 ^ (exponent - 2)`; the ends belong to it iff the mantissa is even. -/
structure Rounding where
  unit : Int
  low : Nat
  value : Nat
  high : Nat
  closed : Bool

def Rounding.of (mantissa : Nat) (exponent : Int) : Rounding :=
  let lowGap := if mantissa = Nat.pow 2 52 ∧ exponent > -1074 then 1 else 2
  ⟨exponent - 2, 4 * mantissa - lowGap, 4 * mantissa, 4 * mantissa + 2, mantissa % 2 = 0⟩

/-- `n · 2 ^ two · 10 ^ -ten` as a fraction with a positive denominator. -/
def scaleFraction (n : Nat) (two ten : Int) : Nat × Nat :=
  (n * Nat.pow 2 two.toNat * Nat.pow 10 (-ten).toNat, Nat.pow 2 (-two).toNat * Nat.pow 10 ten.toNat)

/-- The digits `c` for which `c · 10 ^ place` rounds to the float and is nearest to it, if one of
the two neighbours of the float on that decimal grid does. A tie goes to the even one. -/
def Rounding.onGrid (r : Rounding) (place : Int) : Option Nat :=
  let (value, unit) := scaleFraction r.value r.unit place
  let (low, _) := scaleFraction r.low r.unit place
  let (high, _) := scaleFraction r.high r.unit place
  let fits := fun c : Nat =>
    if r.closed then low ≤ c * unit && c * unit ≤ high else low < c * unit && c * unit < high
  let down := value / unit
  let below := value - down * unit
  match fits down && down > 0, fits (down + 1) with
  | true, true =>
    some (if 2 * below < unit then down
          else if 2 * below > unit then down + 1
          else if down % 2 = 0 then down else down + 1)
  | true, false => some down
  | false, true => some (down + 1)
  | false, false => none

/-- The place of the leading digit: the least `k` with value below `10 ^ k`. -/
def leadingPlace (mantissa : Nat) (exponent : Int) : Int :=
  let (coefficient, e) := exactDecimal mantissa exponent
  e + digitCount coefficient

/-- The fewest digits that round to the float, nearest to it, and the place of the point before
them. -/
def shortestDigits (mantissa : Nat) (exponent : Int) : List Char × Int :=
  let r := Rounding.of mantissa exponent
  let top := leadingPlace mantissa exponent
  let found := (List.range 17).findSome? fun (i : Nat) =>
    let place := top - ((i : Int) + 1)
    (r.onGrid place).map fun c => (c, place)
  match found with
  | some (c, place) =>
    let digits := Nat.toDigits 10 c
    let kept := (digits.reverse.dropWhile (· == '0')).reverse
    (kept, place + digits.length)
  | none => (['0'], 1)

/-- How a float is laid out: from which place of the point on it is written with an exponent. -/
structure FloatLayout where
  /-- Smallest place of the point written positionally. -/
  smallest : Int
  /-- Largest place of the point written positionally. -/
  largest : Int
  exponentWidth : Nat
  infinity : String
  notANumber : String

/-- Positional from `0.0001` to below `10 ^ 16`, with a point in any case, else an exponent of at
least two digits with its sign. -/
def plainLayout : FloatLayout := ⟨-3, 16, 2, "inf", "nan"⟩

def FloatLayout.render (layout : FloatLayout) (digits : List Char) (point : Int) : String :=
  if layout.smallest ≤ point ∧ point ≤ layout.largest then
    if point ≤ 0 then "0." ++ String.ofList (List.replicate point.natAbs '0' ++ digits)
    else if digits.length ≤ point.natAbs then
      String.ofList (digits ++ List.replicate (point.natAbs - digits.length) '0') ++ ".0"
    else
      String.ofList (digits.take point.natAbs) ++ "." ++ String.ofList (digits.drop point.natAbs)
  else
    let mantissa :=
      match digits with
      | [] => "0"
      | [d] => d.toString
      | d :: rest => d.toString ++ "." ++ String.ofList rest
    mantissa ++ "e" ++ (if point - 1 < 0 then "-" else "+") ++
      padded layout.exponentWidth (point - 1).natAbs

/-- The text of a float in a layout. -/
def FloatLayout.text (layout : FloatLayout) (x : Float) : String :=
  match FloatParts.ofFloat x with
  | .notANumber => layout.notANumber
  | .infinite negative => Decimal.signText negative ++ layout.infinity
  | .finite negative 0 _ => Decimal.signText negative ++ "0.0"
  | .finite negative mantissa exponent =>
    let (digits, point) := shortestDigits mantissa exponent
    Decimal.signText negative ++ layout.render digits point

/-- The shortest text that reads back as the float. -/
def floatText (x : Float) : String := plainLayout.text x

/-- The sixteen hexadecimal digits of the bits, `nan` for every not-a-number. -/
def floatBitsText (x : Float) : String :=
  match FloatParts.ofFloat x with
  | .notANumber => "nan"
  | _ => hexText 16 x.toBits.toNat

def infinity : Float := 1.0 / 0.0

def notANumber : Float := 0.0 / 0.0

/-- The float nearest to `coefficient · 10 ^ exponent`. Values far outside the range of floats are
settled by the place of their leading digit. -/
def floatOfDecimal (coefficient : Nat) (exponent : Int) : Float :=
  let top := exponent + digitCount coefficient
  if coefficient = 0 ∨ top < -330 then 0.0
  else if top > 310 then infinity
  else if 0 ≤ exponent then Float.ofScientific (coefficient * Nat.pow 10 exponent.toNat) false 0
  else Float.ofScientific coefficient true exponent.natAbs

/-- The float of a text: digits of any script with a point and an exponent, an infinity or `nan`. -/
def readFloat? (s : String) : Option Float :=
  let (negative, cs) := splitSign ((stripList isNumberBlank s.toList).map asciiDigit)
  let word := cs.map Char.toLower
  let magnitude? :=
    if word = "inf".toList ∨ word = "infinity".toList then some infinity
    else if word = "nan".toList then some notANumber
    else (Decimal.readNumber? cs).map fun (ds, places, e) =>
      floatOfDecimal (ofDigits ds) (e - places)
  magnitude?.map fun x => if negative then -x else x

end PagedQuery.Number
