import PagedQuery.Number.Integer

/-!
# Decimal numbers

Decimal numbers of any size, with signed zeros, infinities and quiet or signalling
not-a-numbers. A number keeps its exponent, so that `1.50` and `1.5` are equal and print apart.
-/

namespace PagedQuery.Number

open PagedQuery.Text

inductive Decimal
  | finite (negative : Bool) (coefficient : Nat) (exponent : Int)
  | infinite (negative : Bool)
  | notANumber (negative signaling : Bool) (payload : Nat)
  deriving Repr, DecidableEq, Inhabited

/-- The value `value · 10 ^ exponent`. -/
structure Scaled where
  value : Int
  exponent : Int
  deriving Repr, DecidableEq

/-- Number of decimal digits, 1 for zero. -/
def digitCount (n : Nat) : Nat := (Nat.toDigits 10 n).length

namespace Scaled

def ofInt (n : Int) : Scaled := ⟨n, 0⟩

/-- Order of two magnitudes. Numbers whose leading digits stand at different places are told apart
by these places, so that exponents of any size cost nothing. -/
def compareMagnitude (a b : Scaled) : Ordering :=
  let m := a.value.natAbs
  let n := b.value.natAbs
  if m = 0 ∨ n = 0 then compare m n
  else
    let top := a.exponent + digitCount m
    let top' := b.exponent + digitCount n
    if top ≠ top' then compare top top'
    else if a.exponent ≤ b.exponent then compare m (n * Nat.pow 10 (b.exponent - a.exponent).toNat)
    else compare (m * Nat.pow 10 (a.exponent - b.exponent).toNat) n

/-- Order of two values. -/
def compare (a b : Scaled) : Ordering :=
  if a.value < 0 then
    if b.value < 0 then compareMagnitude b a else .lt
  else if b.value < 0 then .gt
  else compareMagnitude a b

end Scaled

namespace Decimal

def ofInt (n : Int) : Decimal := .finite (n < 0) n.natAbs 0

def scaled (negative : Bool) (coefficient : Nat) (exponent : Int) : Scaled :=
  ⟨applySign negative coefficient, exponent⟩

/-- The largest exponent of a leading digit. -/
def maxExponent : Int := 999999999999999999

/-- The smallest exponent of a last digit. -/
def minExponent : Int := -1999999999999999997

def signText (negative : Bool) : String := if negative then "-" else ""

/-- Digits with a point after a number of them, zeros in the places where there are none. -/
def pointText (digits : List Char) (point : Int) : String :=
  if point ≤ 0 then "0." ++ String.ofList (List.replicate point.natAbs '0' ++ digits)
  else if point ≥ digits.length then
    String.ofList (digits ++ List.replicate (point.natAbs - digits.length) '0')
  else
    String.ofList (digits.take point.natAbs) ++ "." ++ String.ofList (digits.drop point.natAbs)

/-- Positional where the exponent is not positive and at most five zeros follow the point, else with
an exponent after one digit. -/
def finiteText (coefficient : Nat) (exponent : Int) : String :=
  let digits := Nat.toDigits 10 coefficient
  let left := exponent + digits.length
  let positional := exponent ≤ 0 ∧ left > -6
  let point : Int := if positional then left else 1
  if left = point then pointText digits point
  else
    pointText digits point ++ "E" ++ (if left - point < 0 then "" else "+") ++
      toString (left - point)

/-- The text of a decimal number. -/
def text : Decimal → String
  | .finite negative coefficient exponent => signText negative ++ finiteText coefficient exponent
  | .infinite negative => signText negative ++ "Infinity"
  | .notANumber negative signaling payload =>
    signText negative ++ (if signaling then "sNaN" else "NaN") ++
      (if payload = 0 then "" else toString payload)

/-- Digits before and after a point, at least one in all. -/
def readMantissa? (cs : List Char) : Option (List Nat × Nat) :=
  let whole := cs.takeWhile Char.isDigit
  let rest := cs.dropWhile Char.isDigit
  let fraction := if rest.head? = some '.' then rest.drop 1 else []
  if rest ≠ [] ∧ rest.head? ≠ some '.' then none
  else if fraction.any (!·.isDigit) then none
  else if whole.isEmpty && fraction.isEmpty then none
  else some ((whole ++ fraction).map fun c => c.toNat - 48, fraction.length)

/-- An exponent after its mark. -/
def readExponent? (cs : List Char) : Option Int :=
  let (negative, ds) := splitSign cs
  (asciiDigits? ds).map fun ds => applySign negative (ofDigits ds)

/-- Digits with a point and an exponent: the digit values, how many of them follow the point, and
the exponent. -/
def readNumber? (cs : List Char) : Option (List Nat × Nat × Int) :=
  let isMark := fun c => c == 'e' || c == 'E'
  let mantissa := cs.takeWhile (!isMark ·)
  match cs.dropWhile (!isMark ·) with
  | [] => (readMantissa? mantissa).map fun (ds, places) => (ds, places, 0)
  | _ :: mark =>
    match readMantissa? mantissa, readExponent? mark with
    | some (ds, places), some e => some (ds, places, e)
    | _, _ => none

/-- A number, unless its exponent is out of range. -/
def ofReading? (negative : Bool) (ds : List Nat) (places : Nat) (e : Int) : Option Decimal :=
  let coefficient := ofDigits ds
  let exponent := e - places
  let top := if coefficient = 0 then exponent else exponent + digitCount coefficient - 1
  if top > maxExponent ∨ exponent < minExponent then none
  else some (.finite negative coefficient exponent)

/-- The decimal number of a text: digits of any script with a point and an exponent, an infinity, or
a not-a-number with a payload. -/
def read? (s : String) : Option Decimal :=
  let (negative, cs) := splitSign ((trimChars s.toList).map asciiDigit)
  let word := cs.map Char.toLower
  if word = "inf".toList ∨ word = "infinity".toList then some (.infinite negative)
  else
    let signaling := word.take 4 = "snan".toList
    if signaling ∨ word.take 3 = "nan".toList then
      let payload := word.drop (if signaling then 4 else 3)
      if payload.all Char.isDigit then
        some (.notANumber negative signaling (ofDigits (payload.map fun c => c.toNat - 48)))
      else none
    else
      match readNumber? cs with
      | some (ds, places, e) => ofReading? negative ds places e
      | none => none

/-- The whole part, toward zero. -/
def truncate (negative : Bool) (coefficient : Nat) (exponent : Int) : Int :=
  applySign negative
    (if 0 ≤ exponent then coefficient * Nat.pow 10 exponent.toNat
     else if digitCount coefficient ≤ exponent.natAbs then 0
     else coefficient / Nat.pow 10 exponent.natAbs)

end Decimal

end PagedQuery.Number
