import PagedQuery.Text.Blank
import PagedQuery.Text.Digit
import PagedQuery.Text.Quoted

/-!
# Reading integers

Two grammars: plain ASCII digits with a sign, and the wider one of request parameters, which takes
the digits of any script, single underscores between digits and surrounding blanks, and which other
bases share.
-/

namespace PagedQuery.Number

open PagedQuery.Text

/-- The most digits that an integer text may have. -/
def digitLimit : Nat := 4300

/-- Whether an integer has more digits than a text of it may have. -/
def isLong (n : Int) : Bool := Nat.pow 10 digitLimit ≤ n.natAbs

/-- Why a text is not read as an integer. -/
inductive IntegerError
  | malformed
  | tooManyDigits (count : Nat)
  deriving Repr, DecidableEq

def IntegerError.message : IntegerError → String
  | .malformed => "not an integer"
  | .tooManyDigits count =>
    "Exceeds the limit (4300 digits) for integer string conversion: value has " ++
      toString count ++ " digits; use sys.set_int_max_str_digits() to increase the limit"

/-- The number spelled by digit values, unless they are too many. -/
def ofDigitList (ds : List Nat) : Except IntegerError Nat :=
  if ds.length ≤ digitLimit then .ok (ofDigits ds) else .error (.tooManyDigits ds.length)

/-- A sign, if there is one, and the rest. -/
def splitSign : List Char → Bool × List Char
  | '-' :: rest => (true, rest)
  | '+' :: rest => (false, rest)
  | cs => (false, cs)

def applySign (negative : Bool) (n : Nat) : Int := if negative then -(n : Int) else n

/-- The values of ASCII digits, if all characters are such and there is one. -/
def asciiDigits? (cs : List Char) : Option (List Nat) :=
  if cs.isEmpty then none
  else cs.mapM fun c => if c.isDigit then some (c.toNat - 48) else none

/-- `[+-]?[0-9]+` between blanks. -/
def readPlain (s : String) : Except IntegerError Int :=
  let (negative, cs) := splitSign (trimChars s.toList)
  match asciiDigits? cs with
  | none => .error .malformed
  | some ds => (ofDigitList ds).map (applySign negative)

/-- Digit values in a base of a text whose digits may be parted by single underscores; `after`
tells whether the character before was a digit. -/
def separatedDigits? (base : Nat) (after : Bool) : List Char → Option (List Nat)
  | [] => if after then some [] else none
  | '_' :: rest => if after then separatedDigits? base false rest else none
  | c :: rest =>
    match letterValue? c with
    | some d => if d < base then (separatedDigits? base true rest).map (d :: ·) else none
    | none => none

/-- The letter that marks a base. -/
def baseMark? : Nat → Option Char
  | 2 => some 'b'
  | 8 => some 'o'
  | 16 => some 'x'
  | _ => none

/-- The digits after the mark of a base, if there is one; an underscore may follow it. -/
def withoutBaseMark (base : Nat) (cs : List Char) : List Char :=
  match cs with
  | '0' :: mark :: rest =>
    if baseMark? base = some mark.toLower then
      if rest.head? = some '_' then rest.drop 1 else rest
    else cs
  | cs => cs

/-- An integer in a base up to thirty-six, in digits of any script. The number of digits is limited
where the base is no power of two. -/
def readIn (base : Nat) (s : String) : Except IntegerError Int :=
  let (negative, cs) := splitSign ((stripList isNumberBlank s.toList).map asciiDigit)
  match separatedDigits? base false (withoutBaseMark base cs) with
  | none => .error .malformed
  | some ds =>
    if [2, 4, 8, 16, 32].contains base then
      .ok (applySign negative (ds.foldl (fun n d => base * n + d) 0))
    else (ofDigitList ds).map (applySign negative)

/-- The integer of a request parameter. -/
def readLoose (s : String) : Except IntegerError Int := readIn 10 s

/-- How messages show a text that is no integer in a base. -/
def literalMessage (base : Nat) (s : String) : String :=
  "invalid literal for int() with base " ++ toString base ++ ": " ++ quotedWithin 200 s

end PagedQuery.Number
