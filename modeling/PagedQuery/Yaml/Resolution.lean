import PagedQuery.Number.Binary64
import PagedQuery.Number.Integer
import PagedQuery.Time.Calendar
import PagedQuery.Text.Quoted
import PagedQuery.Value.Basic

/-!
# Types of YAML scalars

Which type a plain scalar has by its text, and the values of scalars of each type.
-/

namespace PagedQuery.Yaml

open PagedQuery.Number PagedQuery.Text PagedQuery.Time

inductive ScalarType
  | null
  | bool
  | int
  | float
  | timestamp
  | merge
  | default
  | text
  | binary
  deriving Repr, DecidableEq

/-- Why a scalar has no value of its type. -/
inductive ScalarError
  | digits (base : Nat) (text : String)
  | tooManyDigits (count : Nat)
  | float (text : String)
  | bool (text : String)
  | empty
  | notTimestamp
  | month
  | day
  | hour
  | minute
  | second
  | year (n : Nat)
  | offset (micros : Int)
  /-- A mapping in place of a text. -/
  | notText
  deriving Repr, DecidableEq

def ScalarError.message : ScalarError → String
  | .digits base text => literalMessage base text
  | .tooManyDigits count => (IntegerError.tooManyDigits count).message
  | .float text => "could not convert string to float: " ++ quoted text
  | .bool text => quoted text
  | .empty => "string index out of range"
  | .notTimestamp => "'NoneType' object has no attribute 'groupdict'"
  | .month => "month must be in 1..12"
  | .day => "day is out of range for month"
  | .hour => "hour must be in 0..23"
  | .minute => "minute must be in 0..59"
  | .second => "second must be in 0..59"
  | .year n => "year " ++ toString n ++ " is out of range"
  | .offset micros =>
    "offset must be a timedelta strictly between -timedelta(hours=24) and " ++
      "timedelta(hours=24), not " ++
      spanParts micros ++ "."
  | .notText => "expected string or bytes-like object, got 'list'"

/-! ## Forms -/

def isBinary (c : Char) : Bool := c == '0' || c == '1' || c == '_'

def isOctal (c : Char) : Bool := ('0' ≤ c && c ≤ '7') || c == '_'

def isDecimal (c : Char) : Bool := c.isDigit || c == '_'

def isHex (c : Char) : Bool := (hexValue? c).isSome || c == '_'

/-- Groups of two digits at most, each below sixty and after a colon, at least one. -/
def isSexagesimal : List Char → Bool
  | [':', a] => a.isDigit
  | [':', a, b] => '0' ≤ a && a ≤ '5' && b.isDigit
  | ':' :: a :: ':' :: rest => a.isDigit && isSexagesimal (':' :: rest)
  | ':' :: a :: b :: ':' :: rest => '0' ≤ a && a ≤ '5' && b.isDigit && isSexagesimal (':' :: rest)
  | _ => false

def withoutSign (cs : List Char) : List Char := (splitSign cs).2

/-- Integers in base two, eight, ten, sixteen or sixty. -/
def isInt (cs : List Char) : Bool :=
  match withoutSign cs with
  | '0' :: 'b' :: rest => !rest.isEmpty && rest.all isBinary
  | '0' :: 'x' :: rest => !rest.isEmpty && rest.all isHex
  | '0' :: rest => rest.all isOctal
  | a :: rest =>
    a.isDigit && (rest.all isDecimal || isSexagesimal (rest.dropWhile isDecimal))
  | [] => false

/-- An exponent with its sign, if anything is left. -/
def isExponent : List Char → Bool
  | [] => true
  | e :: sign :: ds =>
    (e == 'e' || e == 'E') && (sign == '+' || sign == '-') && !ds.isEmpty && ds.all Char.isDigit
  | _ => false

/-- The groups of a number in base sixty, and what follows the last one. -/
def sexagesimalRest : List Char → Option (List Char)
  | ':' :: a :: b :: rest =>
    if '0' ≤ a ∧ a ≤ '5' ∧ b.isDigit then
      if rest.head? = some ':' then sexagesimalRest rest else some rest
    else if a.isDigit then
      if b = ':' then sexagesimalRest (b :: rest) else some (b :: rest)
    else none
  | [':', a] => if a.isDigit then some [] else none
  | _ => none

def isFloat (cs : List Char) : Bool :=
  let body := withoutSign cs
  let digits := body.takeWhile isDecimal
  let rest := body.dropWhile isDecimal
  let special := ["inf", "Inf", "INF"].any fun w => body = '.' :: w.toList
  let notANumber := [".nan", ".NaN", ".NAN"].any fun w => cs = w.toList
  if special || notANumber then true
  else
    match digits, rest with
    | d :: _, '.' :: rest => d.isDigit && isExponent (rest.dropWhile isDecimal)
    | d :: _, ':' :: _ =>
      d.isDigit &&
        (match sexagesimalRest rest with
         | some ('.' :: fraction) => fraction.all isDecimal
         | _ => false)
    | [], '.' :: d :: rest =>
      cs.length = body.length && d.isDigit && isExponent (rest.dropWhile isDecimal)
    | _, _ => false

/-- A day, or a moment with its parts. -/
structure Stamp where
  year : Nat
  month : Nat
  day : Nat
  /-- Hour, minute, second and the digits of the fraction. -/
  clock : Option (Nat × Nat × Nat × List Nat) := none
  /-- The offset from universal time in microseconds. -/
  offset : Option Int := none

/-- Up to two digits, at least one. -/
def shortNumber? (cs : List Char) : Option (Nat × Nat × List Char) :=
  let ds := (cs.takeWhile Char.isDigit).take 2
  if ds.isEmpty then none
  else some (ofDigits (ds.map fun d => d.toNat - 48), ds.length, cs.drop ds.length)

/-- Two digits. -/
def pair? (cs : List Char) : Option (Nat × List Char) :=
  match shortNumber? cs with
  | some (n, 2, rest) => some (n, rest)
  | _ => none

def afterChar? (c : Char) : List Char → Option (List Char)
  | a :: rest => if a = c then some rest else none
  | [] => none

/-- What follows the seconds of a moment: an offset, or nothing. -/
def offset? (cs : List Char) : Option (Option Int) :=
  let isBlank := fun c => c == ' ' || c == '\t'
  match cs.dropWhile isBlank with
  | [] => if cs.isEmpty then some none else none
  | ['Z'] => some (some 0)
  | sign :: rest =>
    if sign ≠ '+' ∧ sign ≠ '-' then none
    else do
      let (hours, _, rest) ← shortNumber? rest
      let minutes ← match rest with
        | [] => some 0
        | ':' :: rest =>
          match pair? rest with
          | some (m, []) => some m
          | _ => none
        | _ => none
      return some (applySign (sign = '-') ((hours * 60 + minutes) * 60000000))

/-- The parts of a timestamp; `short` allows days with numbers of one digit. -/
def stamp? (short : Bool) (cs : List Char) : Option Stamp := do
  let yearDigits := cs.takeWhile Char.isDigit
  if yearDigits.length ≠ 4 then none
  else
    let year := ofDigits (yearDigits.map fun d => d.toNat - 48)
    let (month, monthLength, rest) ← shortNumber? (← afterChar? '-' (cs.drop 4))
    let (day, dayLength, rest) ← shortNumber? (← afterChar? '-' rest)
    match rest with
    | [] => if short ∨ (monthLength = 2 ∧ dayLength = 2) then some { year, month, day } else none
    | a :: _ =>
      let isBlank := fun c => c == ' ' || c == '\t'
      let rest ←
        if a = 'T' ∨ a = 't' then some (rest.drop 1)
        else if isBlank a then some (rest.dropWhile isBlank)
        else none
      let (hour, _, rest) ← shortNumber? rest
      let (minute, rest) ← pair? (← afterChar? ':' rest)
      let (second, rest) ← pair? (← afterChar? ':' rest)
      let (fraction, rest) := match rest with
        | '.' :: rest => (rest.takeWhile Char.isDigit, rest.dropWhile Char.isDigit)
        | rest => ([], rest)
      let offset ← offset? rest
      let fraction := fraction.map fun d => d.toNat - 48
      return { year, month, day, clock := some (hour, minute, second, fraction), offset }

def boolWords : List (String × Bool) :=
  [("yes", true), ("no", false), ("true", true), ("false", false), ("on", true), ("off", false)]

/-- Truth values in lower case, in upper case or with a capital. -/
def isBool (s : String) : Bool :=
  boolWords.any fun (w, _) => s = w || s = upper w || s = capitalize w

/-- A text without a line feed at its end. -/
def withoutLineFeed (cs : List Char) : List Char :=
  if cs.getLast? = some '\n' then cs.dropLast else cs

/-- The type of a plain scalar. -/
def plainType (s : String) : ScalarType :=
  let cs := s.toList
  if isBool s then .bool
  else if isFloat cs then .float
  else if isInt cs then .int
  else if s = "<<" then .merge
  else if ["", "~", "null", "Null", "NULL"].contains s then .null
  else if (stamp? false cs).isSome then .timestamp
  else if s = "=" then .default
  else .text

/-- The type of a scalar by its text. One line feed at the end does not count, unless nothing comes
before it. -/
def typeOf (s : String) : ScalarType :=
  if s = "\n" then .text else plainType (String.ofList (withoutLineFeed s.toList))

/-! ## Values -/

def removeUnderscores (s : String) : List Char := s.toList.filter (· != '_')

/-- A number in a base, with a sign of its own. -/
def readBase (base : Nat) (cs : List Char) : Except ScalarError Int :=
  match readIn base (String.ofList cs) with
  | .ok n => .ok n
  | .error .malformed => .error (.digits base (String.ofList cs))
  | .error (.tooManyDigits count) => .error (.tooManyDigits count)

/-- Groups in base sixty, the most significant first. -/
def readSexagesimal (cs : List Char) : Except ScalarError Int := do
  let groups ← (splitOn cs).mapM (readBase 10)
  return groups.foldl (fun n d => 60 * n + d) 0
where
  splitOn : List Char → List (List Char)
    | [] => [[]]
    | c :: rest =>
      match c == ':', splitOn rest with
      | true, groups => [] :: groups
      | false, group :: groups => (c :: group) :: groups
      | false, [] => [[c]]

def readInt (s : String) : Except ScalarError Value := do
  let cs := removeUnderscores s
  if cs.isEmpty then throw .empty
  let (negative, cs) := splitSign cs
  let n ← match cs with
    | [] => throw .empty
    | ['0'] => pure 0
    | '0' :: 'b' :: rest => readBase 2 rest
    | '0' :: 'x' :: rest => readBase 16 rest
    | '0' :: _ => readBase 8 cs
    | cs => if cs.contains ':' then readSexagesimal cs else readBase 10 cs
  return .int (if negative then -n else n)

/-- A float with its sign taken off. -/
def readUnsigned (cs : List Char) : Except ScalarError Float :=
  match readFloat? (String.ofList cs) with
  | some x => .ok x
  | none => .error (.float (String.ofList cs))

/-- Groups in base sixty, the last one with a fraction. -/
def readSexagesimalFloat (cs : List Char) : Except ScalarError Float := do
  let groups ← (readSexagesimal.splitOn cs).mapM readUnsigned
  let (total, _) := groups.reverse.foldl (fun (total, base) x => (total + x * base, base * 60.0))
    ((0.0 : Float), (1.0 : Float))
  return total

def readFloat (s : String) : Except ScalarError Value := do
  let cs := (lower (String.ofList (removeUnderscores s))).toList
  if cs.isEmpty then throw .empty
  let (negative, cs) := splitSign cs
  let x ←
    if cs = ".inf".toList then pure infinity
    else if cs = ".nan".toList then pure notANumber
    else if cs.contains ':' then readSexagesimalFloat cs
    else readUnsigned cs
  return .float (if negative then -x else x)

def readBool (s : String) : Except ScalarError Value :=
  match boolWords.find? fun (w, _) => w = lower s with
  | some (_, b) => .ok (.bool b)
  | none => .error (.bool (lower s))

/-- The day of a timestamp. -/
def Stamp.toDate (t : Stamp) : Except ScalarError Date :=
  if t.year = 0 then .error (.year 0)
  else if t.month = 0 ∨ 12 < t.month then .error .month
  else if t.day = 0 ∨ daysInMonth t.year t.month < t.day then .error .day
  else .ok ⟨t.year, t.month, t.day⟩

def Stamp.toValue (t : Stamp) : Except ScalarError Value := do
  match t.clock with
  | none => return .date (← t.toDate)
  | some (hour, minute, second, fraction) =>
    let offset ← match t.offset with
      | none => pure none
      | some o => if o.natAbs < 86400000000 then pure (some o) else throw (.offset o)
    let date ← t.toDate
    if 23 < hour then throw .hour
    if 59 < minute then throw .minute
    if 59 < second then throw .second
    let micro := ofDigits ((fraction ++ List.replicate 6 0).take 6)
    return .dateTime ⟨date, ⟨hour, minute, second, micro, offset⟩⟩

def readTimestamp (s : String) : Except ScalarError Value :=
  match stamp? true (withoutLineFeed s.toList) with
  | some t => t.toValue
  | none => .error .notTimestamp

/-- The value of a digit in base sixty-four. -/
def base64Value? (c : Char) : Option Nat :=
  if 'A' ≤ c ∧ c ≤ 'Z' then some (c.toNat - 65)
  else if 'a' ≤ c ∧ c ≤ 'z' then some (c.toNat - 71)
  else if c.isDigit then some (c.toNat + 4)
  else if c = '+' then some 62
  else if c = '/' then some 63
  else none

/-- Bytes in base sixty-four: the value `left` of the bits still to be used, the number `position`
of digits in the group that has begun, and the number `pads` of equality signs since the last
digit. A group may end early, after its second digit, with as many equality signs as it lacks
digits; what follows does not count then. Other characters never count. -/
def base64Bytes? (position left pads : Nat) : List Char → Option (List UInt8)
  | [] => if position = 0 then some [] else none
  | c :: rest =>
    if c = '=' then
      if 2 ≤ position ∧ 4 ≤ position + pads + 1 then some []
      else base64Bytes? position left (if 2 ≤ position then pads + 1 else pads) rest
    else
      match base64Value? c, position with
      | none, _ => base64Bytes? position left pads rest
      | some d, 0 => base64Bytes? 1 d 0 rest
      | some d, 1 => (base64Bytes? 2 (d % 16) 0 rest).map (UInt8.ofNat (left * 4 + d / 16) :: ·)
      | some d, 2 => (base64Bytes? 3 (d % 4) 0 rest).map (UInt8.ofNat (left * 16 + d / 4) :: ·)
      | some d, _ => (base64Bytes? 0 0 0 rest).map (UInt8.ofNat (left * 64 + d) :: ·)

def readBinary? (s : String) : Option (List UInt8) :=
  if s.toList.any fun c => c.toNat ≥ 128 then none else base64Bytes? 0 0 0 s.toList

/-- The value of a scalar of a type; none for types that scalars do not have. -/
def ScalarType.read (t : ScalarType) (s : String) : Except ScalarError (Option Value) :=
  match t with
  | .null => .ok (some .null)
  | .bool => (readBool s).map some
  | .int => (readInt s).map some
  | .float => (readFloat s).map some
  | .timestamp => (readTimestamp s).map some
  | .text => .ok (some (.text s))
  | .binary => .ok ((readBinary? s).map .bytes)
  | .merge | .default => .ok none

end PagedQuery.Yaml
