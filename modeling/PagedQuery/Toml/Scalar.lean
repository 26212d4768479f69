import PagedQuery.Number.Binary64
import PagedQuery.Text.Split
import PagedQuery.Time.Iso
import PagedQuery.Toml.Failure

/-!
# TOML numbers, days and times

A scalar is read as far as it goes; what comes after it is left to the statement it stands in.
-/

namespace PagedQuery.Toml

open PagedQuery.Number PagedQuery.Text PagedQuery.Time

/-! ## Days and times -/

/-- A number of ASCII digits between bounds. -/
def readField? (digits low high : Nat) (cs : List Char) : Option (Nat × List Char) :=
  (Iso.digits? digits cs).filter fun (n, _) => low ≤ n && n ≤ high

/-- The rest after a character. -/
def after? (c : Char) : List Char → Option (List Char)
  | [] => none
  | d :: rest => if d = c then some rest else none

/-- The numbers of a day, which may not exist. -/
def readDay? (cs : List Char) : Option (Date × List Char) := do
  let (year, cs) ← readField? 4 0 9999 cs
  let (month, cs) ← readField? 2 1 12 (← after? '-' cs)
  let (day, cs) ← readField? 2 1 31 (← after? '-' cs)
  return (⟨year, month, day⟩, cs)

/-- Microseconds after a point; digits after the sixth do not count. -/
def readMicros (cs : List Char) : Nat × List Char :=
  match cs with
  | '.' :: rest =>
    let digits := rest.takeWhile Char.isDigit
    if digits.isEmpty then (0, cs)
    else
      let six := (digits ++ List.replicate 6 '0').take 6
      (ofDigits (six.map fun c => c.toNat - 48), rest.drop digits.length)
  | _ => (0, cs)

/-- A time of day; the seconds may be left out. -/
def readTime? (cs : List Char) : Option (TimeOfDay × List Char) := do
  let (hour, cs) ← readField? 2 0 23 cs
  let (minute, cs) ← readField? 2 0 59 (← after? ':' cs)
  match (after? ':' cs).bind (readField? 2 0 59) with
  | none => return (⟨hour, minute, 0, 0, none⟩, cs)
  | some (second, cs) =>
    let (micro, cs) := readMicros cs
    return (⟨hour, minute, second, micro, none⟩, cs)

/-- An offset from universal time, if one comes next. -/
def readOffset (cs : List Char) : Option Int × List Char :=
  match cs with
  | [] => (none, [])
  | c :: rest =>
    if c = 'Z' ∨ c = 'z' then (some 0, rest)
    else if c = '+' ∨ c = '-' then
      let clock := do
        let (hours, rest) ← readField? 2 0 23 rest
        let (minutes, rest) ← readField? 2 0 59 (← after? ':' rest)
        return (applySign (c = '-') ((hours * 60 + minutes) * 60000000), rest)
      match clock with
      | some (offset, rest) => (some offset, rest)
      | none => (none, c :: rest)
    else (none, c :: rest)

/-- A day, or a moment if a time comes after the day; no value for a day that does not exist. -/
def readDate? (cs : List Char) : Option (Option Value × List Char) := do
  let (date, rest) ← readDay? cs
  let time :=
    match rest with
    | c :: more => if c = 'T' ∨ c = 't' ∨ c = ' ' then readTime? more else none
    | [] => none
  match time with
  | none => return (if date.valid then some (.date date) else none, rest)
  | some (time, rest) =>
    let (offset, rest) := readOffset rest
    let moment : DateTime := ⟨date, { time with offset := offset }⟩
    return (if date.valid then some (.dateTime moment) else none, rest)

/-! ## Numbers -/

/-- Digits, single underscores between them left out. -/
def readDigits (isDigit : Char → Bool) : List Char → List Char × List Char
  | '_' :: c :: rest =>
    if isDigit c then
      let (ds, rest) := readDigits isDigit rest
      (c :: ds, rest)
    else ([], '_' :: c :: rest)
  | c :: rest =>
    if isDigit c then
      let (ds, rest) := readDigits isDigit rest
      (c :: ds, rest)
    else ([], c :: rest)
  | [] => ([], [])

/-- Digits of which the first one stands at the start. -/
def readDigits? (isDigit : Char → Bool) (cs : List Char) : Option (List Char × List Char) :=
  if cs.head?.any isDigit then some (readDigits isDigit cs) else none

/-- The bases that a letter after a zero names. -/
def bases : List (Char × Nat) := [('x', 16), ('b', 2), ('o', 8)]

/-- A natural number in the base that its start names. -/
def readBased? : List Char → Option (Nat × List Char)
  | '0' :: letter :: cs => do
    let (_, base) ← bases.find? (·.1 == letter)
    let isDigit := fun c => (hexValue? c).any (· < base)
    let (ds, rest) ← readDigits? isDigit cs
    return (ds.foldl (fun n c => base * n + (hexValue? c).getD 0) 0, rest)
  | _ => none

/-- The digits before the point: a zero, or digits that start with another one. -/
def readWhole? : List Char → Option (List Char × List Char)
  | '0' :: rest => some (['0'], rest)
  | cs => readDigits? Char.isDigit cs

/-- A point and the digits after it, if they come next. -/
def readFraction (cs : List Char) : List Char × List Char :=
  match (after? '.' cs).bind (readDigits? Char.isDigit) with
  | some (ds, rest) => ('.' :: ds, rest)
  | none => ([], cs)

/-- An exponent, if one comes next. -/
def readExponent (cs : List Char) : List Char × List Char :=
  match cs with
  | c :: rest =>
    let sign := if rest.head?.any fun d => d == '+' || d == '-' then rest.take 1 else []
    match if c = 'e' ∨ c = 'E' then readDigits? Char.isDigit (rest.drop sign.length) else none with
    | some (ds, rest) => ('e' :: sign ++ ds, rest)
    | none => ([], cs)
  | [] => ([], [])

/-- A number: a float if it has a fraction or an exponent, an integer otherwise. -/
def readNumber? (cs : List Char) : Option (Except Problem Value × List Char) :=
  match readBased? cs with
  | some (n, rest) => some (.ok (.int n), rest)
  | none => do
    let (negative, unsigned) := splitSign cs
    let (whole, rest) ← readWhole? unsigned
    let (fraction, rest) := readFraction rest
    let (exponent, rest) := readExponent rest
    if fraction.isEmpty ∧ exponent.isEmpty then
      match ofDigitList (whole.map fun c => c.toNat - 48) with
      | .ok n => return (.ok (.int (applySign negative n)), rest)
      | .error _ => return (.error (.tooManyDigits whole.length), rest)
    else
      let sign := if negative then ['-'] else []
      let x ← readFloat? (String.ofList (sign ++ whole ++ fraction ++ exponent))
      return (.ok (.float x), rest)

/-- The words that stand for values. -/
def words : List (String × Value) :=
  [("true", .bool true), ("false", .bool false)]

def specialFloats : List (String × Float) :=
  [("inf", infinity), ("nan", notANumber), ("-inf", -infinity), ("+inf", infinity),
   ("-nan", notANumber), ("+nan", notANumber)]

/-- The value of the first word that comes next. -/
def readWord? {α : Type} (words : List (String × α)) (cs : List Char) : Option (α × List Char) :=
  words.findSome? fun (w, v) => (afterPrefix? w.toList cs).map (v, ·)

/-- A scalar that is no text. -/
def readScalar (cs : List Char) : Except Failure (Value × List Char) :=
  match readDate? cs with
  | some (some v, rest) => .ok (v, rest)
  | some (none, _) => stop .date cs
  | none =>
    match readTime? cs with
    | some (t, rest) => .ok (.time t, rest)
    | none =>
      match readNumber? cs with
      | some (.ok v, rest) => .ok (v, rest)
      | some (.error e, _) => stop e cs
      | none =>
        match readWord? specialFloats cs with
        | some (x, rest) => .ok (.float x, rest)
        | none => stop .value cs

end PagedQuery.Toml
