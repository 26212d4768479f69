import PagedQuery.Number.Integer
import PagedQuery.Time.Calendar

/-!
# Durations

Two notations: the clock, `[-][d.]hh:mm[:ss[.fffffff]]`, and a count of one unit, `3 days`.
-/

namespace PagedQuery.Time.Span

open PagedQuery.Text PagedQuery.Number PagedQuery.Time

/-- Why a text is no duration. -/
inductive SpanError
  | malformed
  | integer (e : IntegerError)
  | daysRange (days : Int)
  | daysTooLarge
  | unknownUnit (name : String)
  deriving Repr, DecidableEq

/-- A clock notation taken apart into digit values. -/
structure ClockParts where
  negative : Bool
  days : Option (List Nat)
  hours : List Nat
  minutes : List Nat
  seconds : List Nat
  fraction : List Nat
  deriving Repr, DecidableEq

/-- The digits of any script at the start of a text, and the rest. -/
def spanDigits (cs : List Char) : List Nat × List Char :=
  ((cs.takeWhile fun c => (digitValue? c).isSome).filterMap digitValue?,
    cs.dropWhile fun c => (digitValue? c).isSome)

/-- `:mm[:ss[.f]]` up to the end of the text; a last line feed does not count. -/
def readTail? (cs : List Char) : Option (List Nat × List Nat × List Nat) :=
  let atEnd := fun (rest : List Char) => rest = [] ∨ rest = ['\n']
  match cs with
  | ':' :: rest =>
    let (minutes, rest) := spanDigits rest
    if minutes.length ≠ 2 then none
    else if atEnd rest then some (minutes, [], [])
    else match rest with
      | ':' :: rest =>
        let (seconds, rest) := spanDigits rest
        if seconds.length ≠ 2 then none
        else if atEnd rest then some (minutes, seconds, [])
        else match rest with
          | '.' :: rest =>
            let (fraction, rest) := spanDigits rest
            if 1 ≤ fraction.length ∧ fraction.length ≤ 7 ∧ atEnd rest then
              some (minutes, seconds, fraction)
            else none
          | _ => none
      | _ => none
  | _ => none

/-- The parts of a clock notation. -/
def readClock? (cs : List Char) : Option ClockParts :=
  let negative := cs.head? = some '-'
  let (first, rest) := spanDigits (if negative then cs.drop 1 else cs)
  let (days, hours, rest) :=
    match rest with
    | '.' :: rest =>
      let (hours, rest) := spanDigits rest
      (some first, hours, rest)
    | _ => (none, first, rest)
  if days = some [] ∨ hours.length < 1 ∨ 2 < hours.length then none
  else (readTail? rest).map fun (minutes, seconds, fraction) =>
    ⟨negative, days, hours, minutes, seconds, fraction⟩

/-- The microseconds of a fraction: six digits count. -/
def fractionMicros (ds : List Nat) : Nat := ofDigits ((ds ++ List.replicate 6 0).take 6)

/-- A duration of days and microseconds, if its days are in range. -/
def ofDays (days : Nat) (micros : Nat) : Except SpanError Int :=
  let total : Int := days * microsPerDay + micros
  let whole := Int.fdiv total microsPerDay
  if whole.natAbs > 2147483647 then .error .daysTooLarge
  else if whole.natAbs > 999999999 then .error (.daysRange whole)
  else .ok total

/-- The opposite duration, if its days are in range. -/
def negate (micros : Int) : Except SpanError Int :=
  let days := Int.fdiv (-micros) microsPerDay
  if days.natAbs > 999999999 then .error (.daysRange days) else .ok (-micros)

def ClockParts.span (p : ClockParts) : Except SpanError Int := do
  let days ← match ofDigitList (p.days.getD []) with
    | .ok n => pure n
    | .error e => throw (.integer e)
  let minutes := ofDigits p.hours * 60 + ofDigits p.minutes
  let micros := (minutes * 60 + ofDigits p.seconds) * 1000000 + fractionMicros p.fraction
  let span ← ofDays days micros
  if p.negative then negate span else pure span

/-- Letters that match a letter of a unit name regardless of case. -/
def sameLetter (c letter : Char) : Bool :=
  c.toLower = letter || (c = '\u017f' && letter = 's') || (c = '\u212a' && letter = 'k')

/-- The rest after a word, letter case ignored. -/
def afterWord? : List Char → List Char → Option (List Char)
  | [], rest => some rest
  | _ :: _, [] => none
  | w :: word, c :: rest => if sameLetter c w then afterWord? word rest else none

/-- The units and their microseconds. -/
def units : List (String × Nat) :=
  [("week", 604800000000), ("day", 86400000000), ("hour", 3600000000),
   ("minute", 60000000), ("second", 1000000)]

/-- The microseconds of a unit by its exact plural. -/
def unitMicros? (plural : String) : Option Nat :=
  (units.find? fun (name, _) => name ++ "s" = plural).map (·.2)

/-- A count and the unit's name as it is written, without its plural ending. -/
def readCount? (cs : List Char) : Option (List Nat × List Char) :=
  let (count, rest) := spanDigits cs
  if count.isEmpty then none
  else
    let word := rest.dropWhile isBlank
    units.findSome? fun (name, _) =>
      match afterWord? name.toList word with
      | none => none
      | some rest =>
        let isEnd := fun (rest : List Char) => rest.isEmpty || rest == ['\n']
        let plural := match rest with
          | c :: rest => sameLetter c 's' && isEnd rest
          | [] => false
        if isEnd rest || plural then some (count, word.take name.length) else none

def ofCount (count : List Nat) (unit : List Char) : Except SpanError Int :=
  match ofDigitList count with
  | .error e => .error (.integer e)
  | .ok n =>
    let plural := lower (String.ofList unit) ++ "s"
    match unitMicros? plural with
    | none => .error (.unknownUnit plural)
    | some micros => ofDays 0 (n * micros)

/-- The microseconds of a duration. -/
def read (s : String) : Except SpanError Int :=
  let cs := trimChars s.toList
  match readClock? cs with
  | some parts => parts.span
  | none =>
    match readCount? cs with
    | some (count, unit) => ofCount count unit
    | none => .error .malformed

end PagedQuery.Time.Span
