import PagedQuery.Text.Digit

/-!
# Calendar

Days of the proleptic Gregorian calendar from year 1 to year 9999, times of day and moments, with
fixed offsets from universal time. Durations and offsets are counted in microseconds.
-/

namespace PagedQuery.Time

open PagedQuery.Text

structure Date where
  year : Nat
  month : Nat
  day : Nat
  deriving Repr, DecidableEq, Inhabited

/-- A time of day; `offset` is its distance from universal time in microseconds, if known. -/
structure TimeOfDay where
  hour : Nat
  minute : Nat
  second : Nat
  micro : Nat
  offset : Option Int
  deriving Repr, DecidableEq, Inhabited

/-- A moment: a day and a time of day. -/
structure DateTime where
  date : Date
  time : TimeOfDay
  deriving Repr, DecidableEq, Inhabited

def isLeap (year : Nat) : Bool := year % 4 = 0 && (year % 100 ≠ 0 || year % 400 = 0)

def daysInMonth (year month : Nat) : Nat :=
  match month with
  | 2 => if isLeap year then 29 else 28
  | 4 | 6 | 9 | 11 => 30
  | _ => 31

def Date.valid (d : Date) : Bool :=
  1 ≤ d.year && d.year ≤ 9999 && 1 ≤ d.month && d.month ≤ 12 &&
    1 ≤ d.day && d.day ≤ daysInMonth d.year d.month

/-- The day, if there is one of these numbers. -/
def Date.of? (year month day : Nat) : Option Date :=
  let d : Date := ⟨year, month, day⟩
  if d.valid then some d else none

/-- Days before January 1st of a year. -/
def daysBeforeYear (year : Nat) : Nat :=
  let y := year - 1
  y * 365 + y / 4 - y / 100 + y / 400

/-- Days of a year before the first day of a month. -/
def daysBeforeMonth (year month : Nat) : Nat :=
  ((List.range (month - 1)).map fun m => daysInMonth year (m + 1)).foldl (· + ·) 0

/-- Position of the day, 1 for January 1st of year 1. -/
def Date.ordinal (d : Date) : Nat :=
  daysBeforeYear d.year + daysBeforeMonth d.year d.month + d.day

/-- The month and day at a distance of days from the first day of a month. -/
def monthAt (year : Nat) : Nat → Nat → Nat → Date
  | 0, month, days => ⟨year, month, days + 1⟩
  | left + 1, month, days =>
    if days < daysInMonth year month then ⟨year, month, days + 1⟩
    else monthAt year left (month + 1) (days - daysInMonth year month)

/-- The day at a position. -/
def Date.ofOrdinal (n : Nat) : Date :=
  let days := n - 1
  let guess := days / 366 + 1
  let year := ((List.range (guess / 400 + 3)).map (guess + ·)).foldl
    (fun best y => if daysBeforeYear y ≤ days then y else best) guess
  monthAt year 11 1 (days - daysBeforeYear year)

/-- Monday is 0. -/
def Date.weekday (d : Date) : Nat := (d.ordinal + 6) % 7

def microsPerSecond : Int := 1000000

def microsPerDay : Int := 86400000000

/-- Microseconds since midnight, the offset left out. -/
def TimeOfDay.wallMicros (t : TimeOfDay) : Int :=
  ((t.hour * 60 + t.minute) * 60 + t.second : Nat) * microsPerSecond + t.micro

/-- Microseconds since the first midnight, the offset left out. -/
def DateTime.wallMicros (t : DateTime) : Int :=
  (t.date.ordinal : Int) * microsPerDay + t.time.wallMicros

/-- Microseconds since the first midnight in universal time, a missing offset read as zero. -/
def DateTime.instant (t : DateTime) : Int := t.wallMicros - t.time.offset.getD 0

def midnight : TimeOfDay := ⟨0, 0, 0, 0, none⟩

def Date.toDateTime (d : Date) : DateTime := ⟨d, midnight⟩

/-- `YYYY-MM-DD`. -/
def Date.text (d : Date) : String :=
  padded 4 d.year ++ "-" ++ padded 2 d.month ++ "-" ++ padded 2 d.day

/-- `±HH:MM`, with seconds and microseconds where they are not zero. -/
def offsetText (offset : Int) : String :=
  let micros := offset.natAbs
  let seconds := micros / 1000000
  (if offset < 0 then "-" else "+") ++ padded 2 (seconds / 3600) ++ ":" ++
    padded 2 (seconds / 60 % 60) ++
    (if micros % 60000000 = 0 then "" else ":" ++ padded 2 (seconds % 60)) ++
    (if micros % 1000000 = 0 then "" else "." ++ padded 6 (micros % 1000000))

/-- `HH:MM:SS`, with microseconds where they are not zero and the offset where it is known. -/
def TimeOfDay.text (t : TimeOfDay) : String :=
  padded 2 t.hour ++ ":" ++ padded 2 t.minute ++ ":" ++ padded 2 t.second ++
    (if t.micro = 0 then "" else "." ++ padded 6 t.micro) ++
    (match t.offset with
     | some o => offsetText o
     | none => "")

/-- The day, a separator and the time. -/
def DateTime.textWith (separator : String) (t : DateTime) : String :=
  t.date.text ++ separator ++ t.time.text

/-- The ISO form. -/
def DateTime.iso (t : DateTime) : String := t.textWith "T"

/-- `[D day[s], ]H:MM:SS[.ffffff]`; only the days are negative. -/
def spanText (micros : Int) : String :=
  let days := Int.fdiv micros microsPerDay
  let rest := (Int.fmod micros microsPerDay).toNat
  let seconds := rest / 1000000
  (if days = 0 then ""
   else toString days ++ (if days.natAbs = 1 then " day, " else " days, ")) ++
    toString (seconds / 3600) ++ ":" ++ padded 2 (seconds / 60 % 60) ++ ":" ++
    padded 2 (seconds % 60) ++
    (if rest % 1000000 = 0 then "" else "." ++ padded 6 (rest % 1000000))

/-- The parts of a duration as they appear in messages. -/
def spanParts (micros : Int) : String :=
  let days := Int.fdiv micros microsPerDay
  let rest := (Int.fmod micros microsPerDay).toNat
  let parts :=
    (if days = 0 then [] else ["days=" ++ toString days]) ++
    (if rest / 1000000 = 0 then [] else ["seconds=" ++ toString (rest / 1000000)]) ++
    (if rest % 1000000 = 0 then [] else ["microseconds=" ++ toString (rest % 1000000)])
  "datetime.timedelta(" ++ (if parts.isEmpty then "0" else String.intercalate ", " parts) ++ ")"

end PagedQuery.Time
