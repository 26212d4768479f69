import PagedQuery.Text.Utf8
import PagedQuery.Time.Calendar

/-!
# ISO 8601 texts

Days, times and moments in ISO notation: separators or none, week dates, any character between the
day and the time, fractions of a second after a point or a comma, and offsets. Texts are read and
measured in the bytes of UTF-8.
-/

namespace PagedQuery.Time.Iso

open PagedQuery.Text PagedQuery.Time

/-- Why a text is no ISO time. -/
inductive IsoError
  | malformed
  | hourRange
  | minuteRange
  | secondRange
  | offsetRange (offset : Int)
  | dateRange
  deriving Repr, DecidableEq

/-- The bytes of a text, each as the character of its number. -/
def bytes (s : String) : List Char := (encodeUtf8 s.toList).map fun b => Char.ofNat b.toNat

/-- The number of bytes of the character that starts with a byte. -/
def characterSize (first : Char) : Nat :=
  if first.toNat < 0x80 then 1
  else if first.toNat < 0xE0 then 2
  else if first.toNat < 0xF0 then 3
  else 4

/-- The value of the first `n` characters, if all of them are ASCII digits, and the rest. -/
def digits? : Nat → List Char → Option (Nat × List Char)
  | n, cs =>
    let ds := cs.take n
    if ds.length = n ∧ ds.all Char.isDigit then
      some (ofDigits (ds.map fun c => c.toNat - 48), cs.drop n)
    else none

/-- The Monday of the first week of a year: the week that holds January 4th. -/
def firstMonday (year : Nat) : Int :=
  let first : Date := ⟨year, 1, 1⟩
  let monday := (first.ordinal : Int) - first.weekday
  if first.weekday > 3 then monday + 7 else monday

/-- Whether a year has a week of this number. -/
def hasWeek (year week : Nat) : Bool :=
  if week = 0 then false
  else if week < 53 then true
  else
    let start := (⟨year, 1, 1⟩ : Date).weekday
    week = 53 && (start = 3 || (start = 2 && isLeap year))

/-- The day of a week date. -/
def ofWeek? (year week day : Nat) : Option Date :=
  if year < 1 ∨ !hasWeek year week ∨ day < 1 ∨ 7 < day then none
  else
    let ordinal := firstMonday year + ((week - 1) * 7 + (day - 1) : Nat)
    if 1 ≤ ordinal ∧ ordinal ≤ 3652059 then
      let d := Date.ofOrdinal ordinal.toNat
      Date.of? d.year d.month d.day
    else none

/-- A dash where dashes separate, nothing where they do not. -/
def separator? (dashed : Bool) (cs : List Char) : Option (List Char) :=
  if dashed then (if cs.head? = some '-' then some (cs.drop 1) else none) else some cs

/-- The day at the start of a text of the given length. -/
def readDay? (cs : List Char) : Option Date := do
  let (year, rest) ← digits? 4 cs
  let dashed := rest.head? = some '-'
  let rest := if dashed then rest.drop 1 else rest
  if rest.head? = some 'W' then
    let (week, rest) ← digits? 2 (rest.drop 1)
    if rest.isEmpty then ofWeek? year week 1
    else
      let rest ← separator? dashed rest
      let (day, _) ← digits? 1 rest
      ofWeek? year week day
  else
    let (month, rest) ← digits? 2 rest
    let rest ← separator? dashed rest
    let (day, _) ← digits? 2 rest
    Date.of? year month day

/-- An ISO day on its own. -/
def readDate? (s : String) : Option Date :=
  let cs := bytes s
  if cs.length = 7 ∨ cs.length = 8 ∨ cs.length = 10 then readDay? cs else none

/-- Hour, minute, second and microsecond as they are written, not checked for range, and whether a
character follows them that belongs to none. -/
structure Clock where
  hour : Nat
  minute : Nat
  second : Nat
  micro : Nat
  stray : Bool

/-- Whether a character comes next that belongs to no field: a NUL ends a text as its end does. -/
def isStray (more : Bool) (cs : List Char) : Bool :=
  match cs with
  | [] => more
  | c :: _ => c != '\x00'

/-- A fraction of at most six digits that count; further digits are skipped. -/
def readFraction? (more : Bool) (cs : List Char) : Option (Nat × Bool) := do
  let n := min 6 cs.length
  let (value, rest) ← digits? n cs
  pure (value * Nat.pow 10 (6 - n), isStray more (rest.dropWhile Char.isDigit))

/-- The characters after a two-digit field: the end, a fraction, or the next field. -/
inductive AfterField
  | finish (stray : Bool)
  | fraction (rest : List Char)
  | next (rest : List Char)

def afterField? (colons more : Bool) : List Char → Option AfterField
  | [] => some (.finish more)
  | [c] => some (.finish (isStray more [c]))
  | c :: rest =>
    if colons && c == ':' then some (.next rest)
    else if c == '.' || c == ',' then some (.fraction rest)
    else if !colons then some (.next (c :: rest))
    else none

/-- `HH[:MM[:SS]][.ffffff]` with or without colons; `more` tells whether something follows. -/
def readClock? (more : Bool) (cs : List Char) : Option Clock := do
  let (hour, rest) ← digits? 2 cs
  let colons := rest.head? = some ':'
  match ← afterField? colons more rest with
  | .finish stray => pure ⟨hour, 0, 0, 0, stray⟩
  | .fraction rest =>
    let (micro, stray) ← readFraction? more rest
    pure ⟨hour, 0, 0, micro, stray⟩
  | .next rest =>
    let (minute, rest) ← digits? 2 rest
    match ← afterField? colons more rest with
    | .finish stray => pure ⟨hour, minute, 0, 0, stray⟩
    | .fraction rest =>
      let (micro, stray) ← readFraction? more rest
      pure ⟨hour, minute, 0, micro, stray⟩
    | .next rest =>
      let (second, rest) ← digits? 2 rest
      match ← afterField? colons more rest with
      | .finish stray => pure ⟨hour, minute, second, 0, stray⟩
      | .fraction rest | .next rest =>
        let (micro, stray) ← readFraction? more rest
        pure ⟨hour, minute, second, micro, stray⟩

def startsOffset (c : Char) : Bool := c == '+' || c == '-' || c == 'Z'

/-- The offset of a clock, in microseconds; an offset below a second is none. -/
def Clock.offset (negative : Bool) (c : Clock) : Int :=
  let seconds := (c.hour * 60 + c.minute) * 60 + c.second
  if seconds = 0 then 0
  else
    let micros : Int := (seconds : Int) * microsPerSecond + c.micro
    if negative then -micros else micros

/-- A clock and an offset as they are written. -/
def readParts (cs : List Char) : Except IsoError (Clock × Option Int) :=
  let body := cs.takeWhile (!startsOffset ·)
  let rest := cs.dropWhile (!startsOffset ·)
  match readClock? (!rest.isEmpty) body, rest with
  | none, _ => .error .malformed
  | some clock, [] => if clock.stray then .error .malformed else .ok (clock, none)
  | some clock, 'Z' :: tail =>
    if isStray false tail then .error .malformed else .ok (clock, some 0)
  | some clock, sign :: tail =>
    match readClock? false tail with
    | none => .error .malformed
    | some c =>
      if c.stray then .error .malformed
      else
        let offset := c.offset (sign == '-')
        if offset ≤ -microsPerDay ∨ microsPerDay ≤ offset then .error (.offsetRange offset)
        else .ok (clock, some offset)

def Clock.toTime (c : Clock) (offset : Option Int) : Except IsoError TimeOfDay :=
  if 23 < c.hour then .error .hourRange
  else if 59 < c.minute then .error .minuteRange
  else if 59 < c.second then .error .secondRange
  else .ok ⟨c.hour, c.minute, c.second, c.micro, offset⟩

/-- A time of day; a leading `T` may stand before it. -/
def readTime (s : String) : Except IsoError TimeOfDay := do
  let cs := bytes s
  let (clock, offset) ← readParts (if cs.head? = some 'T' then cs.drop 1 else cs)
  clock.toTime offset

/-- How many characters the day of a moment takes: they tell its format. -/
def dayLength (cs : List Char) : Nat :=
  let n := cs.length
  let digitAt := fun i => (cs[i]?.map Char.isDigit).getD false
  if n = 7 then 7
  else if cs[4]? = some '-' then
    if cs[5]? = some 'W' then
      if 8 < n ∧ cs[8]? = some '-' then (if 10 < n ∧ digitAt 10 then 8 else 10) else 8
    else 10
  else if cs[4]? = some 'W' then
    let stop := 7 + ((cs.drop 7).takeWhile Char.isDigit).length
    if stop < 9 then stop else if stop % 2 = 0 then 7 else 8
  else 8

/-- A moment: a day, then one character of any kind and a time. -/
def readDateTime (s : String) : Except IsoError DateTime := do
  let cs := bytes s
  let n := dayLength cs
  match readDay? (cs.take n) with
  | none => .error .malformed
  | some date =>
    match cs.drop n with
    | [] => pure date.toDateTime
    | first :: rest =>
      let (clock, offset) ← readParts (rest.drop (characterSize first - 1))
      pure ⟨date, ← clock.toTime offset⟩

end PagedQuery.Time.Iso
