import PagedQuery.Time.Calendar

/-!
# Numeric dates

Days written as three numbers with one separator, in either order of the numbers. Day and month
have one or two digits, the year four.
-/

namespace PagedQuery.Time.Pattern

open PagedQuery.Text PagedQuery.Time

/-- A part of a numeric date. -/
inductive Part
  | year
  | month
  | day

/-- Characters whose values make up a field. -/
def valueOf (cs : List Char) : Nat := ofDigits (cs.filterMap digitValue?)

def isAsciiNonzero (c : Char) : Bool := '1' ≤ c && c ≤ '9'

/-- The readings of a day at the start of a text, in order of preference: two digits before one. -/
def dayReadings : List Char → List (Nat × List Char)
  | cs =>
    let two := match cs with
      | '3' :: b :: rest => if b = '0' ∨ b = '1' then [(valueOf ['3', b], rest)] else []
      | '1' :: b :: rest | '2' :: b :: rest =>
        if (digitValue? b).isSome then [(valueOf (cs.take 2), rest)] else []
      | '0' :: b :: rest | ' ' :: b :: rest =>
        if isAsciiNonzero b then [(valueOf [b], rest)] else []
      | _ => []
    let one := match cs with
      | a :: rest => if isAsciiNonzero a then [(valueOf [a], rest)] else []
      | [] => []
    two ++ one

/-- The readings of a month. -/
def monthReadings : List Char → List (Nat × List Char)
  | cs =>
    let two := match cs with
      | '1' :: b :: rest =>
        if b = '0' ∨ b = '1' ∨ b = '2' then [(valueOf ['1', b], rest)] else []
      | '0' :: b :: rest => if isAsciiNonzero b then [(valueOf [b], rest)] else []
      | _ => []
    let one := match cs with
      | a :: rest => if isAsciiNonzero a then [(valueOf [a], rest)] else []
      | [] => []
    two ++ one

/-- The reading of a year: four digits of any script. -/
def yearReadings (cs : List Char) : List (Nat × List Char) :=
  let ds := cs.take 4
  if ds.length = 4 ∧ ds.all fun c => (digitValue? c).isSome then [(valueOf ds, cs.drop 4)] else []

def Part.readings : Part → List Char → List (Nat × List Char)
  | .year => yearReadings
  | .month => monthReadings
  | .day => dayReadings

/-- The first reading of parts with a separator between them, and the rest after it. -/
def firstReading? (separator : Char) : List Part → List Char → Option (List Nat × List Char)
  | [], cs => some ([], cs)
  | [part], cs => (part.readings cs).head?.map fun (n, rest) => ([n], rest)
  | part :: parts, cs =>
    (part.readings cs).findSome? fun (n, rest) =>
      if rest.head? = some separator then
        (firstReading? separator parts (rest.drop 1)).map fun (ns, rest) => (n :: ns, rest)
      else none

/-- A way to write a day. -/
structure Form where
  separator : Char
  yearFirst : Bool

def Form.read? (form : Form) (s : String) : Option Date :=
  let parts := if form.yearFirst then [Part.year, .month, .day] else [.day, .month, .year]
  match firstReading? form.separator parts s.toList with
  | some ([a, b, c], []) => if form.yearFirst then Date.of? a b c else Date.of? c b a
  | _ => none

/-- The accepted forms, in order of preference. -/
def forms : List Form := [⟨'-', true⟩, ⟨'/', true⟩, ⟨'-', false⟩, ⟨'/', false⟩]

/-- The day of a text in the first form that reads it. -/
def readDate? (s : String) : Option Date := forms.findSome? (·.read? s)

end PagedQuery.Time.Pattern
