import PagedQuery.Text.Digit
import PagedQuery.Text.PrintableTable

/-!
# Quoted texts

The form in which messages show a text: in single quotes, or in double quotes if the text holds a
single quote and no double one, with escapes for what cannot be printed.
-/

namespace PagedQuery.Text

def isPrintable (c : Char) : Bool :=
  if c.toNat < 127 then 32 ≤ c.toNat else inRanges printableRanges c.toNat

/-- The quote mark that a text calls for. -/
def quoteMark (cs : List Char) : Char :=
  if cs.contains '\'' && !cs.contains '"' then '"' else '\''

/-- A character inside quotes. -/
def escapeChar (mark c : Char) : String :=
  if c = mark ∨ c = '\\' then String.ofList ['\\', c]
  else if c = '\n' then "\\n"
  else if c = '\r' then "\\r"
  else if c = '\t' then "\\t"
  else if isPrintable c then c.toString
  else if c.toNat < 0x100 then "\\x" ++ hexText 2 c.toNat
  else if c.toNat < 0x10000 then "\\u" ++ hexText 4 c.toNat
  else "\\U" ++ hexText 8 c.toNat

/-- The text between quotes. -/
def quoted (s : String) : String :=
  let cs := s.toList
  let mark := quoteMark cs
  mark.toString ++ String.join (cs.map (escapeChar mark)) ++ mark.toString

/-- The quoted text, cut to a number of characters. -/
def quotedWithin (limit : Nat) (s : String) : String := String.ofList ((quoted s).toList.take limit)

/-- Bytes between quotes, after a `b`; bytes outside printable ASCII are escaped. -/
def quotedBytes (bytes : List UInt8) : String :=
  let cs := bytes.map fun b => Char.ofNat b.toNat
  let mark := quoteMark cs
  let shown := cs.map fun c =>
    if c.toNat < 127 then escapeChar mark c else "\\x" ++ hexText 2 c.toNat
  "b" ++ mark.toString ++ String.join shown ++ mark.toString

end PagedQuery.Text
