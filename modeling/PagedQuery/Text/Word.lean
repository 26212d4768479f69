import PagedQuery.Text.Case
import PagedQuery.Text.WordTable

/-!
# Words

The characters that names are made of, and the one spelling of a name whose letters may be written
in variants.
-/

namespace PagedQuery.Text

def isWordStart (c : Char) : Bool :=
  if c.toNat < 128 then c.isAlpha || c == '_' else inRanges wordStartRanges c.toNat

def isWordPart (c : Char) : Bool :=
  if c.toNat < 128 then c.isAlphanum || c == '_'
  else inRanges wordStartRanges c.toNat || inRanges wordPartRanges c.toNat

/-- The letter at a place in runs of the alphabet in upper and lower case. -/
def letterInRun (place : Nat) : Char :=
  let place := place % 52
  if place < 26 then Char.ofNat (65 + place) else Char.ofNat (71 + place)

/-- A character of a word as ASCII, if it is a variant of such. -/
def plainLetter (c : Char) : List Char :=
  let code := c.toNat
  if 0x1d400 ≤ code ∧ code ≤ 0x1d6a3 then [letterInRun (code - 0x1d400)]
  else if 0x1d7ce ≤ code ∧ code ≤ 0x1d7ff then [Char.ofNat (48 + (code - 0x1d7ce) % 10)]
  else if 0xff01 ≤ code ∧ code ≤ 0xff5e then [Char.ofNat (code - 0xfee0)]
  else
    match wordVariants.find? (·.1 == code) with
    | some (_, letters) => letters.toList
    | none => [c]

/-- The one spelling of a word, as far as it is one in ASCII. -/
def plainWord (cs : List Char) : String :=
  String.ofList (cs.flatMap fun c => if c.toNat < 128 then [c] else plainLetter c)

end PagedQuery.Text
