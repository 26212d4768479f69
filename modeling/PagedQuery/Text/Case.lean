import PagedQuery.Text.CaseTable

/-!
# Letter case

Upper case, lower case and case folding of texts, with the images that are longer than one
character and the rule for the final sigma.
-/

namespace PagedQuery.Text

/-- The image of a code point, if the run holds it. -/
def CaseRun.image? (run : CaseRun) (code : Nat) : Option Nat :=
  if run.first ≤ code ∧ code ≤ run.last ∧ (code - run.first) % run.stride = 0 then
    some (code + run.shift).toNat
  else
    none

/-- A character mapped by a table of long images and a table of runs; others stay. -/
def mapCase (long : Array (Nat × List Nat)) (runs : Array CaseRun) (c : Char) : List Char :=
  match long.find? (·.1 == c.toNat) with
  | some (_, image) => image.map Char.ofNat
  | none =>
    match runs.findSome? (·.image? c.toNat) with
    | some code => [Char.ofNat code]
    | none => [c]

/-- Whether one of the ranges holds the code point. -/
def inRanges (ranges : Array (Nat × Nat)) (code : Nat) : Bool :=
  ranges.any fun (first, last) => first ≤ code && code ≤ last

def upperChar (c : Char) : List Char :=
  if c.toNat < 128 then [c.toUpper] else mapCase upperLong upperRuns c

def foldChar (c : Char) : List Char :=
  if c.toNat < 128 then [c.toLower] else mapCase foldLong foldRuns c

/-- Lower case of a character on its own; a capital sigma becomes the medial one. -/
def lowerChar (c : Char) : List Char :=
  if c.toNat < 128 then [c.toLower] else mapCase lowerLong lowerRuns c

def isCased (c : Char) : Bool := inRanges casedRanges c.toNat

def isCaseIgnorable (c : Char) : Bool := inRanges ignorableRanges c.toNat

/-- Whether the next character that counts is a cased one. -/
def casedNext : List Char → Bool
  | [] => false
  | c :: rest => if isCaseIgnorable c then casedNext rest else isCased c

/-- Lower case, given whether the last character that counts was a cased one: a capital sigma
at the end of a word becomes the final one. -/
def lowerFrom (casedBefore : Bool) : List Char → List Char
  | [] => []
  | c :: rest =>
    (if c = 'Σ' then [if casedBefore && !casedNext rest then 'ς' else 'σ'] else lowerChar c) ++
      lowerFrom (if isCaseIgnorable c then casedBefore else isCased c) rest

def upperChars (cs : List Char) : List Char := cs.flatMap upperChar

def foldChars (cs : List Char) : List Char := cs.flatMap foldChar

def upper (s : String) : String := String.ofList (upperChars s.toList)

def lower (s : String) : String := String.ofList (lowerFrom false s.toList)

/-- Case folding, for comparisons that ignore case. -/
def fold (s : String) : String := String.ofList (foldChars s.toList)

/-- ASCII letters lowered and all else kept. -/
def lowerAscii (s : String) : String := s.map Char.toLower

/-- The first character in upper case, the rest as it is. -/
def capitalizeChars : List Char → List Char
  | [] => []
  | c :: rest => upperChar c ++ rest

def capitalize (s : String) : String := String.ofList (capitalizeChars s.toList)

theorem capitalizeChars_cons (c : Char) (rest : List Char) :
    capitalizeChars (c :: rest) = upperChar c ++ rest := rfl

theorem foldChars_append (a b : List Char) : foldChars (a ++ b) = foldChars a ++ foldChars b := by
  simp [foldChars]

end PagedQuery.Text
