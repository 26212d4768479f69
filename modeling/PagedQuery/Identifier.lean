import PagedQuery.Number.Integer

/-!
# Universally unique identifiers

Numbers of 128 bits in hexadecimal, with or without dashes, braces and name-space words.
-/

namespace PagedQuery.Identifier

open PagedQuery.Text PagedQuery.Number

/-- Why a text is no identifier. -/
inductive IdentifierError
  | badLength
  | notHexadecimal (text : String)
  deriving Repr, DecidableEq

/-- Characters with every occurrence of a word left out, after a number of characters to pass over. -/
def withoutWord (word : List Char) : Nat → List Char → List Char
  | _, [] => []
  | passed + 1, _ :: cs => withoutWord word passed cs
  | 0, c :: cs =>
    if word.isPrefixOf (c :: cs) then withoutWord word (word.length - 1) cs
    else c :: withoutWord word 0 cs

/-- A text with every occurrence of a word removed. -/
def removeWord (word s : String) : String := String.ofList (withoutWord word.toList 0 s.toList)

/-- The identifier of a text. -/
def read (s : String) : Except IdentifierError Nat :=
  let s := removeWord "uuid:" (removeWord "urn:" s)
  let isBrace := fun c => c == '\x7b' || c == '\x7d'
  let cs := ((s.toList.dropWhile isBrace).reverse.dropWhile isBrace).reverse
  let hex := String.ofList (cs.filter (· != '-'))
  if hex.length ≠ 32 then .error .badLength
  else
    match readIn 16 hex with
    | .ok n => if 0 ≤ n then .ok n.toNat else .error (.notHexadecimal hex)
    | .error _ => .error (.notHexadecimal hex)

/-- Groups of 8, 4, 4, 4 and 12 digits with dashes between them. -/
def text (n : Nat) : String :=
  let cs := (hexText 32 n).toList
  let part := fun start count => String.ofList ((cs.drop start).take count)
  String.intercalate "-" [part 0 8, part 8 4, part 12 4, part 16 4, part 20 12]

end PagedQuery.Identifier
