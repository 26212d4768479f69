import PagedQuery.Json.Basic
import PagedQuery.Number.Binary64
import PagedQuery.Text.Split
import PagedQuery.Text.Utf8

/-!
# Reading JSON

The JSON grammar, with `NaN` and infinities besides. Of equal keys the last value counts, at the
first one's place. Control characters inside strings are refused.
-/

namespace PagedQuery.Json

open PagedQuery.Text PagedQuery.Number

def isSpace (c : Char) : Bool := c == ' ' || c == '\t' || c == '\n' || c == '\r'

def skipSpace (cs : List Char) : List Char := cs.dropWhile isSpace

/-- Four hexadecimal digits. -/
def readUnit? : List Char → Option (Nat × List Char)
  | a :: b :: c :: d :: rest =>
    match hexValue? a, hexValue? b, hexValue? c, hexValue? d with
    | some w, some x, some y, some z => some (((w * 16 + x) * 16 + y) * 16 + z, rest)
    | _, _, _, _ => none
  | _ => none

/-- The character after a backslash. -/
def simpleEscape? : Char → Option Char
  | '"' => some '"'
  | '\\' => some '\\'
  | '/' => some '/'
  | 'b' => some '\x08'
  | 'f' => some '\x0c'
  | 'n' => some '\n'
  | 'r' => some '\r'
  | 't' => some '\t'
  | _ => none

/-- The second half of a surrogate pair that completes the first one. -/
def lowSurrogate? : List Char → Option (Nat × List Char)
  | '\\' :: 'u' :: rest =>
    match readUnit? rest with
    | some (n, rest) => if 0xDC00 ≤ n ∧ n < 0xE000 then some (n, rest) else none
    | none => none
  | _ => none

/-- One character of a string, its escapes decoded. -/
def readChar? : List Char → Option (Char × List Char)
  | '\\' :: 'u' :: rest =>
    match readUnit? rest with
    | none => none
    | some (n, rest) =>
      if 0xD800 ≤ n ∧ n < 0xDC00 then
        match lowSurrogate? rest with
        | some (m, rest) => some (Char.ofNat (0x10000 + (n - 0xD800) * 0x400 + (m - 0xDC00)), rest)
        | none => some (replacement, rest)
      else if 0xDC00 ≤ n ∧ n < 0xE000 then some (replacement, rest)
      else some (Char.ofNat n, rest)
  | '\\' :: c :: rest => (simpleEscape? c).map (·, rest)
  | c :: rest => if c.toNat < 0x20 ∨ c = '\\' then none else some (c, rest)
  | [] => none

/-- A string after its opening quote. -/
def readString? : Nat → List Char → Option (List Char × List Char)
  | 0, _ => none
  | _ + 1, '"' :: rest => some ([], rest)
  | fuel + 1, cs =>
    match readChar? cs with
    | none => none
    | some (c, rest) => (readString? fuel rest).map fun (s, rest) => (c :: s, rest)

/-- A number: no leading zeros, a fraction or an exponent making it a float. -/
def readNumber? (cs : List Char) : Option (Json × List Char) :=
  let (negative, cs) := if cs.head? = some '-' then (true, cs.drop 1) else (false, cs)
  let whole := if cs.head? = some '0' then ['0'] else cs.takeWhile Char.isDigit
  if whole.isEmpty then none
  else
    let rest := cs.drop whole.length
    let fraction := match rest with
      | '.' :: r => if r.head?.any Char.isDigit then '.' :: r.takeWhile Char.isDigit else []
      | _ => []
    let rest := rest.drop fraction.length
    let exponent := match rest with
      | 'e' :: r | 'E' :: r =>
        let sign := match r with
          | '+' :: _ | '-' :: _ => r.take 1
          | _ => []
        let ds := (r.drop sign.length).takeWhile Char.isDigit
        if ds.isEmpty then [] else 'e' :: sign ++ ds
      | _ => []
    let rest := rest.drop exponent.length
    let sign := if negative then ['-'] else []
    if fraction.isEmpty ∧ exponent.isEmpty then
      match readPlain (String.ofList (sign ++ whole)) with
      | .ok n => some (.int n, rest)
      | .error _ => none
    else
      (readFloat? (String.ofList (sign ++ whole ++ fraction ++ exponent))).map fun x =>
        (.float x, rest)

/-- The words that stand for values. -/
def words : List (String × Json) :=
  [("null", .null), ("true", .bool true), ("false", .bool false), ("NaN", .float notANumber),
   ("Infinity", .float infinity), ("-Infinity", .float (-infinity))]

mutual
/-- A value at the start of a text. -/
def readValue? : Nat → List Char → Option (Json × List Char)
  | 0, _ => none
  | fuel + 1, cs =>
    match cs with
    | '"' :: rest => (readString? (rest.length + 1) rest).map fun (s, rest) =>
      (.text (String.ofList s), rest)
    | '\x5b' :: rest =>
      let rest := skipSpace rest
      if rest.head? = some '\x5d' then some (.list [], rest.drop 1)
      else (readElements? fuel rest).map fun (xs, rest) => (.list xs, rest)
    | '\x7b' :: rest =>
      let rest := skipSpace rest
      if rest.head? = some '\x7d' then some (.object [], rest.drop 1)
      else (readFields? fuel [] rest).map fun (fs, rest) => (.object fs, rest)
    | cs =>
      match words.findSome? fun (w, v) => (afterPrefix? w.toList cs).map fun rest => (v, rest) with
      | some r => some r
      | none => readNumber? cs
/-- The elements of an array up to its end. -/
def readElements? : Nat → List Char → Option (List Json × List Char)
  | 0, _ => none
  | fuel + 1, cs =>
    match readValue? fuel cs with
    | none => none
    | some (x, rest) =>
      match skipSpace rest with
      | '\x5d' :: rest => some ([x], rest)
      | ',' :: rest => (readElements? fuel (skipSpace rest)).map fun (xs, rest) => (x :: xs, rest)
      | _ => none
/-- The fields of an object up to its end, after those read so far. -/
def readFields? : Nat → List (String × Json) → List Char →
    Option (List (String × Json) × List Char)
  | 0, _, _ => none
  | fuel + 1, seen, '"' :: cs =>
    match readString? (cs.length + 1) cs with
    | none => none
    | some (key, rest) =>
      match skipSpace rest with
      | ':' :: rest =>
        match readValue? fuel (skipSpace rest) with
        | none => none
        | some (v, rest) =>
          let seen := putEntry (String.ofList key) v seen
          match skipSpace rest with
          | '\x7d' :: rest => some (seen, rest)
          | ',' :: rest => readFields? fuel seen (skipSpace rest)
          | _ => none
      | _ => none
  | _ + 1, _, _ => none
end

/-- The value of a whole text. -/
def read? (s : String) : Option Json :=
  let cs := s.toList
  match readValue? (2 * cs.length + 2) (skipSpace cs) with
  | some (v, rest) => if (skipSpace rest).isEmpty then some v else none
  | none => none

end PagedQuery.Json
