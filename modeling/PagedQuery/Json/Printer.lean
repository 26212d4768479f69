import PagedQuery.Json.Basic
import PagedQuery.Number.Binary64
import PagedQuery.Value.Basic

/-!
# Writing JSON

On one line, or with one element to a line. Characters outside printable ASCII are escaped by their
UTF-16 units.
-/

namespace PagedQuery

open PagedQuery.Number PagedQuery.Text

namespace Json

/-- An escape by UTF-16 unit. -/
def unitEscape (unit : Nat) : String := "\\u" ++ hexText 4 unit

/-- A character of a string. -/
def escaped (c : Char) : String :=
  let code := c.toNat
  if c = '"' then "\\\""
  else if c = '\\' then "\\\\"
  else if c = '\n' then "\\n"
  else if c = '\r' then "\\r"
  else if c = '\t' then "\\t"
  else if c = '\x08' then "\\b"
  else if c = '\x0c' then "\\f"
  else if 0x20 ≤ code ∧ code < 0x7f then c.toString
  else if code < 0x10000 then unitEscape code
  else
    let rest := code - 0x10000
    unitEscape (0xD800 + rest / 0x400) ++ unitEscape (0xDC00 + rest % 0x400)

def quotedText (s : String) : String := "\"" ++ String.join (s.toList.map escaped) ++ "\""

/-- Floats as they read back, with words for the special ones. -/
def floatLayout : FloatLayout := { plainLayout with infinity := "Infinity", notANumber := "NaN" }

/-- The text of a value that holds no others. -/
def atom : Json → String
  | .null => "null"
  | .bool b => if b then "true" else "false"
  | .int n => toString n
  | .float x => floatLayout.text x
  | .text s => quotedText s
  | .list _ => "[]"
  | .object _ => "\x7b\x7d"

mutual
/-- The text of a value on one line. -/
def compact : Json → String
  | .list xs => "[" ++ String.intercalate ", " (compactAll xs) ++ "]"
  | .object fields => "\x7b" ++ String.intercalate ", " (compactFields fields) ++ "\x7d"
  | v => v.atom
def compactAll : List Json → List String
  | [] => []
  | x :: xs => x.compact :: compactAll xs
def compactFields : List (String × Json) → List String
  | [] => []
  | (key, x) :: rest => (quotedText key ++ ": " ++ x.compact) :: compactFields rest
end

/-- The start of a line at a depth. -/
def newLine (depth : Nat) : String := "\n" ++ String.ofList (List.replicate (2 * depth) ' ')

/-- Elements between brackets, each on a line of its own. -/
def onLines (depth : Nat) (opening closing : String) (items : List String) : String :=
  if items.isEmpty then opening ++ closing
  else
    opening ++ newLine (depth + 1) ++ String.intercalate ("," ++ newLine (depth + 1)) items ++
      newLine depth ++ closing

mutual
/-- The text of a value with its elements on lines of their own, at a depth. -/
def indented (depth : Nat) : Json → String
  | .list xs => onLines depth "[" "]" (indentedAll (depth + 1) xs)
  | .object fields => onLines depth "\x7b" "\x7d" (indentedFields (depth + 1) fields)
  | v => v.atom
def indentedAll (depth : Nat) : List Json → List String
  | [] => []
  | x :: xs => x.indented depth :: indentedAll depth xs
def indentedFields (depth : Nat) : List (String × Json) → List String
  | [] => []
  | (key, x) :: rest => (quotedText key ++ ": " ++ x.indented depth) :: indentedFields depth rest
end

end Json

namespace Value

/-- A value that holds no others as JSON, if JSON has such values. -/
def atomJson? (v : Value) : Option Json :=
  match v with
  | .null => some .null
  | .bool b => some (.bool b)
  | .int n | .member _ .integer _ (.int n) => some (.int n)
  | .float x | .member _ .float _ (.float x) => some (.float x)
  | v => v.text?.map .text

mutual
/-- A value as JSON; values that JSON does not have are given by their texts. -/
def toJson : Value → Json
  | .list xs => .list (toJsonAll xs)
  | .tuple xs => .list (toJsonAll xs)
  | .dict entries => .object (toJsonFields entries)
  | v => v.atomJson?.getD (.text v.toText)
def toJsonAll : List Value → List Json
  | [] => []
  | x :: xs => x.toJson :: toJsonAll xs
def toJsonFields : List (Value × Value) → List (String × Json)
  | [] => []
  | (key, x) :: rest => (key.toText, x.toJson) :: toJsonFields rest
end

mutual
/-- The type of the first value within that JSON does not have. -/
def foreignToJson? : Value → Option String
  | .list xs => foreignAmong? xs
  | .tuple xs => foreignAmong? xs
  | .dict entries => foreignAmongFields? entries
  | v => if v.atomJson?.isSome then none else some v.typeName
def foreignAmong? : List Value → Option String
  | [] => none
  | x :: xs => x.foreignToJson?.orElse fun _ => foreignAmong? xs
def foreignAmongFields? : List (Value × Value) → Option String
  | [] => none
  | (_, x) :: rest => x.foreignToJson?.orElse fun _ => foreignAmongFields? rest
end

end Value

end PagedQuery
