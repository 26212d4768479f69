import PagedQuery.Number.Integer
import PagedQuery.Text.Quoted
import PagedQuery.Value.Basic

/-!
# Failures of TOML texts

What is wrong with a text, and where. A place is told by how much of the text is left there.
-/

namespace PagedQuery.Toml

open PagedQuery.Number PagedQuery.Text

/-- The keys that lead to an entry, from the outermost table on. -/
abbrev Path := List String

inductive Problem
  -- texts and comments
  | expected (mark : String)
  | invalidCharacter (c : Char)
  | illegalCharacter (c : Char)
  | unterminated
  | unescaped
  | hexValue
  | notScalar
  -- values
  | value
  | date
  | tooManyDigits (count : Nat)
  | unclosedArray
  | unclosedTable
  -- keys
  | keyStart
  | equalsSign
  | duplicateKey (key : String)
  | immutable (path : Path)
  | overwritten
  | declaredTwice (path : Path)
  | redefined (path : Path)
  -- statements
  | tableEnd
  | arrayEnd
  | statement
  | statementEnd
  deriving Repr, DecidableEq

structure Failure where
  problem : Problem
  /-- How many characters are left. -/
  left : Nat
  deriving Repr, DecidableEq

/-- A path as messages show it. -/
def shownPath (path : Path) : String := (Value.tuple (path.map .text)).quoted

def Problem.message : Problem → String
  | expected mark => "Expected " ++ quoted mark
  | invalidCharacter c => "Found invalid character " ++ quoted c.toString
  | illegalCharacter c => "Illegal character " ++ quoted c.toString
  | unterminated => "Unterminated string"
  | unescaped => "Unescaped '\\' in a string"
  | hexValue => "Invalid hex value"
  | notScalar => "Escaped character is not a Unicode scalar value"
  | value => "Invalid value"
  | date => "Invalid date or datetime"
  | tooManyDigits count => (IntegerError.tooManyDigits count).message
  | unclosedArray => "Unclosed array"
  | unclosedTable => "Unclosed inline table"
  | keyStart => "Invalid initial character for a key part"
  | equalsSign => "Expected '=' after a key in a key/value pair"
  | duplicateKey key => "Duplicate inline table key " ++ quoted key
  | immutable path => "Cannot mutate immutable namespace " ++ shownPath path
  | overwritten => "Cannot overwrite a value"
  | declaredTwice path => "Cannot declare " ++ shownPath path ++ " twice"
  | redefined path => "Cannot redefine namespace " ++ shownPath path
  | tableEnd => "Expected ']' at the end of a table declaration"
  | arrayEnd => "Expected ']]' at the end of an array declaration"
  | statement => "Invalid statement"
  | statementEnd => "Expected newline or end of document after a statement"

/-- The line and column, counted from 1, after some characters. -/
def coordinates (before : List Char) : Nat × Nat :=
  (before.count '\n' + 1, (before.reverse.takeWhile (· != '\n')).length + 1)

/-- The failure of a text, with its place. -/
def Failure.message (text : List Char) (f : Failure) : String :=
  let place :=
    if f.left = 0 then "end of document"
    else
      let (line, column) := coordinates (text.take (text.length - f.left))
      "line " ++ toString line ++ ", column " ++ toString column
  f.problem.message ++ " (at " ++ place ++ ")"

/-- Stops with a problem before the given rest of the text. -/
def stop {α : Type} (problem : Problem) (rest : List Char) : Except Failure α :=
  .error ⟨problem, rest.length⟩

end PagedQuery.Toml
