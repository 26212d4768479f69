import PagedQuery.FileTree
import PagedQuery.Json.Basic

/-!
# Workspaces

The files of the working directory and the environment variables, and the texts in which these
are written by reference.
-/

namespace PagedQuery

open PagedQuery.Text

structure Workspace where
  files : FileTree := {}
  environment : List (String × String) := []
  deriving Inhabited

/-- Why a variable cannot be set. -/
inductive VariableError
  | nameless
  | nameWithSign
  | zeroCharacter
  deriving Repr, DecidableEq

def VariableError.message : VariableError → String
  | .nameless => "[Errno 22] Invalid argument"
  | .nameWithSign => "illegal environment variable name"
  | .zeroCharacter => "embedded null byte"

/-- A character of a variable's name where it stands without braces. -/
def isNameChar (c : Char) : Bool := c.isAlphanum || c == '_'

/-- The name of a variable after a dollar sign, the length of its notation, and the rest. -/
def variableName? (cs : List Char) : Option (List Char × List Char × List Char) :=
  match cs with
  | '\x7b' :: rest =>
    (cutAt? '\x7d' rest).map fun (name, after) => (name, '\x7b' :: name ++ ['\x7d'], after)
  | cs =>
    let name := cs.takeWhile isNameChar
    if name.isEmpty then none else some (name, name, cs.drop name.length)

/-- A text with the values of variables in place of their names, which stand after dollar signs.
Unknown ones stay as they are. -/
def expandVariables (environment : List (String × String)) : Nat → List Char → List Char
  | 0, cs => cs
  | _ + 1, [] => []
  | fuel + 1, c :: cs =>
    match if c = '$' then variableName? cs else none with
    | none => c :: expandVariables environment fuel cs
    | some (name, shown, rest) =>
      match lookup? (String.ofList name) environment with
      | some value => value.toList ++ expandVariables environment fuel rest
      | none => c :: shown ++ expandVariables environment fuel rest

/-- The names of the variables that a text refers to. -/
def variableNames : List Char → List String
  | [] => []
  | c :: rest =>
    let here := if c = '$' then variableName? rest else none
    (here.map fun (name, _) => String.ofList name).toList ++ variableNames rest

namespace Workspace

variable (w : Workspace)

/-- The home directory. -/
def home : List Char := ((lookup? "HOME" w.environment).getD "/root").toList

/-- The home directory of an account, if it is known. -/
def accountHome? (account : List Char) : Option (List Char) :=
  if account.isEmpty then some w.home
  else if account = "root".toList then some "/root".toList
  else none

/-- A path in which a tilde at the start, perhaps with an account after it, stands for a home
directory; slashes at the end of that do not count. -/
def expandHome (path : List Char) : List Char :=
  match path with
  | '~' :: rest =>
    match w.accountHome? (rest.takeWhile (· != '/')) with
    | none => path
    | some home =>
      let expanded := (home.reverse.dropWhile (· == '/')).reverse ++ rest.dropWhile (· != '/')
      if expanded.isEmpty then ['/'] else expanded
  | _ => path

/-- The workspace with a variable. -/
def setVariable (name value : String) : Except VariableError Workspace :=
  if holdsZero name || holdsZero value then .error .zeroCharacter
  else if name.contains '=' then .error .nameWithSign
  else if name = "" then .error .nameless
  else .ok { w with environment := putEntry name value w.environment }

/-- A path with its variables and its home directory expanded. -/
def expand (path : String) : String :=
  let cs := path.toList
  String.ofList (w.expandHome (expandVariables w.environment (cs.length + 1) cs))

def exists? (path : String) : Bool := (w.files.entry? path).isSome

def write (path text : String) : Workspace := { w with files := w.files.write path text }

end Workspace

end PagedQuery
