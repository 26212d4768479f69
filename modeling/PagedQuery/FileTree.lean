import PagedQuery.Text.Quoted
import PagedQuery.Text.Split

/-!
# Files

The text files and the directories that paths lead to from the working directory. A path leads on
only through directories that exist, so that a step up (`..`) undoes a step down only there.
-/

namespace PagedQuery

open PagedQuery.Text

/-- Whether a text holds the character of code zero, which no path and no variable can hold. -/
def holdsZero (s : String) : Bool := s.toList.contains (Char.ofNat 0)

/-- The segments of a path, without empty and neutral ones. -/
def pathSegments (path : String) : List String :=
  (split '/' path).filter fun s => s != "" && s != "."

/-- The start of a path from the topmost directory: one slash, or exactly two. -/
def pathRoot (path : String) : String :=
  match path.toList.takeWhile (· == '/') with
  | [] => ""
  | ['/', '/'] => "//"
  | _ => "/"

/-- A path without empty and neutral segments. -/
def cleanPath (path : String) : String :=
  let clean := pathRoot path ++ String.intercalate "/" (pathSegments path)
  if clean = "" then "." else clean

/-- A file or directory by the steps that lead to it from the working directory. Steps up and the
topmost directory `/` can only stand first. -/
abbrev Place := List String

namespace Place

def isTop (p : Place) : Bool := p == ["/"]

/-- Whether a place is the working directory or one above it. -/
def isAround (p : Place) : Bool := p.isTop || p.all (· == "..")

/-- The directory that holds a place; the topmost one holds itself. -/
def parent (p : Place) : Place :=
  if p.isTop then p else if p.isAround then ".." :: p else p.dropLast

/-- One step from a place. -/
def step (p : Place) (segment : String) : Place :=
  if segment = ".." then p.parent else p ++ [segment]

/-- The place where a path starts. -/
def start (path : String) : Place := if pathRoot path = "" then [] else ["/"]

end Place

inductive FileEntry
  | file (text : String)
  | directory
  deriving Repr, DecidableEq

/-- Why a file cannot be looked up or written. -/
inductive FileError
  | isDirectory (path : String)
  | notDirectory (path : String)
  | alreadyExists (path : String)
  | nameTooLong (path : String)
  /-- No path holds the character of code zero. -/
  | zeroCharacter
  deriving Repr, DecidableEq

def FileError.message : FileError → String
  | .isDirectory path => "[Errno 21] Is a directory: " ++ quoted path
  | .notDirectory path => "[Errno 20] Not a directory: " ++ quoted path
  | .alreadyExists path => "[Errno 17] File exists: " ++ quoted path
  | .nameTooLong path => "[Errno 36] File name too long: " ++ quoted path
  | .zeroCharacter => "embedded null byte"

/-- The longest name of a file or directory, in bytes. -/
def longestName : Nat := 255

/-- The longest path, in bytes. -/
def longestPath : Nat := 4095

structure FileTree where
  files : List (Place × String) := []
  /-- Directories besides those that hold a file. -/
  directories : List Place := []
  deriving Inhabited

namespace FileTree

variable (tree : FileTree)

/-- The text of the file at a place. -/
def textAt? (p : Place) : Option String := (tree.files.find? (·.1 == p)).map (·.2)

/-- Whether a place lies below a directory. -/
def isBelow (directory p : Place) : Bool :=
  directory.length < p.length && directory.isPrefixOf p

def isDirectory (p : Place) : Bool :=
  p.isAround || tree.directories.any (fun d => d == p || isBelow p d) ||
    tree.files.any fun (f, _) => isBelow p f

/-- The place to which segments lead from a place, if all but the last lead to directories. -/
def follow? (p : Place) : List String → Option Place
  | [] => some p
  | segment :: rest =>
    if tree.isDirectory p then follow? (p.step segment) rest else none

/-- The place of a path. -/
def place? (path : String) : Option Place := tree.follow? (.start path) (pathSegments path)

/-- What a path leads to. -/
def entry? (path : String) : Option FileEntry := do
  let p ← tree.place? path
  match tree.textAt? p with
  | some text => some (.file text)
  | none => if tree.isDirectory p then some .directory else none

/-- Whether the way of segments from a place meets a name that is too long for a file. -/
def meetsLongName (p : Place) : List String → Bool
  | [] => false
  | segment :: rest =>
    tree.isDirectory p &&
      (longestName < segment.utf8ByteSize || meetsLongName (p.step segment) rest)

def isTooLong (path : String) : Bool :=
  longestPath < (cleanPath path).utf8ByteSize ||
    tree.meetsLongName (.start path) (pathSegments path)

/-- What a path leads to, if it is one that can be looked up. -/
def look (path : String) : Except FileError (Option FileEntry) :=
  if holdsZero path then .ok none
  else if tree.isTooLong path then .error (.nameTooLong (cleanPath path))
  else .ok (tree.entry? path)

/-- The text of the file that a path leads to. -/
def read? (path : String) : Option String :=
  match tree.entry? path with
  | some (.file text) => some text
  | _ => none

/-- The file at a place with a text. -/
def put (p : Place) (text : String) : FileTree :=
  { tree with files := (p, text) :: tree.files.filter (·.1 != p) }

/-- Makes the directories through which segments lead from a place, and gives the last one. -/
def makeDirectories : FileTree → Place → List String → FileTree × Place
  | tree, p, [] => (tree, p)
  | tree, p, segment :: rest =>
    let next := p.step segment
    let tree : FileTree :=
      if tree.isDirectory next then tree else { tree with directories := next :: tree.directories }
    tree.makeDirectories next rest

/-- Writes a file, and makes the directories on the way to it. -/
def write (path text : String) : FileTree :=
  let segments := pathSegments path
  let (tree, p) := tree.makeDirectories (.start path) segments.dropLast
  match segments.getLast? with
  | some name => tree.put (p.step name) text
  | none => tree

def delete (path : String) : FileTree :=
  match tree.place? path with
  | none => tree
  | some p =>
    { files := tree.files.filter (·.1 != p)
      directories := if p.isAround then tree.directories else p.parent :: tree.directories }

/-- What stands in the way of a directory at segments from a place: a file in its place, one on the
way to it, or a name that is too long, which is met where the directories before it are there. -/
def obstacle? (root : String) (p : Place) (done : List String) : List String → Option FileError
  | [] => none
  | segment :: rest =>
    let next := p.step segment
    let done := done ++ [segment]
    let here := root ++ String.intercalate "/" done
    let whole := root ++ String.intercalate "/" (done ++ rest)
    if longestName < segment.utf8ByteSize then
      some (.nameTooLong (if tree.isDirectory p then whole else here))
    else if (tree.textAt? next).isSome then
      some (if rest.isEmpty then .alreadyExists here else .notDirectory whole)
    else obstacle? root next done rest

/-- What stands in the way of the directory that is to hold a file. -/
def directoryObstacle? (path : String) : Option FileError :=
  let root := pathRoot path
  let segments := (pathSegments path).dropLast
  let directory := root ++ String.intercalate "/" segments
  if holdsZero directory then some .zeroCharacter
  else if longestPath < directory.utf8ByteSize then some (.nameTooLong directory)
  else tree.obstacle? root (.start path) [] segments

/-- Writes a file unless something is in the way of its directory, its name is none for a file, or
a directory has that name. -/
def write? (path text : String) : Except FileError FileTree :=
  match tree.directoryObstacle? path with
  | some e => .error e
  | none =>
    let last := (pathSegments path).getLast?.getD ""
    if holdsZero path then .error .zeroCharacter
    else if longestName < last.utf8ByteSize || longestPath < (cleanPath path).utf8ByteSize then
      .error (.nameTooLong (cleanPath path))
    else if tree.entry? path = some .directory then .error (.isDirectory (cleanPath path))
    else .ok (tree.write path text)

theorem textAt?_put (p : Place) (text : String) : (tree.put p text).textAt? p = some text := by
  simp [put, textAt?]

end FileTree

end PagedQuery
