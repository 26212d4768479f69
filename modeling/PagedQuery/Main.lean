import PagedQuery.CommandLine.Outcome
import PagedQuery.Sample.Library

/-!
# The program

Reads what an invocation needs, runs it, and writes what it leaves. The sample library is its only
database, at the path `library.db`.
-/

namespace PagedQuery

open PagedQuery.CommandLine

/-- Adds the variables of the process that have these names. -/
def addVariables (w : Workspace) (names : List String) : IO Workspace :=
  names.foldlM (fun w name => do
    match ← IO.getEnv name with
    | some value => return { w with environment := putEntry name value w.environment }
    | none => return w) w

/-- Adds the files at these paths that can be read. -/
def addFiles (w : Workspace) (paths : List String) : IO Workspace :=
  paths.foldlM (fun w (path : String) => do
    try return w.write path (← IO.FS.readFile path)
    catch _ => return w) w

/-- What an invocation finds around it. -/
def lookAround (i : Invocation) : IO Workspace := do
  let w ← addVariables {} ("HOME" :: Setting.all.map Setting.environmentName)
  let w ← addFiles w (i.settingsFiles w)
  let texts := w.environment.map (·.2) ++ w.files.files.map (·.2)
  let w ← addVariables w (texts.flatMap fun text => variableNames text.toList)
  addFiles w (i.queriesFiles w)

/-- Writes the files that a run has changed. -/
def writeChanges (before after : Workspace) : IO Unit :=
  for (place, text) in after.files.files do
    if before.files.textAt? place != some text then
      if place.length > 1 then IO.FS.createDirAll (String.intercalate "/" place.dropLast)
      IO.FS.writeFile (String.intercalate "/" place) text

/-- Runs the program with arguments and gives its exit code. -/
def runProgram (arguments : List String) : IO UInt32 := do
  let w ← match Invocation.read arguments with
    | .ok i => lookAround i
    | .error _ => pure {}
  let databases := [(["library.db"], Sample.reflectedDatabase (Sample.books 25))]
  match CommandLine.run { workspace := w, databases } arguments with
  | .ok outcome =>
    writeChanges w outcome.workspace
    IO.print outcome.output
    return UInt32.ofNat outcome.exitCode
  | .error e =>
    IO.eprintln e.message
    return 1

end PagedQuery

def main (arguments : List String) : IO UInt32 := PagedQuery.runProgram arguments
