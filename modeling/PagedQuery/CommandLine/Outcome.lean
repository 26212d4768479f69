import PagedQuery.CommandLine.Help
import PagedQuery.CommandLine.PageSetting
import PagedQuery.Console.Table
import PagedQuery.Json.Printer
import PagedQuery.Query.Saved
import PagedQuery.Session
import PagedQuery.Source.Basic
import PagedQuery.Table.Connection

/-!
# Running commands

What each command prints, as a table or as JSON, and how its faults are reported.
-/

namespace PagedQuery.CommandLine

open PagedQuery.Console PagedQuery.Number

/-- What commands work with. -/
structure Surroundings where
  workspace : Workspace
  databases : DatabaseFiles := []

/-- How a run of the program ends. -/
structure Outcome where
  exitCode : Nat
  output : String
  /-- The workspace afterwards. -/
  workspace : Workspace

def console (text : Except MarkupError String) : Except Fault String := text.mapError .markup

/-- What a command prints, and the fault that ends it. -/
abbrev Printed := String × Option Fault

/-- All that is printed at once, or nothing but a fault. -/
def Printed.ofExcept : Except Fault String → Printed
  | .ok text => (text, none)
  | .error e => ("", some e)

/-- Texts printed one after the other up to the first that cannot be shown. -/
def printed : List (Except MarkupError String) → Printed
  | [] => ("", none)
  | .ok text :: rest => (text ++ (printed rest).1, (printed rest).2)
  | .error e :: _ => ("", some (.markup e))

/-- A mapping as JSON. -/
def jsonOf (fields : List (String × Value)) : Json :=
  .object (fields.map fun (k, v) => (k, v.toJson))

/-- JSON on lines of its own. -/
def jsonLines (json : Json) : String := json.indented 0 ++ "\n"

/-- The text of a value in a table. -/
def cellText (v : Value) : String :=
  match v with
  | .null => ""
  | .dict _ | .list _ => v.toJson.compact
  | v => v.toText

namespace Surroundings

variable (s : Surroundings) (settings : Settings)

/-- The address of the database that is named, or of the one of the settings. -/
def address (settings : Settings) (named : Option String) : Value :=
  match named.filter (· != "") with
  | some address => .text address
  | none => settings.database

/-- The database that is named, or the one of the settings. -/
def database (named : Option String) : Except Fault Database :=
  s.databases.connect s.workspace.files (address settings named)

/-- The workspace after a command has connected, which makes the file of a database that is not
there yet. -/
def connected (named : Option String) : Workspace :=
  match (address settings named).text?.bind (s.databases.missing? s.workspace.files) with
  | some path => s.workspace.write path ""
  | none => s.workspace

end Surroundings

/-! ## Expressions -/

def filterJson (c : FilterClause) : Json :=
  .object [("property", .text c.property), ("operator", .text c.operator.name),
    ("value", .text c.value)]

def sortJson (c : SortClause) : Json :=
  .object [("property", .text c.property), ("direction", .text c.direction.name)]

/-- How expressions are read. -/
def runParse (settings : Settings) (json : Bool) (e : Expressions) (strict : Bool) :
    Except Fault Printed := do
  let _ ← settings.pageWindow .null .null
  let q ← (settings.policy strict).parse
    { filter := .expression e.filter, sort := .expression e.sort, graph := .expression e.graph }
  let includes := (q.graph.map (·.flatten)).getD []
  if json then
    return (jsonLines (.object [("filters", .list (q.filters.map filterJson)),
      ("sorts", .list (q.sorts.map sortJson)), ("includes", .list (includes.map .text))]), none)
  let filters : Grid := ⟨"Filters", ["Property", "Operator", "Value"],
    q.filters.map fun c => [c.property, c.operator.name, c.value]⟩
  let sorts : Grid := ⟨"Sorts", ["#", "Property", "Direction"],
    q.sorts.zipIdx.map fun (c, i) => [toString (i + 1), c.property, c.direction.name]⟩
  let last :=
    if includes.isEmpty then styled "dim" "No includes"
    else styled "bold" "Includes:" ++ " " ++ String.intercalate ", " includes
  return printed [filters.text, sorts.text, messageText last]

/-! ## Tables and rows -/

/-- The names of the tables. -/
def runTables (json : Bool) (db : Database) : Except Fault String := do
  if json then return (Json.list (db.tableNames.map .text)).compact ++ "\n"
  let lines ← db.tableNames.mapM fun name => console (messageText name)
  return String.join lines

/-- The query of arguments: a saved one for another page if asked for, or a new one. -/
def queryOf (s : Surroundings) (settings : Settings) (a : RunArguments) :
    Except Fault PageQuery := do
  let policy := settings.policy false
  match a.saved.filter (· != "") with
  | none => do
    let pageSize := (a.pageSize.map Value.int).getD .null
    let pageNumber := (a.page.map Value.int).getD .null
    let _ ← settings.pageWindow pageSize pageNumber
    policy.parse {
      pageSize, pageNumber
      filter := .expression a.expressions.filter
      sort := .expression a.expressions.sort
      graph := .expression a.expressions.graph }
  | some name =>
    let given := fun (e : Option String) => e.any (· != "")
    if given a.expressions.filter || given a.expressions.sort || given a.expressions.graph then
      throw .savedWithClauses
    let file := (a.queries.filter (· != "")).orElse fun _ =>
      (settings .queriesFile).text?.filter (· != "")
    match file with
    | none => throw .savedWithoutFile
    | some path =>
      let (saved, _) ← SavedQueries.loadFile {} policy s.workspace.files path
      let q ← saved.get name
      if a.page.isNone && a.pageSize.isNone then return q
      let (size, number) ←
        policy.pageWindow (.int (a.pageSize.getD q.pageSize)) (.int (a.page.getD q.pageNumber))
      return q.withPage number (some size)

def pageJson (info : PageMeta) (sizes : ShownSizes) (rows : List (List (String × Value))) : Json :=
  .object [
    ("pageMeta", .object [("pageNumber", .int info.pageNumber), ("pageSize", sizes.size.toJson),
      ("elementsInPage", .int info.elementsInPage), ("totalPages", sizes.pages.toJson),
      ("totalElements", .int info.totalElements)]),
    ("elements", .list (rows.map jsonOf))]

/-- A page of rows; the first one gives the columns. -/
def pageGrid (title : String) (info : PageMeta) (sizes : ShownSizes)
    (rows : List (List (String × Value))) : Grid :=
  let columns := (rows.headD []).map (·.1)
  ⟨title ++ ": page " ++ toString info.pageNumber ++ "/" ++ sizes.pages.toText ++ " (" ++
      toString info.totalElements ++ " matches)", columns,
    rows.map fun row => columns.map fun c => cellText ((lookup? c row).getD .null)⟩

/-- One page of a table. -/
def runQuery (s : Surroundings) (settings : Settings) (json : Bool) (named : Option String)
    (a : RunArguments) : Except Fault String := do
  let q ← queryOf s settings a
  let db ← s.database settings named
  let table ← db.table a.table
  let source := Source.stored { database := db, table := table }
  let unusual? := if a.namesSize then none else settings.unusualSize?
  let (page, sizes) ← source.runWithSize q unusual?
  let rows := page.elements.map (db.mapping q.graph)
  if json then return jsonLines (pageJson page.info sizes rows)
  console (pageGrid a.table page.info sizes rows).text

/-- One row of a table with what a graph names around it. -/
def runGet (s : Surroundings) (settings : Settings) (json : Bool) (named : Option String)
    (table identifier graph : String) : Except Fault String := do
  let db ← s.database settings named
  let source := Source.stored { database := db, table := ← db.table table }
  let (_, entity) ← source.getOn (.text identifier) (.expression (some graph))
  let fields := db.mapping (parseGraph (some graph)) entity
  if json then return jsonLines (jsonOf fields)
  let grid : Grid := ⟨table ++ " " ++ identifier, ["Field", "Value"],
    fields.map fun (name, v) => [name, cellText v]⟩
  console grid.text

/-! ## Settings -/

/-- The settings as JSON. -/
def runShowConfig (settings : Settings) : Except Fault String :=
  match Setting.all.findSome? fun s => (settings s).foreignToJson? with
  | some type => .error (.notJson type)
  | none => .ok (jsonLines (jsonOf (Setting.all.map fun s => (s.name, settings s))))

/-! ## Commands -/

/-- What a command prints, and the workspace after it. -/
def Command.perform (s : Surroundings) (settings : Settings) (json : Bool) (named : Option String) :
    Command → Workspace × Printed
  | .parse e strict =>
    (s.workspace, match runParse settings json e strict with
      | .ok p => p
      | .error e => ("", some e))
  | .tables =>
    (s.connected settings named, .ofExcept do runTables json (← s.database settings named))
  | .run a =>
    (if (queryOf s settings a).toOption.isSome then s.connected settings named else s.workspace,
      .ofExcept (runQuery s settings json named a))
  | .get table identifier graph =>
    (s.connected settings named, .ofExcept (runGet s settings json named table identifier graph))
  | .showConfig => (s.workspace, .ofExcept (runShowConfig settings))
  | .initConfig path =>
    let (w, r) := settings.save s.workspace (path.filter (· != ""))
    (w, .ofExcept do console (messageText (styled "green" ("Created config at " ++ (← r)))))

/-- The exit code of a fault, and what its report starts with. -/
def report (e : Fault) : Nat × String :=
  match e.kind with
  | .validation | .grammar | .conversion => (2, "Invalid query: ")
  | .notFound => (4, "Not found: ")
  | _ => (1, "Error: ")

/-- Whether settings cannot be used because of a value in them. -/
def isSettingsError (e : Fault) : Bool :=
  match e.kind with
  | .badValue | .malformedToml => true
  | _ => false

/-- The run of an invocation. Faults that nothing reports end it. -/
def Invocation.run (s : Surroundings) (i : Invocation) : Except Fault Outcome := do
  let overrides := i.output.toList.map fun o => ("output_format", Value.text o)
  match ({} : Session).setUp s.workspace (i.settingsFile.filter (· != "")) overrides with
  | .error e =>
    if isSettingsError e then
      let text ← console (messageText (styled "red" ("Configuration error: " ++ e.message)))
      return ⟨1, text, s.workspace⟩
    else throw e
  | .ok (_, held) =>
    let settings := held.settings
    let level := settings .logLevel
    if !i.verbose && level.text?.isNone then
      throw (.missingField level.qualifiedTypeName "upper")
    let json := (settings .outputFormat).text? == some "json"
    let (workspace, output, fault?) := i.command.perform s settings json i.database
    match fault? with
    | none => return ⟨0, output, workspace⟩
    | some e =>
      let (code, start) := report e
      let text ← console (messageText (styled "red" (start ++ e.message)))
      return ⟨code, output ++ text, workspace⟩

/-! ## Files -/

/-- The files in which settings for an invocation may stand. -/
def Invocation.settingsFiles (i : Invocation) (w : Workspace) : List String :=
  (Settings.userFile w).toOption.toList ++ Settings.projectFiles ++
    (i.settingsFile.filter (· != "")).toList

/-- The files of saved queries that an invocation may read. -/
def Invocation.queriesFiles (i : Invocation) (w : Workspace) : List String :=
  let named := match i.command with
    | .run a => a.queries.toList
    | _ => []
  let set := match Settings.load w (i.settingsFile.filter (· != "")) with
    | .ok settings => (settings .queriesFile).text?.toList
    | .error _ => []
  (named ++ set).filter (· != "")

/-! ## The program -/

/-- The run of the program with arguments. -/
def run (s : Surroundings) (arguments : List String) : Except Fault Outcome :=
  match Invocation.read arguments with
  | .ok i => i.run s
  | .error (.help command) => .ok ⟨0, helpText command, s.workspace⟩
  | .error (.refused _) => .ok ⟨2, "", s.workspace⟩

end PagedQuery.CommandLine
