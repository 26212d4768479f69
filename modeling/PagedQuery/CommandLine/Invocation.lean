import PagedQuery.CommandLine.Arguments

/-!
# Invocations

The commands of the program and the arguments that they take.
-/

namespace PagedQuery.CommandLine

open PagedQuery.Number

inductive CommandName
  | parse
  | tables
  | run
  | get
  | config
  deriving Repr, DecidableEq

namespace CommandName

def all : List CommandName := [.parse, .tables, .run, .get, .config]

def text : CommandName → String
  | .parse => "parse"
  | .tables => "tables"
  | .run => "run"
  | .get => "get"
  | .config => "config"

def ofText? (s : String) : Option CommandName := all.find? (·.text == s)

end CommandName

/-- The expressions of a query. -/
structure Expressions where
  filter : Option String := none
  sort : Option String := none
  graph : Option String := none
  deriving Repr, DecidableEq

/-- What a query is run on, and with what. -/
structure RunArguments where
  table : String
  expressions : Expressions
  pageSize : Option Int
  page : Option Int
  saved : Option String
  queries : Option String
  deriving Repr, DecidableEq

inductive Command
  | parse (expressions : Expressions) (strict : Bool)
  | tables
  | run (arguments : RunArguments)
  | get (table identifier graph : String)
  | showConfig
  | initConfig (path : Option String)
  deriving Repr, DecidableEq

structure Invocation where
  database : Option String := none
  settingsFile : Option String := none
  output : Option String := none
  verbose : Bool := false
  command : Command
  deriving Repr, DecidableEq

/-- Why no command is run: the help text is asked for, of the program or of a command, or the
arguments are refused. -/
inductive Stop
  | help (command : Option CommandName)
  | refused (e : UsageError)
  deriving Repr, DecidableEq

def Stop.of (command : Option CommandName) : UsageError → Stop
  | .help => .help command
  | e => .refused e

def helpRule : OptionRule := ⟨["-h", "--help"], .help, false⟩

def textRule (name : String) : OptionRule := ⟨[name], .text, false⟩

/-- The options before the command. -/
def programRules : Rules where
  options :=
    [helpRule, textRule "--db", textRule "--config",
     ⟨["-o", "--output"], .oneOf ["table", "json"], false⟩, ⟨["-v", "--verbose"], .nothing, false⟩]

def CommandName.rules : CommandName → Rules
  | .parse =>
    ⟨[helpRule, textRule "--filter", textRule "--sort", textRule "--graph",
      ⟨["--strict"], .nothing, false⟩], []⟩
  | .tables => ⟨[helpRule], []⟩
  | .run =>
    ⟨[helpRule, textRule "--filter", textRule "--sort", textRule "--graph",
      ⟨["--page-size"], .integer, false⟩, ⟨["--page"], .integer, false⟩, textRule "--saved",
      textRule "--queries"], [⟨"table", []⟩]⟩
  | .get => ⟨[helpRule, ⟨["--graph"], .text, true⟩], [⟨"table", []⟩, ⟨"id", []⟩]⟩
  | .config => ⟨[helpRule, textRule "--path"], [⟨"action", ["show", "init"]⟩]⟩

namespace Reading

def expressions (r : Reading) : Expressions :=
  ⟨r.value? "--filter", r.value? "--sort", r.value? "--graph"⟩

def integer? (r : Reading) (key : String) : Option Int :=
  (r.value? key).bind fun s => (readLoose s).toOption

/-- The command that has been read. -/
def command (r : Reading) : CommandName → Command
  | .parse => .parse r.expressions (r.has "--strict")
  | .tables => .tables
  | .run =>
    .run ⟨(r.value? "table").getD "", r.expressions, r.integer? "--page-size", r.integer? "--page",
      r.value? "--saved", r.value? "--queries"⟩
  | .get =>
    .get ((r.value? "table").getD "") ((r.value? "id").getD "") ((r.value? "--graph").getD "")
  | .config =>
    if r.value? "action" = some "show" then .showConfig else .initConfig (r.value? "--path")

end Reading

/-- Reads the options before the command, and the command with its arguments. -/
def readHead (rules : Rules) : Nat → Reading → List Token →
    Except UsageError (Reading × Option (String × List String))
  | 0, r, _ => .ok (r, none)
  | _ + 1, r, [] => .ok (r, none)
  | fuel + 1, r, t :: rest =>
    match t with
    | .option use _ => do
      let (r, rest) ← readOption rules r use rest
      readHead rules fuel r rest
    | .unknownOption raw => readHead rules fuel (r.leave [raw]) rest
    | .positional s => .ok (r, some (s, rest.map (·.raw)))
    | .dashes => .error (.notAChoice "--")

/-- The invocation that arguments make. -/
def Invocation.read (arguments : List String) : Except Stop Invocation := do
  let head : Except UsageError (Reading × Option (String × List String)) := do
    let tokens ← programRules.roles arguments
    readHead programRules (tokens.length + 1) {} tokens
  let (r, command) ← head.mapError (Stop.of none)
  match command with
  | none => throw (.refused (.missing "command"))
  | some (s, rest) =>
    match CommandName.ofText? s with
    | none => throw (.refused (.notAChoice s))
    | some name =>
      let inner ← (name.rules.read rest).mapError (Stop.of (some name))
      let extras := inner.extras ++ r.extras
      if !extras.isEmpty then throw (.refused (.unrecognized extras))
      return ⟨r.value? "--db", r.value? "--config", r.value? "--output", r.has "--verbose",
        inner.command name⟩

end PagedQuery.CommandLine
