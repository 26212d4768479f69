import PagedQuery.Json.Basic
import PagedQuery.Number.Integer
import PagedQuery.Text.Split

/-!
# Reading arguments

Options and positional arguments by the rules of a command: options may be shortened to a start that
only one has, a long one takes its value after an equals sign or as the next argument, a short one
also directly, and after two dashes all arguments are positional.
-/

namespace PagedQuery.CommandLine

open PagedQuery.Number PagedQuery.Text

/-- What an option takes. -/
inductive Takes
  | nothing
  | help
  | text
  | integer
  | oneOf (choices : List String)
  deriving Repr, DecidableEq

def Takes.hasValue : Takes → Bool
  | .nothing | .help => false
  | _ => true

structure OptionRule where
  names : List String
  takes : Takes := .text
  required : Bool := false
  deriving Repr, DecidableEq

/-- The name under which an option's value is kept: its last one. -/
def OptionRule.key (o : OptionRule) : String := o.names.getLastD ""

structure PositionalRule where
  key : String
  /-- The values it may have, any if there are none. -/
  choices : List String := []
  deriving Repr, DecidableEq

structure Rules where
  options : List OptionRule
  positionals : List PositionalRule := []
  deriving Repr

/-- Why arguments are not taken. -/
inductive UsageError
  /-- The help text is asked for. -/
  | help
  | ambiguous (option : String)
  | missingValue (option : String)
  | unexpectedValue (option : String)
  | notInteger (value : String)
  | notAChoice (value : String)
  | missing (key : String)
  | unrecognized (arguments : List String)
  deriving Repr, DecidableEq

/-- A value written together with its option, after an equals sign or directly. -/
structure Attached where
  afterSign : Bool
  value : List Char
  deriving Repr, DecidableEq

/-- An option as it is used. -/
structure OptionUse where
  rule : OptionRule
  name : String
  attached : Option Attached := none
  deriving Repr, DecidableEq

/-- An argument by its role. -/
inductive Token
  | positional (s : String)
  /-- The two dashes after which all arguments are positional. -/
  | dashes
  | option (use : OptionUse) (raw : String)
  | unknownOption (raw : String)
  deriving Repr, DecidableEq

def Token.raw : Token → String
  | .positional s => s
  | .dashes => "--"
  | .option _ raw => raw
  | .unknownOption raw => raw

def Token.isOption : Token → Bool
  | .option .. | .unknownOption _ => true
  | _ => false

namespace Rules

variable (rules : Rules)

def option? (name : String) : Option OptionRule := rules.options.find? (·.names.contains name)

/-- The options that a shortened name may stand for. -/
def startingWith (start : String) : List (OptionRule × String) :=
  rules.options.flatMap fun o => (o.names.filter start.isPrefixOf).map (o, ·)

/-- The options that an argument may stand for. -/
def candidates (s : String) : List OptionUse :=
  match s.toList with
  | '-' :: '-' :: _ =>
    match cutAt? '=' s.toList with
    | some (start, value) =>
      (rules.startingWith (String.ofList start)).map fun (o, name) => ⟨o, name, some ⟨true, value⟩⟩
    | none => (rules.startingWith s).map fun (o, name) => ⟨o, name, none⟩
  | d :: c :: value =>
    let short := String.ofList [d, c]
    rules.options.flatMap fun o => o.names.filterMap fun name =>
      if name = short then some ⟨o, name, some ⟨false, value⟩⟩
      else if s.isPrefixOf name then some ⟨o, name, none⟩
      else none
  | _ => []

/-- The option whose name stands before an equals sign. -/
def beforeSign? (s : String) : Option OptionUse := do
  let (name, value) ← cutAt? '=' s.toList
  let name := String.ofList name
  return ⟨← rules.option? name, name, some ⟨true, value⟩⟩

/-- Whether an argument is a negative number. -/
def isNegativeNumber (s : String) : Bool :=
  match s.toList with
  | '-' :: cs =>
    let isDigit := fun c => (digitValue? c).isSome
    let whole := cs.takeWhile isDigit
    match cs.drop whole.length with
    | [] => !whole.isEmpty
    | '.' :: rest => !rest.isEmpty && rest.all isDigit
    | _ => false
  | _ => false

/-- The role of an argument before any two dashes. -/
def role (s : String) : Except UsageError Token :=
  if !"-".isPrefixOf s then .ok (.positional s)
  else
    match rules.option? s with
    | some o => .ok (.option ⟨o, s, none⟩ s)
    | none =>
      if s = "-" then .ok (.positional s)
      else
        match rules.beforeSign? s, rules.candidates s with
        | some use, _ | none, [use] => .ok (.option use s)
        | none, _ :: _ :: _ => .error (.ambiguous s)
        | none, [] =>
          if isNegativeNumber s || s.toList.contains ' ' then .ok (.positional s)
          else .ok (.unknownOption s)

/-- The roles of all arguments. -/
def roles : List String → Except UsageError (List Token)
  | [] => .ok []
  | s :: rest =>
    if s = "--" then .ok (.dashes :: rest.map .positional)
    else do
      let t ← rules.role s
      return t :: (← roles rest)

end Rules

/-- Values by key, and the arguments that no rule takes. -/
structure Reading where
  values : List (String × String) := []
  extras : List String := []
  deriving Repr

namespace Reading

def value? (r : Reading) (key : String) : Option String := lookup? key r.values

def has (r : Reading) (key : String) : Bool := (r.value? key).isSome

def put (r : Reading) (key value : String) : Reading :=
  { r with values := putEntry key value r.values }

def leave (r : Reading) (arguments : List String) : Reading :=
  { r with extras := r.extras ++ arguments }

/-- A value among those that are allowed. -/
def putChoice (r : Reading) (key value : String) (choices : List String) :
    Except UsageError Reading :=
  if choices.isEmpty || choices.contains value then .ok (r.put key value)
  else .error (.notAChoice value)

/-- An option's value, checked. -/
def take (r : Reading) (o : OptionRule) (value : String) : Except UsageError Reading :=
  match o.takes with
  | .help => .error .help
  | .integer =>
    match readLoose value with
    | .ok _ => .ok (r.put o.key value)
    | .error _ => .error (.notInteger value)
  | .oneOf choices => r.putChoice o.key value choices
  | .nothing | .text => .ok (r.put o.key value)

end Reading

/-- What one argument with options stands for. -/
structure Cluster where
  /-- The options in it with their values. -/
  taken : List (OptionRule × String)
  /-- The last option if it takes the next argument. -/
  waiting : Option OptionRule := none
  /-- What is left if it names no option. -/
  extra : Option String := none

/-- An option and the characters that are attached to it. Short options without a value may be
written together behind one dash. -/
def cluster (rules : Rules) (o : OptionRule) (name : String) (afterSign : Bool) :
    List Char → Except UsageError Cluster
  | [] => if o.takes.hasValue then .ok ⟨[(o, "")], none, none⟩ else .error (.unexpectedValue name)
  | c :: rest =>
    if o.takes.hasValue then .ok ⟨[(o, String.ofList (c :: rest))], none, none⟩
    else if "--".isPrefixOf name || afterSign || c = '-' then .error (.unexpectedValue name)
    else
      let next := String.ofList ['-', c]
      match rules.option? next, rest with
      | none, _ => .ok ⟨[(o, "")], none, some (String.ofList ('-' :: c :: rest))⟩
      | some o', [] =>
        if o'.takes.hasValue then .ok ⟨[(o, "")], some o', none⟩
        else .ok ⟨[(o, ""), (o', "")], none, none⟩
      | some o', '=' :: rest =>
        (cluster rules o' next true rest).map fun more =>
          { more with taken := (o, "") :: more.taken }
      | some o', d :: rest =>
        (cluster rules o' next false (d :: rest)).map fun more =>
          { more with taken := (o, "") :: more.taken }

def OptionUse.cluster (rules : Rules) (use : OptionUse) : Except UsageError Cluster :=
  match use.attached with
  | some a => CommandLine.cluster rules use.rule use.name a.afterSign a.value
  | none =>
    if use.rule.takes.hasValue then .ok ⟨[], some use.rule, none⟩
    else .ok ⟨[(use.rule, "")], none, none⟩

/-- Reads an option and, if it takes the next argument, that one. -/
def readOption (rules : Rules) (r : Reading) (use : OptionUse) (rest : List Token) :
    Except UsageError (Reading × List Token) := do
  let c ← use.cluster rules
  let (taken, rest) ←
    match c.waiting, rest with
    | none, rest => pure (c.taken, rest)
    | some o, .positional s :: rest => pure (c.taken ++ [(o, s)], rest)
    | some o, _ => throw (.missingValue o.key)
  let r ← taken.foldlM (fun r (o, value) => r.take o value) (r.leave c.extra.toList)
  return (r, rest)

/-- The positional arguments that come next, by their rules, the rules that are left, and the rest.
Two dashes before or after an argument are passed over. -/
def readPositionals (r : Reading) : List PositionalRule → List Token →
    Except UsageError (Reading × List PositionalRule × List Token)
  | [], tokens => .ok (r, [], tokens)
  | p :: ps, tokens =>
    let isDashes := fun t => match t with
      | Token.dashes => true
      | _ => false
    match tokens.dropWhile isDashes with
    | .positional s :: rest => do
      readPositionals (← r.putChoice p.key s p.choices) ps (rest.dropWhile isDashes)
    | _ => .ok (r, p :: ps, tokens)

/-- Reads arguments by their roles. -/
def readTokens (rules : Rules) : Nat → Reading → List PositionalRule → List Token →
    Except UsageError Reading
  | 0, r, _, _ => .ok r
  | _ + 1, r, _, [] => .ok r
  | fuel + 1, r, ps, t :: rest =>
    match t with
    | .option use _ => do
      let (r, rest) ← readOption rules r use rest
      readTokens rules fuel r ps rest
    | .unknownOption raw => readTokens rules fuel (r.leave [raw]) ps rest
    | t => do
      let (read, left, remaining) ← readPositionals r ps (t :: rest)
      if left.length < ps.length then readTokens rules fuel read left remaining
      else
        let skipped := (t :: rest).takeWhile (!·.isOption)
        readTokens rules fuel (r.leave (skipped.map (·.raw))) ps ((t :: rest).drop skipped.length)

/-- The first rule whose argument is required and missing. -/
def missing? (rules : Rules) (r : Reading) : Option String :=
  ((rules.options.filter (·.required)).map (·.key) ++ rules.positionals.map (·.key)).find?
    fun key => !r.has key

/-- Reads arguments by rules. -/
def Rules.read (rules : Rules) (arguments : List String) : Except UsageError Reading := do
  let tokens ← rules.roles arguments
  let r ← readTokens rules (2 * tokens.length + 1) {} rules.positionals tokens
  match missing? rules r with
  | some key => throw (.missing key)
  | none => return r

end PagedQuery.CommandLine
