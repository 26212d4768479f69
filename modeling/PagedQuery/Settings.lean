import PagedQuery.Fault
import PagedQuery.Query.Request
import PagedQuery.Toml.Reader
import PagedQuery.Workspace

/-!
# Settings

Settings come in layers, of which later ones win: defaults, the user's file, the first project
file, a file named explicitly, environment variables, and overrides. Files may give a setting any
value.
-/

namespace PagedQuery

open PagedQuery.Number PagedQuery.Text

inductive Setting
  | databaseUrl
  | databaseEcho
  | defaultPageSize
  | maxPageSize
  | strictParsing
  | queriesFile
  | outputFormat
  | logLevel
  deriving Repr, DecidableEq

namespace Setting

def all : List Setting :=
  [.databaseUrl, .databaseEcho, .defaultPageSize, .maxPageSize, .strictParsing, .queriesFile,
   .outputFormat, .logLevel]

theorem mem_all (s : Setting) : s ∈ all := by cases s <;> simp [all]

def name : Setting → String
  | .databaseUrl => "database_url"
  | .databaseEcho => "database_echo"
  | .defaultPageSize => "default_page_size"
  | .maxPageSize => "max_page_size"
  | .strictParsing => "strict_parsing"
  | .queriesFile => "queries_file"
  | .outputFormat => "output_format"
  | .logLevel => "log_level"

theorem name_injective {s t : Setting} (h : s.name = t.name) : s = t := by
  cases s <;> cases t <;> first | rfl | exact absurd h (by decide)

/-- The value of a setting that no layer gives. -/
def initial : Setting → Value
  | .databaseUrl | .queriesFile => .null
  | .databaseEcho | .strictParsing => .bool false
  | .defaultPageSize => .int PagedQuery.defaultPageSize
  | .maxPageSize => .int 0
  | .outputFormat => .text "table"
  | .logLevel => .text "WARNING"

/-- The environment variable that gives a setting. -/
def environmentName (s : Setting) : String := "QUERYKIT_" ++ s.name.map Char.toUpper

end Setting

/-- The texts that switch a setting on. -/
def switchedOn : List String := ["true", "1", "yes", "on"]

/-- The value that a text gives a setting: by the kind of its default. -/
def Setting.ofText (s : Setting) (raw : String) : Except Fault Value :=
  match s.initial with
  | .bool _ => .ok (.bool (switchedOn.contains (lower (trim raw))))
  | .int _ =>
    match readLoose raw with
    | .ok n => .ok (.int n)
    | .error _ => .error (.settingNotInteger s.environmentName raw)
  | _ => .ok (.text raw)

/-- The value of every setting. -/
abbrev Settings := Setting → Value

namespace Settings

def initial : Settings := Setting.initial

def set (settings : Settings) (s : Setting) (v : Value) : Settings :=
  fun t => if t = s then v else settings t

/-- Settings under a layer that gives some of them by name; it may hold other names. -/
def under (settings : Settings) (layer : List (String × Value)) : Settings :=
  fun s => (lookup? s.name layer).getD (settings s)

/-- Settings of given fields, the others at their defaults. -/
def ofFields (fields : List (String × Value)) : Except Fault Settings :=
  match fields.find? fun (name, _) => !Setting.all.any (·.name == name) with
  | some (name, _) => .error (.unknownSetting name)
  | none => .ok (initial.under fields)

/-- Settings with overrides; those that are null do not count. -/
def override (settings : Settings) (overrides : List (String × Value)) : Settings :=
  settings.under (overrides.filter fun (_, v) => !v.isNull)

/-- One setting from its environment variable, if there is one. -/
def fromVariable (environment : List (String × String)) (settings : Settings) (s : Setting) :
    Except Fault Settings :=
  match lookup? s.environmentName environment with
  | none => .ok settings
  | some raw => (s.ofText raw).map (settings.set s)

/-- Settings under the environment variables. -/
def fromVariables (settings : Settings) (environment : List (String × String)) :
    Except Fault Settings :=
  Setting.all.foldlM (fromVariable environment) settings

/-- Whether a path starts with a tilde and a name that no account has, since it holds the character
of code zero. -/
def namesNoAccount : List Char → Bool
  | '~' :: rest => (rest.takeWhile (· != '/')).contains (Char.ofNat 0)
  | _ => false

/-- Settings with the path of the saved queries written out. -/
def expandPath (settings : Settings) (w : Workspace) : Except Fault Settings :=
  let v := settings .queriesFile
  if !v.isTruthy then .ok settings
  else
    match v.text? with
    | some path =>
      if namesNoAccount (expandVariables w.environment (path.length + 1) path.toList) then
        .error (.file .zeroCharacter)
      else .ok (settings.set .queriesFile (.text (w.expand path)))
    | none => .error (.notAPath v.qualifiedTypeName)

/-- Whether a setting is below a number. -/
def isBelow (v : Value) (n : Int) : Except Fault Bool :=
  match Value.compare .less v (.int n) with
  | .ok b => .ok b
  | .error e => .error (.incomparable e)

def outputFormats : List String := ["table", "json"]

/-- Refuses settings that cannot be used. -/
def validate (settings : Settings) : Except Fault Unit := do
  if ← isBelow (settings .defaultPageSize) 1 then
    throw (.defaultPageSizeTooSmall (← (settings .defaultPageSize).written))
  if ← isBelow (settings .maxPageSize) 0 then
    throw (.maxPageSizeNegative (← (settings .maxPageSize).written))
  if !(settings .outputFormat).text?.any outputFormats.contains then
    let format := settings .outputFormat
    throw (format.unquotable?.getD (.outputFormatUnknown format.quoted))

/-! ## Files -/

/-- The user's settings file, in a home directory that is not given by reference again. -/
def userFile (w : Workspace) : Except Fault String :=
  let home := w.expandHome ['~']
  if home.head? = some '~' then .error .homeUnknown
  else
    let start := if home = ['/'] then "" else String.ofList home
    .ok (cleanPath (start ++ "/.config/querykit/config.toml"))

/-- Where a project may keep its settings; the first of these files counts. -/
def projectFiles : List String := ["querykit.toml", ".querykitrc", ".querykit/config.toml"]

/-- The files that give settings, in the order of their layers. -/
def layerFiles (w : Workspace) (file : Option String) : Except Fault (List String) := do
  let user ← userFile w
  return user :: (projectFiles.find? w.exists?).toList ++ (file.filter (· != "")).toList

/-- The layer of a file; a missing file gives nothing. -/
def layer (w : Workspace) (path : String) : Except Fault (List (String × Value)) :=
  match w.files.look path with
  | .error e => .error (.file e)
  | .ok none => .ok []
  | .ok (some .directory) => .error (.file (.isDirectory (cleanPath path)))
  | .ok (some (.file text)) =>
    match Toml.read text with
    | .ok entries => .ok entries
    | .error (⟨.tooManyDigits count, _⟩, _) => .error (.tomlDigits count)
    | .error (failure, cs) => .error (.malformedToml (failure.message cs))

/-- The settings of a workspace, with a file named explicitly if there is one. -/
def load (w : Workspace) (file : Option String) : Except Fault Settings := do
  let settings ← (← layerFiles w file).foldlM
    (fun (settings : Settings) path => (layer w path).map settings.under) initial
  let settings ← settings.fromVariables w.environment
  let settings ← settings.expandPath w
  settings.validate
  return settings

/-- The settings by name; a setting without a value is left out. -/
def entries (settings : Settings) : List (Value × Value) :=
  (Setting.all.map fun s => (Value.text s.name, settings s)).filter fun (_, v) => !v.isNull

/-- Writes settings to a file, the user's file if none is named. What has been written before a
value that cannot be stays. -/
def save (settings : Settings) (w : Workspace) (file : Option String) :
    Workspace × Except Fault String :=
  match file.elim (userFile w) .ok with
  | .error e => (w, .error e)
  | .ok path =>
    let written := Toml.write settings.entries
    match w.files.write? path written.text with
    | .error e => (w, .error (.file e))
    | .ok files =>
      ({ w with files },
        match written.error with
        | none => .ok (cleanPath path)
        | some e => .error (.tomlWrite e))

/-! ## Uses -/

/-- The database to connect to, one in memory if none is set. -/
def database (settings : Settings) : Value :=
  let v := settings .databaseUrl
  if v.isTruthy then v else .text "sqlite://"

end Settings

end PagedQuery
