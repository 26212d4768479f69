import PagedQuery.Coercion.Error
import PagedQuery.Console.Markup
import PagedQuery.Query.Clause
import PagedQuery.Schema.Expression.Meaning
import PagedQuery.Toml.Printer
import PagedQuery.Workspace
import PagedQuery.Yaml.Resolution

/-!
# Faults

Everything that can go wrong with a request, by cause, and the text that reports it.
-/

namespace PagedQuery

open PagedQuery.Number PagedQuery.Text

/-- The two page parameters. -/
inductive PageParameter
  | size
  | number
  deriving Repr, DecidableEq

def PageParameter.name : PageParameter → String
  | .size => "pageSize"
  | .number => "pageNumber"

/-- What sort of fault it is, for callers that answer by kind. -/
inductive FaultKind
  /-- The request cannot be expressed. -/
  | validation
  /-- An expression breaks the grammar. -/
  | grammar
  /-- A value does not convert. -/
  | conversion
  | notFound
  | unknownName
  | badValue
  | badType
  | missingAttribute
  | outOfRange
  | overflow
  | divisionByZero
  | invalidOperation
  | badArgument
  | badStatement
  | malformedYaml
  | malformedToml
  | malformedMarkup
  | badExpression
  | exhausted
  | notRunnable
  | tooDeep
  | unknownLibrary
  | unknownEncoding
  | notDecodable
  | notEncodable
  | isDirectory
  | notDirectory
  | alreadyExists
  | badFile
  deriving Repr, DecidableEq

inductive Fault
  -- clauses
  | filterShape (clause : String)
  | filterEmpty (clause : String)
  | filterOperator (token clause : String)
  | sortShape (clause : String)
  | sortEmpty (clause : String)
  | sortDirection (token clause : String)
  | unknownOperator (token : String)
  | unknownDirection (token : String)
  /-- An expression that is not a text. -/
  | expressionNotText (type : String)
  | expressionIsBytes
  -- page window
  | pageUnreadable (parameter : PageParameter) (value : Value)
  | pageInfinite (decimal : Bool)
  | pageNotANumber
  | pageSizeNotPositive (size : Int)
  | pageSizeTooLarge (size limit : String)
  | pageNumberTooSmall (number : Int)
  | totalNegative (total : Int)
  | zeroDivision
  | indexOutOfRange
  | zeroStep
  -- include graphs
  | graphMissing
  | graphMalformed
  -- binding and evaluation
  | conversion (raw : String) (target : FieldType) (reason : ConversionError)
  | patternNeedsText (operator property type : String)
  | notOrderable (operator property : String)
  | notComparable (property type raw : String)
  | incomparable (e : CompareError)
  /-- A type without a name in a place that needs one. -/
  | typeWithoutName (type : FieldType)
  /-- A thing under which no table is kept. -/
  | noTableKey (type : String)
  /-- A record without one of its fields. -/
  | missingField (type field : String)
  /-- An attribute in the place of a function. -/
  | notCallable (type : String)
  /-- An integer of too many digits in a text. -/
  | longInteger
  -- schemas
  | expression (e : ExpressionError)
  /-- A type that belongs to the class, as a part of another one. -/
  | classWideArgument (shown : String)
  | wrongArity (form : String) (given expected : Nat)
  /-- A choice among no types. -/
  | noMembers
  /-- Two things with a bar between them that are no types. -/
  | noAlternative (left right : String)
  | repeatedBase (name : String)
  /-- Types to extend that no order fits. -/
  | unorderedBases (names : List String)
  -- sources
  | noIdentifier (type : String)
  | noPrimaryKey (type : String)
  | entityNotFound (type identifier : String)
  | asynchronous (source advice : String)
  | orderedBoolean
  | integerTooLarge
  | unsupportedParameter
  -- saved queries
  | savedShape (type : String)
  | definitionShape (name type : String)
  | definitionKeys (name : String) (keys : List String)
  | definitionKeyType (index : Nat) (type : String)
  | definitionGraph (name : String)
  | queriesFileMissing (path : String)
  | unknownQuery (name : String)
  | malformedYaml
  | yamlScalar (e : Yaml.ScalarError)
  /-- An escape for a number that no character has. -/
  | yamlCodePoint (code : Nat)
  | file (e : FileError)
  -- settings
  | malformedToml (message : String)
  | tomlDigits (count : Nat)
  | tomlWrite (e : Toml.WriteError)
  | settingNotInteger (name raw : String)
  | defaultPageSizeTooSmall (shown : String)
  | maxPageSizeNegative (shown : String)
  | outputFormatUnknown (shown : String)
  | notAPath (type : String)
  | homeUnknown
  | badVariable (e : VariableError)
  | unknownSetting (name : String)
  | noSettings (field : String)
  -- command line
  | savedWithClauses
  | savedWithoutFile
  | unknownTable (name : String)
  | databaseUnavailable (message : String)
  | notJson (type : String)
  | markup (e : Console.MarkupError)

namespace Fault

def message : Fault → String
  | filterShape clause => "Filter clause needs property~operator~value: " ++ quoted clause
  | filterEmpty clause => "Filter clause has an empty property or value: " ++ quoted clause
  | filterOperator token _ => "Unknown filter method: " ++ quoted token
  | sortShape clause => "Sort clause needs property~direction: " ++ quoted clause
  | sortEmpty clause => "Sort clause has an empty property: " ++ quoted clause
  | sortDirection token _ => "Unknown sort direction: " ++ quoted token
  | unknownOperator token => "Unknown filter method: " ++ token
  | unknownDirection token => "Unknown sort direction: " ++ token
  | expressionNotText type => "'" ++ type ++ "' object has no attribute 'strip'"
  | expressionIsBytes => "a bytes-like object is required, not 'str'"
  | pageUnreadable p v => "Invalid " ++ p.name ++ ": " ++ v.quoted
  | pageInfinite decimal =>
    if decimal then "cannot convert Infinity to integer"
    else "cannot convert float infinity to integer"
  | pageNotANumber => "cannot convert float NaN to integer"
  | pageSizeNotPositive n => "Page size must be positive, got " ++ toString n
  | pageSizeTooLarge n m =>
    "Page size " ++ n ++ " exceeds the maximum of " ++ m
  | pageNumberTooSmall n => "Page number must be at least 1, got " ++ toString n
  | totalNegative n => "Total elements cannot be negative: " ++ toString n
  | zeroDivision => "integer division or modulo by zero"
  | indexOutOfRange => "list index out of range"
  | zeroStep => "slice step cannot be zero"
  | graphMissing => "Parameter 'graph' cannot be null or empty"
  | graphMalformed => "Invalid JSON in 'graph' parameter"
  | conversion raw target reason =>
    "Cannot convert " ++ quoted raw ++ " to " ++ target.label ++
      (if reason.message = "" then "" else ": " ++ reason.message)
  | patternNeedsText op property type =>
    "Operator '" ++ op ++ "' needs a text field, '" ++ property ++ "' is " ++ type
  | notOrderable op property =>
    "Operator '" ++ op ++ "' cannot order values of '" ++ property ++ "'"
  | notComparable property type raw =>
    "Cannot compare '" ++ property ++ "' values of type " ++ type ++ " with " ++ quoted raw
  | incomparable e => e.message
  | typeWithoutName type => "'" ++ type.formName ++ "' object has no attribute '__name__'"
  | noTableKey type => "unhashable type: '" ++ type ++ "'"
  | missingField type field => "'" ++ type ++ "' object has no attribute '" ++ field ++ "'"
  | notCallable type => "'" ++ type ++ "' object is not callable"
  | longInteger => "Exceeds the limit (4300 digits) for integer string conversion; " ++
      "use sys.set_int_max_str_digits() to increase the limit"
  | expression e => e.message
  | classWideArgument shown => shown ++ " is not valid as type argument"
  | wrongArity form given expected =>
    "Too " ++ (if given < expected then "few" else "many") ++ " arguments for " ++ form ++
      "; actual " ++ toString given ++ ", expected " ++ toString expected
  | noMembers => "Cannot take a Union of no types."
  | noAlternative left right =>
    "unsupported operand type(s) for |: " ++ quoted left ++ " and " ++ quoted right
  | repeatedBase name => "duplicate base class " ++ name
  | unorderedBases names =>
    "Cannot create a consistent method resolution\norder (MRO) for bases " ++
      String.intercalate ", " names
  | noIdentifier type => type ++ " has no identifier field"
  | noPrimaryKey type => type ++ " has no primary key"
  | entityNotFound type identifier => type ++ " with ID '" ++ identifier ++ "' not found"
  | asynchronous source advice => source ++ " is asynchronous; use " ++ advice ++ "()"
  | orderedBoolean => "Only '=', '!=', 'is_()', 'is_not()', 'is_distinct_from()', " ++
      "'is_not_distinct_from()' operators can be used with None/True/False"
  | integerTooLarge => "Python int too large to convert to SQLite INTEGER"
  | unsupportedParameter => "Error binding parameter"
  | savedShape type => "Saved queries must be a dictionary, got " ++ type
  | definitionShape name type =>
    "Query definition '" ++ name ++ "' must be a dictionary, got " ++ type
  | definitionKeys name keys =>
    "Query definition '" ++ name ++ "' has unknown keys: " ++ String.intercalate ", " keys
  | definitionKeyType index type =>
    "sequence item " ++ toString index ++ ": expected str instance, " ++ type ++ " found"
  | definitionGraph name =>
    "Query definition '" ++ name ++ "': graph must be a mapping or JSON string"
  | queriesFileMissing path => "Queries file not found: " ++ path
  | unknownQuery name => quoted ("Unknown query: " ++ name)
  | malformedYaml => "malformed document"
  | yamlScalar e => e.message
  | yamlCodePoint code =>
    if code < 0x80000000 then "chr() arg not in range(0x110000)"
    else "Python int too large to convert to C int"
  | file e => e.message
  | malformedToml message => message
  | tomlDigits count => (Number.IntegerError.tooManyDigits count).message
  | tomlWrite e => e.message
  | settingNotInteger name raw => name ++ " must be an integer, got " ++ quoted raw
  | defaultPageSizeTooSmall shown => "default_page_size must be at least 1, got " ++ shown
  | maxPageSizeNegative shown => "max_page_size cannot be negative, got " ++ shown
  | outputFormatUnknown shown => "output_format must be one of table, json, got " ++ shown
  | notAPath type => "expected str, bytes or os.PathLike object, not " ++ type
  | homeUnknown => "Could not determine home directory."
  | badVariable e => e.message
  | unknownSetting name =>
    "QueryKitConfig.__init__() got an unexpected keyword argument '" ++ name ++ "'"
  | noSettings field => "'NoneType' object has no attribute '" ++ field ++ "'"
  | savedWithClauses => "--saved cannot be combined with --filter, --sort or --graph"
  | savedWithoutFile => "--saved needs --queries or queries_file in config"
  | unknownTable name => quoted ("Unknown table: " ++ name)
  | databaseUnavailable message => message
  | notJson type => "Object of type " ++ type ++ " is not JSON serializable"
  | markup e => e.message

def scalarKind : Yaml.ScalarError → FaultKind
  | .bool _ => .unknownName
  | .empty => .outOfRange
  | .notTimestamp => .missingAttribute
  | .notText => .badType
  | _ => .badValue

def expressionKind : ExpressionError → FaultKind
  | .meaningless => .badType
  | .malformed _ | .unreadable => .badExpression
  | .empty | .noItem _ | .badRange _ | .noPlace _ => .outOfRange
  | .zeroCharacter | .badValue _ => .badValue
  | .noField .. => .missingAttribute
  | .noKey _ => .unknownName
  | .division _ => .divisionByZero
  | .tooLarge _ => .overflow
  | .exhausted => .exhausted
  | .outsideOfMethod => .notRunnable
  | .unknownLibrary _ => .unknownLibrary
  | .unknownEncoding _ => .unknownEncoding
  | .notDecodable _ => .notDecodable
  | .notEncodable _ => .notEncodable
  | .tooDeep => .tooDeep

def kind : Fault → FaultKind
  | filterShape _ | filterEmpty _ | filterOperator .. | sortShape _ | sortEmpty _
  | sortDirection .. | savedShape _ | definitionShape .. | definitionKeys .. | definitionGraph _
  | queriesFileMissing _ => .grammar
  | pageUnreadable .. | pageSizeNotPositive _ | pageSizeTooLarge .. | pageNumberTooSmall _
  | graphMissing | graphMalformed | patternNeedsText .. | notOrderable .. | notComparable ..
  | savedWithClauses | savedWithoutFile => .validation
  | conversion .. => .conversion
  | entityNotFound .. => .notFound
  | unknownQuery _ | unknownTable _ => .unknownName
  | unknownOperator _ | unknownDirection _ | totalNegative _ | zeroStep | settingNotInteger ..
  | defaultPageSizeTooSmall _ | maxPageSizeNegative _ | outputFormatUnknown _ | tomlDigits _
  | pageNotANumber | longInteger | tomlWrite .offsetTime => .badValue
  | expressionNotText _ | typeWithoutName _ | missingField .. | noSettings _ => .missingAttribute
  | incomparable .notANumber => .invalidOperation
  | incomparable _ | expressionIsBytes | noIdentifier _ | noPrimaryKey _ | asynchronous ..
  | definitionKeyType .. | notAPath _ | unknownSetting _
  | tomlWrite (.unsupported _) | tomlWrite (.key ..) | notJson _ | notCallable _
  | noTableKey _ | classWideArgument _ | wrongArity .. | noMembers | noAlternative ..
  | repeatedBase _ | unorderedBases _ => .badType
  | indexOutOfRange => .outOfRange
  | pageInfinite _ | integerTooLarge => .overflow
  | zeroDivision => .divisionByZero
  | orderedBoolean => .badArgument
  | unsupportedParameter | databaseUnavailable _ => .badStatement
  | malformedYaml => .malformedYaml
  | yamlScalar e => scalarKind e
  | yamlCodePoint code => if code < 0x80000000 then .badValue else .overflow
  | malformedToml _ => .malformedToml
  | markup .incompleteColor => .badValue
  | markup _ => .malformedMarkup
  | expression e => expressionKind e
  | file (.isDirectory _) => .isDirectory
  | file (.notDirectory _) => .notDirectory
  | file (.alreadyExists _) => .alreadyExists
  | file (.nameTooLong _) | badVariable .nameless => .badFile
  | badVariable _ => .badValue
  | homeUnknown => .notRunnable
  | file .zeroCharacter => .badValue

/-- The request parameter at fault. -/
def parameter? : Fault → Option String
  | filterShape _ | filterEmpty _ | filterOperator .. | conversion .. | patternNeedsText ..
  | notOrderable .. | notComparable .. => some "filter"
  | sortShape _ | sortEmpty _ | sortDirection .. => some "sort"
  | pageUnreadable p _ => some p.name
  | pageSizeNotPositive _ | pageSizeTooLarge .. => some PageParameter.size.name
  | pageNumberTooSmall _ => some PageParameter.number.name
  | graphMissing | graphMalformed => some "graph"
  | _ => none

/-- The clause at fault. -/
def clause? : Fault → Option String
  | filterShape c | filterEmpty c | filterOperator _ c | sortShape c | sortEmpty c
  | sortDirection _ c => some c
  | _ => none

end Fault

namespace Value

/-- The text of a value, if no field of a record in it is missing. -/
def shown (v : Value) : Except Fault String :=
  match v.unshown? with
  | some (type, field) => .error (.missingField type field)
  | none => .ok v.toText

/-- Why there is no text that shows a value inside another one. -/
def unquotable? (v : Value) : Option Fault :=
  match v.unshown? with
  | some (type, field) => some (.missingField type field)
  | none => if v.showsLong then some .longInteger else none

/-- Why a value has no text. -/
def unwritable? : Value → Option Fault
  | .member _ .integer _ (.int n) => if isLong n then some .longInteger else none
  | .member .. => none
  | v => v.unquotable?

/-- The text of a value that has one. -/
def written (v : Value) : Except Fault String :=
  match v.unwritable? with
  | some e => .error e
  | none => .ok v.toText

end Value

end PagedQuery
