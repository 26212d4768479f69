import PagedQuery.Text.Case
import PagedQuery.Text.Split
import PagedQuery.Value.Order

/-!
# Clauses

Property names, filter clauses and sort clauses.
-/

namespace PagedQuery

open PagedQuery.Text

/-- A property name with its first letter in upper case. -/
def normalizeProperty (name : String) : String := capitalize name

/-- A dotted path with every segment normalized. -/
def normalizePath (path : String) : String :=
  String.intercalate "." ((split '.' path).map normalizeProperty)

/-- A name with underscores as one word: `first_name` becomes `FirstName`. -/
def pascalCase (name : String) : String :=
  String.join (((split '_' name).filter (· != "")).map normalizeProperty)

/-- The operators of filter clauses. -/
inductive FilterOperator
  | compare (op : Comparison)
  /-- Contains the pattern. -/
  | like
  /-- Contains the pattern, letter case ignored. -/
  | ilike
  deriving Repr, DecidableEq, Inhabited

namespace FilterOperator

def all : List FilterOperator :=
  [.compare .less, .compare .lessOrEqual, .compare .equal, .compare .greaterOrEqual,
   .compare .greater, .like, .ilike]

def token : FilterOperator → String
  | .compare .less => "<"
  | .compare .lessOrEqual => "<="
  | .compare .equal => "="
  | .compare .greaterOrEqual => ">="
  | .compare .greater => ">"
  | .like => "like"
  | .ilike => "ilike"

def name : FilterOperator → String
  | .compare .less => "LESS"
  | .compare .lessOrEqual => "LESS_OR_EQUAL"
  | .compare .equal => "EQUAL"
  | .compare .greaterOrEqual => "GREATER_OR_EQUAL"
  | .compare .greater => "GREATER"
  | .like => "LIKE"
  | .ilike => "ILIKE"

def ofToken? (token : String) : Option FilterOperator := all.find? (·.token == token)

def ofName? (name : String) : Option FilterOperator := all.find? (·.name == name)

/-- Whether the operator looks for a pattern. -/
def isPattern : FilterOperator → Bool
  | .like | .ilike => true
  | .compare _ => false

theorem ofToken?_token (op : FilterOperator) : ofToken? op.token = some op := by
  rcases op with (_ | _ | _ | _ | _) | _ | _ <;> decide

end FilterOperator

inductive SortDirection
  | ascending
  | descending
  deriving Repr, DecidableEq, Inhabited

namespace SortDirection

def token : SortDirection → String
  | .ascending => "asc"
  | .descending => "desc"

def name : SortDirection → String
  | .ascending => "ASC"
  | .descending => "DESC"

/-- The token that a written direction stands for: blanks and letter case do not matter. -/
def canonicalToken (token : String) : String := lower (trim token)

def ofToken? (token : String) : Option SortDirection :=
  let t := canonicalToken token
  if t = "asc" then some .ascending else if t = "desc" then some .descending else none

def ofName? (name : String) : Option SortDirection :=
  if name = "ASC" then some .ascending else if name = "DESC" then some .descending else none

end SortDirection

/-- Keeps the entities whose property relates to the value. -/
structure FilterClause where
  property : String
  operator : FilterOperator
  value : String
  deriving Repr, DecidableEq, Inhabited

def FilterClause.text (c : FilterClause) : String :=
  c.property ++ "~" ++ c.operator.token ++ "~" ++ c.value

structure SortClause where
  property : String
  direction : SortDirection
  deriving Repr, DecidableEq, Inhabited

def SortClause.text (c : SortClause) : String := c.property ++ "~" ++ c.direction.token

end PagedQuery
