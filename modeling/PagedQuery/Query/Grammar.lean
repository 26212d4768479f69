import PagedQuery.Fault
import PagedQuery.Text.Blank
import PagedQuery.Text.Percent

/-!
# Filter and sort expressions

    filter = clause ( "," clause )*      clause = property "~" operator "~" value
    sort   = clause ( "," clause )*      clause = property "~" direction

Values are percent-encoded; they are decoded after splitting. The lenient profile drops malformed
clauses and takes an unknown direction as descending; the strict one refuses both. An unknown
operator is refused in both.
-/

namespace PagedQuery

open PagedQuery.Text

/-- How malformed clauses are treated. -/
inductive Profile
  | lenient
  | strict
  deriving Repr, DecidableEq, Inhabited

def Profile.ofBool (strict : Bool) : Profile := if strict then .strict else .lenient

/-- A malformed piece: refused or dropped. -/
def Profile.drop {α : Type} (profile : Profile) (fault : Fault) : Except Fault (Option α) :=
  match profile with
  | .strict => .error fault
  | .lenient => .ok none

/-- A filter clause split at its first two separators. -/
def splitFilter? (piece : List Char) : Option (List Char × List Char × List Char) :=
  match cutAt? '~' piece with
  | none => none
  | some (property, rest) =>
    (cutAt? '~' rest).map fun (token, value) => (property, token, value)

/-- The clause of one piece of a filter expression, if it is not dropped. -/
def parseFilterPiece (profile : Profile) (piece : List Char) :
    Except Fault (Option FilterClause) :=
  let shown := String.ofList piece
  match splitFilter? piece with
  | none => profile.drop (.filterShape shown)
  | some (property, token, value) =>
    match FilterOperator.ofToken? (String.ofList token) with
    | none => .error (.filterOperator (String.ofList token) shown)
    | some op =>
      let property := trimChars property
      let value := Percent.decodeChars value
      if property.isEmpty || value.isEmpty then profile.drop (.filterEmpty shown)
      else .ok (some ⟨normalizeProperty (String.ofList property), op, String.ofList value⟩)

/-- The clause of one piece of a sort expression, if it is not dropped. -/
def parseSortPiece (profile : Profile) (piece : List Char) : Except Fault (Option SortClause) :=
  let shown := String.ofList piece
  match cutAt? '~' piece with
  | none => profile.drop (.sortShape shown)
  | some (property, token) =>
    let property := trimChars property
    if property.isEmpty then profile.drop (.sortEmpty shown)
    else
      let token := String.ofList token
      match SortDirection.ofToken? token, profile with
      | some direction, _ => .ok (some ⟨normalizeProperty (String.ofList property), direction⟩)
      | none, .lenient => .ok (some ⟨normalizeProperty (String.ofList property), .descending⟩)
      | none, .strict => .error (.sortDirection token shown)

/-- The clauses of pieces, in order, up to the first fault. -/
def parsePieces {α : Type} (parse : List Char → Except Fault (Option α)) :
    List (List Char) → Except Fault (List α)
  | [] => .ok []
  | piece :: pieces =>
    match parse piece with
    | .error e => .error e
    | .ok clause? =>
      match parsePieces parse pieces with
      | .error e => .error e
      | .ok clauses => .ok (clause?.toList ++ clauses)

/-- The clauses of an expression; none or a blank one has none. -/
def parseExpression {α : Type} (parse : List Char → Except Fault (Option α))
    (expression : Option String) : Except Fault (List α) :=
  match expression with
  | none => .ok []
  | some s => if isBlankText s then .ok [] else parsePieces parse (splitChars ',' s.toList)

/-- The clauses of a filter expression, in source order. -/
def parseFilter (profile : Profile) (expression : Option String) :
    Except Fault (List FilterClause) :=
  parseExpression (parseFilterPiece profile) expression

/-- The clauses of a sort expression, primary key first. -/
def parseSort (profile : Profile) (expression : Option String) : Except Fault (List SortClause) :=
  parseExpression (parseSortPiece profile) expression

end PagedQuery
