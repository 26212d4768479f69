import PagedQuery.Schema.Expression.Token

/-!
# Terms of type expressions

The tree of an expression. Operators bind in the usual order: choices, `or`, `and`, `not`,
comparisons, bars, carets, ampersands, shifts, sums, products, signs before an operand, powers, and
closest what is attached to an operand.
-/

namespace PagedQuery.Expression

/-- How a parameter of a function takes its value. -/
inductive ParameterKind
  /-- By place or by name. -/
  | plain
  | nameOnly
  /-- All further values as a tuple. -/
  | others
  /-- All further values given by name as a dictionary. -/
  | entries
  deriving Repr, DecidableEq, Inhabited

inductive Term
  | name (s : String)
  | whole (n : Nat)
  | float (x : Float)
  | imaginary
  | text (s : String)
  | bytes (bs : List UInt8)
  | template (parts : List TemplatePart)
  | ellipsis
  /-- A bound of a range that is not given. -/
  | absent
  | field (t : Term) (name : String)
  | item (t index : Term)
  | range (start stop step : Term)
  | call (f : Term) (arguments : List Term)
  /-- An argument that is given by name. -/
  | named (name : String) (t : Term)
  /-- The items of a term in the place of one. -/
  | spread (t : Term)
  /-- The entries of a term in the place of one. -/
  | entries (t : Term)
  | signed (sign : String) (t : Term)
  | binary (sign : String) (l r : Term)
  /-- Operands compared one with the next. -/
  | comparison (first : Term) (rest : List Term)
  /-- An operand with the sign of the comparison before it. -/
  | compared (sign : String) (t : Term)
  | both (l r : Term)
  | either (l r : Term)
  | negation (t : Term)
  | choice (condition yes no : Term)
  | tuple (ts : List Term)
  | list (ts : List Term)
  | set (ts : List Term)
  | dict (ts : List Term)
  /-- A key with its value. -/
  | pair (key value : Term)
  /-- A term that gets a name on the way. -/
  | assigned (name : String) (t : Term)
  | function (parameters : List Term) (body : Term)
  /-- A parameter with the value that it has when none is given. -/
  | parameter (kind : ParameterKind) (name : String) (default : Term)
  /-- Items made one by one, as a collection of a class. -/
  | generated (className : String) (item : Term) (clauses : List Term)
  /-- A target that stands for each item of a source in turn. -/
  | each (target source : Term)
  /-- A condition on the items made. -/
  | only (condition : Term)
  deriving Inhabited

/-- Whether it is a term at all. -/
def Term.isGiven : Term → Bool
  | .absent => false
  | _ => true

/-- Words that stand for a value each. -/
def constants : List String := ["False", "None", "True"]

/-- Signs between operands, the loosest ones first. -/
def binarySigns : List (List String) :=
  [["|"], ["^"], ["&"], ["<<", ">>"], ["+", "-"], ["*", "/", "//", "%", "@"]]

/-- A comparison that tokens start with, and the rest. -/
def takeComparison? : List Token → Option (String × List Token)
  | .word "in" :: ts => some ("in", ts)
  | .word "not" :: .word "in" :: ts => some ("not in", ts)
  | .word "is" :: .word "not" :: ts => some ("is not", ts)
  | .word "is" :: ts => some ("is", ts)
  | .sign s :: ts => if ["<", ">", "==", ">=", "<=", "!="].contains s then some (s, ts) else none
  | _ => none

/-- Adjacent literals as one. Texts and bytes do not mix. -/
def joinLiterals? : Term → Term → Option Term
  | .text s, .text t => some (.text (s ++ t))
  | .text s, .template parts => some (.template (.text s :: parts))
  | .template parts, .text s => some (.template (parts ++ [.text s]))
  | .template parts, .template more => some (.template (parts ++ more))
  | .bytes bs, .bytes cs => some (.bytes (bs ++ cs))
  | _, _ => none

/-- A literal. -/
def literal? : Token → Option Term
  | .text s => some (.text s)
  | .bytes bs => some (.bytes bs)
  | .template parts => some (.template parts)
  | _ => none

/-- The literals that tokens start with as one, and the rest. -/
def takeLiterals : List Token → Option (Term × List Token)
  | [] => none
  | token :: ts =>
    match literal? token, (ts.head?.bind literal?).isSome with
    | none, _ => none
    | some first, false => some (first, ts)
    | some first, true =>
      match takeLiterals ts with
      | some (more, ts) => (joinLiterals? first more).map fun t => (t, ts)
      | none => none

/-- Whether a term in braces belongs to a dictionary. -/
def isEntry : Term → Bool
  | .pair .. | .entries _ => true
  | _ => false

/-- The display of terms in braces, which are either all entries of a dictionary or none. -/
def ofBraces? (ts : List Term) : Option Term :=
  if ts.all isEntry then some (.dict ts)
  else if ts.any isEntry then none
  else some (.set ts)

/-- Whether a positional argument follows one given by name, or spread items follow spread
entries, or a name is given twice. -/
def badArguments (seen : List String) (entriesSeen : Bool) : List Term → Bool
  | [] => false
  | .named n _ :: ts => seen.contains n || badArguments (n :: seen) entriesSeen ts
  | .entries _ :: ts => badArguments seen true ts
  | .spread _ :: ts => entriesSeen || badArguments seen entriesSeen ts
  | _ :: ts => !seen.isEmpty || entriesSeen || badArguments seen entriesSeen ts

/-- Whether a name is given to two parameters or is none, a parameter without a value follows one
with a value where values are given by place, or anything follows the one for all further names. -/
def badParameters (seen : List String) : List Term → Bool
  | .parameter kind name default :: ts =>
    keywords.contains name || seen.contains name || (kind == .entries && !ts.isEmpty) ||
      (kind == .plain && default.isGiven && ts.any lacksDefault) || badParameters (name :: seen) ts
  | _ => false
where
  lacksDefault : Term → Bool
    | .parameter .plain _ t => !t.isGiven
    | _ => false

mutual
/-- Whether names can be given by a term to what it stands for. -/
def isTarget : Term → Bool
  | .name s => !constants.contains s
  | .tuple ts | .list ts => areTargets ts
  | .spread t => isTarget t
  | .field .. | .item .. => true
  | _ => false
def areTargets : List Term → Bool
  | [] => true
  | t :: ts => isTarget t && areTargets ts
end

mutual
/-- The names of a target. -/
def namesIn : Term → List String
  | .name s => [s]
  | .tuple ts | .list ts => allNamesIn ts
  | .spread t => namesIn t
  | .each target _ => namesIn target
  | _ => []
def allNamesIn : List Term → List String
  | [] => []
  | t :: ts => namesIn t ++ allNamesIn ts
end

mutual
/-- Whether a name is given where that is not allowed: to one of the targets around it, or within a
source of items, where `kept` is none. -/
def misnames (kept : Option (List String)) : Term → Bool
  | .assigned name t => kept.all (·.contains name) || misnames kept t
  | .function parameters body =>
    misnamesAny kept parameters || misnames (kept.map fun _ => []) body
  | .generated _ item clauses =>
    let kept := kept.map (allNamesIn clauses ++ ·)
    misnames kept item || misnamesAny kept clauses
  | .each target source => misnames kept target || misnames none source
  | .field t _ | .named _ t | .spread t | .entries t | .signed _ t | .compared _ t | .negation t |
    .parameter _ _ t | .only t => misnames kept t
  | .item l r | .binary _ l r | .both l r | .either l r | .pair l r =>
    misnames kept l || misnames kept r
  | .range a b c | .choice a b c => misnames kept a || misnames kept b || misnames kept c
  | .call f ts | .comparison f ts => misnames kept f || misnamesAny kept ts
  | .tuple ts | .list ts | .set ts | .dict ts => misnamesAny kept ts
  | .name _ | .whole _ | .float _ | .imaginary | .text _ | .bytes _ | .template _ | .ellipsis |
    .absent => false
def misnamesAny (kept : Option (List String)) : List Term → Bool
  | [] => false
  | t :: ts => misnames kept t || misnamesAny kept ts
end

abbrev Reading := Option (Term × List Token)

/-- Whether a sign comes next. -/
def endsAt (sign : String) : List Token → Bool
  | .sign s :: _ => s == sign
  | _ => false

mutual
/-- A choice, a function or what binds closer. -/
def readChoice : Nat → List Token → Reading
  | 0, _ => none
  | fuel + 1, .word "lambda" :: ts =>
    match readParameters fuel .plain ts with
    | none => none
    | some (parameters, ts) =>
      if badParameters [] parameters then none
      else (readChoice fuel ts).map fun (body, ts) => (.function parameters body, ts)
  | fuel + 1, ts =>
    match readEither fuel ts with
    | some (yes, .word "if" :: ts) =>
      match readEither fuel ts with
      | some (condition, .word "else" :: ts) =>
        (readChoice fuel ts).map fun (no, ts) => (.choice condition yes no, ts)
      | _ => none
    | read => read
/-- Parameters of a function up to their colon. After a star they are given by name only. -/
def readParameters : Nat → ParameterKind → List Token → Option (List Term × List Token)
  | 0, _, _ => none
  | _ + 1, _, .sign ":" :: ts => some ([], ts)
  | fuel + 1, .plain, .sign "*" :: .sign "," :: .word w :: ts =>
    readParameters fuel .nameOnly (.word w :: ts)
  | fuel + 1, .plain, .sign "*" :: .word w :: ts => readParameterEnd fuel .others w .absent ts
  | fuel + 1, _, .sign "**" :: .word w :: ts => readParameterEnd fuel .entries w .absent ts
  | fuel + 1, kind, .word w :: .sign "=" :: ts =>
    match readChoice fuel ts with
    | some (t, ts) => readParameterEnd fuel kind w t ts
    | none => none
  | fuel + 1, kind, .word w :: ts => readParameterEnd fuel kind w .absent ts
  | _ + 1, _, _ => none
/-- A parameter with those after it; a slash may stand between those given by place. -/
def readParameterEnd (fuel : Nat) (kind : ParameterKind) (name : String) (default : Term)
    (ts : List Token) : Option (List Term × List Token) :=
  match fuel with
  | 0 => none
  | fuel + 1 =>
    let next := if kind = .others then .nameOnly else kind
    let after := fun ts =>
      (readParameters fuel next ts).map fun (more, ts) => (.parameter kind name default :: more, ts)
    match ts with
    | .sign ":" :: ts => some ([.parameter kind name default], ts)
    | .sign "," :: .sign "/" :: .sign "," :: ts => if kind = .plain then after ts else none
    | .sign "," :: .sign "/" :: .sign ":" :: ts =>
      if kind = .plain then after (.sign ":" :: ts) else none
    | .sign "," :: ts => after ts
    | _ => none
def readEither : Nat → List Token → Reading
  | 0, _ => none
  | fuel + 1, ts =>
    match readBoth fuel ts with
    | some (l, .word "or" :: ts) =>
      (readEither fuel ts).map fun (r, ts) => (.either l r, ts)
    | read => read
def readBoth : Nat → List Token → Reading
  | 0, _ => none
  | fuel + 1, ts =>
    match readNegation fuel ts with
    | some (l, .word "and" :: ts) => (readBoth fuel ts).map fun (r, ts) => (.both l r, ts)
    | read => read
def readNegation : Nat → List Token → Reading
  | 0, _ => none
  | fuel + 1, .word "not" :: ts => (readNegation fuel ts).map fun (t, ts) => (.negation t, ts)
  | fuel + 1, ts =>
    match readBinary fuel binarySigns ts with
    | none => none
    | some (first, ts) =>
      match readCompared fuel ts with
      | none => none
      | some ([], ts) => some (first, ts)
      | some (rest, ts) => some (.comparison first rest, ts)
/-- Comparisons with their right operands. -/
def readCompared : Nat → List Token → Option (List Term × List Token)
  | 0, _ => none
  | fuel + 1, ts =>
    match takeComparison? ts with
    | none => some ([], ts)
    | some (sign, ts) =>
      match readBinary fuel binarySigns ts with
      | none => none
      | some (t, ts) => (readCompared fuel ts).map fun (more, ts) => (.compared sign t :: more, ts)
/-- Operands with signs between them, by the signs that may stand there. -/
def readBinary : Nat → List (List String) → List Token → Reading
  | 0, _, _ => none
  | fuel + 1, [], ts => readSigned fuel ts
  | fuel + 1, signs :: closer, ts =>
    match readBinary fuel closer ts with
    | some (l, ts) => readMore fuel signs closer l ts
    | none => none
/-- Further operands on the right of one. -/
def readMore : Nat → List String → List (List String) → Term → List Token → Reading
  | 0, _, _, _, _ => none
  | fuel + 1, signs, closer, l, .sign s :: ts =>
    if signs.contains s then
      match readBinary fuel closer ts with
      | some (r, ts) => readMore fuel signs closer (.binary s l r) ts
      | none => none
    else some (l, .sign s :: ts)
  | _ + 1, _, _, l, ts => some (l, ts)
/-- An operand with signs before it, or a power. -/
def readSigned : Nat → List Token → Reading
  | 0, _ => none
  | fuel + 1, .sign s :: ts =>
    if s = "+" ∨ s = "-" ∨ s = "~" then
      (readSigned fuel ts).map fun (t, ts) => (.signed s t, ts)
    else readPower fuel (.sign s :: ts)
  | fuel + 1, ts => readPower fuel ts
def readPower : Nat → List Token → Reading
  | 0, _ => none
  | fuel + 1, ts =>
    match readOperand fuel ts with
    | some (l, .sign "**" :: ts) =>
      (readSigned fuel ts).map fun (r, ts) => (.binary "**" l r, ts)
    | read => read
/-- A name, a literal or a display, with what is attached to it. -/
def readOperand : Nat → List Token → Reading
  | 0, _ => none
  | fuel + 1, .word w :: ts =>
    if keywords.contains w ∧ !constants.contains w then none else readAttached fuel (.name w) ts
  | fuel + 1, .whole n :: ts => readAttached fuel (.whole n) ts
  | fuel + 1, .float x :: ts => readAttached fuel (.float x) ts
  | fuel + 1, .imaginary :: ts => readAttached fuel .imaginary ts
  | fuel + 1, .sign "..." :: ts => readAttached fuel .ellipsis ts
  | fuel + 1, .sign "(" :: ts =>
    match readGroup fuel ts with
    | some (t, ts) => readAttached fuel t ts
    | none => none
  | fuel + 1, .sign "\x5b" :: ts =>
    match readList fuel ts with
    | some (t, ts) => readAttached fuel t ts
    | none => none
  | fuel + 1, .sign "\x7b" :: ts =>
    match readBraces fuel ts with
    | some (t, ts) => readAttached fuel t ts
    | none => none
  | fuel + 1, ts =>
    match takeLiterals ts with
    | some (t, ts) => readAttached fuel t ts
    | none => none
/-- Fields, items and arguments after an operand. -/
def readAttached : Nat → Term → List Token → Reading
  | 0, _, _ => none
  | fuel + 1, t, .sign "." :: ts =>
    match ts with
    | .word w :: ts => if keywords.contains w then none else readAttached fuel (.field t w) ts
    | _ => none
  | fuel + 1, t, .sign "\x5b" :: ts =>
    match readIndex fuel ts with
    | some (index, ts) => readAttached fuel (.item t index) ts
    | none => none
  | fuel + 1, t, .sign "(" :: ts =>
    match readArguments true fuel ts with
    | some (arguments, ts) =>
      if badArguments [] false arguments then none else readAttached fuel (.call t arguments) ts
    | none => none
  | _ + 1, t, ts => some (t, ts)
/-- A term that may be given a name on the way. -/
def readNamed : Nat → List Token → Reading
  | 0, _ => none
  | fuel + 1, .word w :: .sign ":=" :: ts =>
    if keywords.contains w then none
    else (readChoice fuel ts).map fun (t, ts) => (.assigned w t, ts)
  | fuel + 1, ts => readChoice fuel ts
/-- One item of a display: a term, or the items of one. -/
def readItem : Nat → List Token → Reading
  | 0, _ => none
  | fuel + 1, .sign "*" :: ts =>
    (readBinary fuel binarySigns ts).map fun (t, ts) => (.spread t, ts)
  | fuel + 1, ts => readNamed fuel ts
/-- Items up to a closing sign, with commas between them. -/
def readItems (close : String) : Nat → List Token → Option (List Term × List Token)
  | 0, _ => none
  | fuel + 1, ts =>
    if endsAt close ts then some ([], ts.drop 1)
    else
      match readItem fuel ts with
      | some (t, .sign s :: ts) =>
        if s = "," then (readItems close fuel ts).map fun (more, ts) => (t :: more, ts)
        else if s = close then some ([t], ts)
        else none
      | _ => none
/-- What stands between parentheses: nothing, one term, several, or terms made one by one. -/
def readGroup : Nat → List Token → Reading
  | 0, _ => none
  | _ + 1, .sign ")" :: ts => some (.tuple [], ts)
  | fuel + 1, ts =>
    match readItem fuel ts with
    | some (t, .sign "," :: ts) =>
      (readItems ")" fuel ts).map fun (more, ts) => (.tuple (t :: more), ts)
    | some (.spread _, _) => none
    | some (t, .sign ")" :: ts) => some (t, ts)
    | some (t, ts) => readGenerated ")" "generator" t fuel ts
    | none => none
def readList : Nat → List Token → Reading
  | 0, _ => none
  | _ + 1, .sign "\x5d" :: ts => some (.list [], ts)
  | fuel + 1, ts =>
    match readItem fuel ts with
    | some (t, .sign "," :: ts) =>
      (readItems "\x5d" fuel ts).map fun (more, ts) => (.list (t :: more), ts)
    | some (t, .sign "\x5d" :: ts) => some (.list [t], ts)
    | some (.spread _, _) => none
    | some (t, ts) => readGenerated "\x5d" "list" t fuel ts
    | none => none
/-- Items made one by one, from their first source up to a closing sign. -/
def readGenerated (close className : String) (item : Term) : Nat → List Token → Reading
  | 0, _ => none
  | fuel + 1, ts =>
    match readClauses fuel ts with
    | some ([], _) | none => none
    | some (clauses, ts) =>
      if endsAt close ts then some (.generated className item clauses, ts.drop 1) else none
/-- Sources of items, each with conditions. -/
def readClauses : Nat → List Token → Option (List Term × List Token)
  | 0, _ => none
  | fuel + 1, .word "for" :: ts =>
    match readTargets fuel ts with
    | none => none
    | some (target, ts) =>
      match readEither fuel ts with
      | none => none
      | some (source, ts) => readConditions fuel [.each target source] ts
  | _ + 1, ts => some ([], ts)
/-- Conditions after a source, and further sources. -/
def readConditions : Nat → List Term → List Token → Option (List Term × List Token)
  | 0, _, _ => none
  | fuel + 1, clauses, .word "if" :: ts =>
    match readEither fuel ts with
    | some (t, ts) => readConditions fuel (clauses ++ [.only t]) ts
    | none => none
  | fuel + 1, clauses, ts =>
    (readClauses fuel ts).map fun (more, ts) => (clauses ++ more, ts)
/-- What stands for the items of a source, up to the word before the source. -/
def readTargets : Nat → List Token → Reading
  | 0, _ => none
  | fuel + 1, ts =>
    match readTargetList fuel ts with
    | some ([t], false, ts) => if isTarget t then some (t, ts) else none
    | some (items, _, ts) => if areTargets items then some (.tuple items, ts) else none
    | none => none
/-- Targets with commas between them; whether there is a comma at all. -/
def readTargetList : Nat → List Token → Option (List Term × Bool × List Token)
  | 0, _ => none
  | fuel + 1, ts =>
    let first : Reading :=
      match ts with
      | .sign "*" :: ts => (readBinary fuel binarySigns ts).map fun (t, ts) => (.spread t, ts)
      | ts => readBinary fuel binarySigns ts
    match first with
    | some (t, .word "in" :: ts) => some ([t], false, ts)
    | some (t, .sign "," :: .word "in" :: ts) => some ([t], true, ts)
    | some (t, .sign "," :: ts) =>
      (readTargetList fuel ts).map fun (more, _, ts) => (t :: more, true, ts)
    | _ => none
/-- What stands between braces. -/
def readBraces : Nat → List Token → Reading
  | 0, _ => none
  | fuel + 1, ts =>
    match readEntries fuel ts with
    | some (items, .sign "\x7d" :: ts) => (ofBraces? items).map fun t => (t, ts)
    | some ([.spread _], _) | some ([.entries _], _) => none
    | some ([.pair k v], ts) => readGenerated "\x7d" "dict" (.pair k v) fuel ts
    | some ([t], ts) => readGenerated "\x7d" "set" t fuel ts
    | _ => none
/-- An item, a pair, or all entries of a term. -/
def readEntry : Nat → List Token → Reading
  | 0, _ => none
  | fuel + 1, .sign "**" :: ts =>
    (readBinary fuel binarySigns ts).map fun (t, ts) => (.entries t, ts)
  | fuel + 1, ts =>
    match readItem fuel ts with
    | some (.spread t, ts) => some (.spread t, ts)
    | some (key, .sign ":" :: ts) =>
      (readChoice fuel ts).map fun (value, ts) => (.pair key value, ts)
    | read => read
/-- Entries with commas between them, up to what follows the last one. -/
def readEntries : Nat → List Token → Option (List Term × List Token)
  | 0, _ => none
  | fuel + 1, ts =>
    if endsAt "\x7d" ts then some ([], ts)
    else
      match readEntry fuel ts with
      | some (e, .sign "," :: ts) => (readEntries fuel ts).map fun (more, ts) => (e :: more, ts)
      | some (e, ts) => some ([e], ts)
      | none => none
/-- What stands between brackets after an operand: one index, or several as a tuple. -/
def readIndex : Nat → List Token → Reading
  | 0, _ => none
  | fuel + 1, ts =>
    match readIndexes fuel ts with
    | some ([.spread t], _, ts) => some (.tuple [.spread t], ts)
    | some ([t], false, ts) => some (t, ts)
    | some ([], _, _) => none
    | some (items, _, ts) => some (.tuple items, ts)
    | none => none
/-- Indexes up to the closing bracket; whether a comma is the last of them. -/
def readIndexes : Nat → List Token → Option (List Term × Bool × List Token)
  | 0, _ => none
  | fuel + 1, ts =>
    match readRange fuel ts with
    | some (t, .sign "\x5d" :: ts) => some ([t], false, ts)
    | some (t, .sign "," :: .sign "\x5d" :: ts) => some ([t], true, ts)
    | some (t, .sign "," :: ts) =>
      (readIndexes fuel ts).map fun (more, comma, ts) => (t :: more, comma, ts)
    | _ => none
/-- One index: a term, the items of one, or a range. -/
def readRange : Nat → List Token → Reading
  | 0, _ => none
  | fuel + 1, .sign ":" :: ts => readRangeEnd fuel .absent ts
  | fuel + 1, ts =>
    match readItem fuel ts with
    | some (.spread t, ts) => some (.spread t, ts)
    | some (t, .sign ":" :: rest) =>
      match ts with
      | .word _ :: .sign ":=" :: _ => none
      | _ => readRangeEnd fuel t rest
    | read => read
/-- A range from its first colon on. -/
def readRangeEnd : Nat → Term → List Token → Reading
  | 0, _, _ => none
  | fuel + 1, start, ts =>
    match readBound fuel ts with
    | none => none
    | some (stop, .sign ":" :: ts) =>
      (readBound fuel ts).map fun (step, ts) => (.range start stop step, ts)
    | some (stop, ts) => some (.range start stop .absent, ts)
/-- A bound of a range, or nothing before what may follow it. -/
def readBound : Nat → List Token → Reading
  | 0, _ => none
  | fuel + 1, ts =>
    match ts with
    | .sign ":" :: _ | .sign "," :: _ | .sign "\x5d" :: _ => some (.absent, ts)
    | ts => readChoice fuel ts
/-- Arguments up to the closing parenthesis; terms made one by one may be the only argument. -/
def readArguments (first : Bool) : Nat → List Token → Option (List Term × List Token)
  | 0, _ => none
  | _ + 1, .sign ")" :: ts => some ([], ts)
  | fuel + 1, ts =>
    match readArgument fuel ts with
    | some (t, .sign "," :: ts) =>
      (readArguments false fuel ts).map fun (more, ts) => (t :: more, ts)
    | some (t, .sign ")" :: ts) => some ([t], ts)
    | some (.named .., _) | some (.spread _, _) | some (.entries _, _) | none => none
    | some (t, ts) =>
      if first then
        (readGenerated ")" "generator" t fuel ts).map fun (t, ts) => ([t], ts)
      else none
def readArgument : Nat → List Token → Reading
  | 0, _ => none
  | fuel + 1, .sign "*" :: ts => (readChoice fuel ts).map fun (t, ts) => (.spread t, ts)
  | fuel + 1, .sign "**" :: ts => (readChoice fuel ts).map fun (t, ts) => (.entries t, ts)
  | fuel + 1, .word w :: .sign "=" :: ts =>
    if keywords.contains w then none
    else (readChoice fuel ts).map fun (t, ts) => (.named w t, ts)
  | fuel + 1, ts => readNamed fuel ts
end

/-- Terms with commas between them as a tuple, or one term. -/
def readTerms : Nat → List Token → Option (List Term × Bool)
  | 0, _ => none
  | fuel + 1, ts =>
    match readChoice (32 * ts.length + 32) ts with
    | some (t, []) => some ([t], false)
    | some (t, [.sign ","]) => some ([t], true)
    | some (t, .sign "," :: ts) => (readTerms fuel ts).map fun (more, comma) => (t :: more, comma)
    | _ => none

/-- The term of tokens. -/
def ofTokens? (ts : List Token) : Option Term := do
  let t ← (readTerms (ts.length + 1) ts).map fun read =>
    match read with
    | ([t], false) => t
    | (items, _) => .tuple items
  if misnames (some []) t then none else return t

/-- The expression that a place of a template stands for. -/
def placed (source : String) : String := "(" ++ source ++ ")"

/-- The term of a whole expression. Places of templates hold expressions in turn, up to a depth. -/
def termWithin : Nat → String → Option Term
  | 0, _ => none
  | depth + 1, source => do
    let ts ← tokens? source
    let isWhole := fun source => (termWithin depth (placed source)).isSome
    let isSound := fun token =>
      match token with
      | Token.template parts => (sourcesOf parts).all isWhole
      | _ => true
    if ts.all isSound then ofTokens? ts else none

def term? (source : String) : Option Term := termWithin 10 source

end PagedQuery.Expression
