import PagedQuery.Schema.Expression.Function

/-!
# Meanings of terms

Terms are worked out from left to right. Names are those of parameters and targets around a term,
those given on the way, and the known ones. Names given outside of functions are not known within
them.
-/

namespace PagedQuery.Expression

open PagedQuery.Text

/-- The names that are known where a term stands, the latest first. -/
structure Scope where
  /-- Names of parameters and of targets. -/
  inner : List (String × Meaning) := []
  /-- Names given outside of functions. -/
  outer : List (String × Meaning) := []
  isInner : Bool := false

namespace Scope

/-- What a name stands for. -/
def find? (scope : Scope) (name : String) : Option Meaning :=
  (scope.inner.lookup name).orElse fun _ =>
    (if scope.isInner then none else scope.outer.lookup name).orElse fun _ => named? name

/-- A name given to a value on the way. -/
def give (scope : Scope) (name : String) (m : Meaning) : Scope :=
  if scope.isInner then { scope with inner := (name, m) :: scope.inner }
  else { scope with outer := (name, m) :: scope.outer }

/-- The names within a function. -/
def within (scope : Scope) (names : List (String × Meaning)) : Scope :=
  { inner := names ++ scope.inner, isInner := true }

end Scope

abbrev Evaluation := StateT Scope (Except ExpressionError)

/-! ## Targets and parameters -/

/-- Whether a target stands for all items that are left over. -/
def isRest : Term → Bool
  | .spread _ => true
  | _ => false

/-- A fault if items do not fit the number of targets. -/
def checkCount (targets : List Term) (count : Nat) : Except ExpressionError Unit :=
  let open' := targets.any isRest
  let wanted := if open' then targets.length - 1 else targets.length
  if count < wanted then
    .error (.badValue ("not enough values to unpack (expected " ++
      (if open' then "at least " else "") ++ toString wanted ++ ", got " ++ toString count ++ ")"))
  else if wanted < count ∧ !open' then
    .error (.badValue ("too many values to unpack (expected " ++ toString wanted ++ ")"))
  else .ok ()

mutual
/-- The names of a target for a value. -/
def namesOfTarget (m : Meaning) : Term → Except ExpressionError (List (String × Meaning))
  | .name s => .ok [(s, m)]
  | .tuple ts | .list ts => do
    let items ← m.items
    checkCount ts items.length
    namesOfTargets items ts
  | _ => .error .meaningless
/-- The names of targets for items. -/
def namesOfTargets :
    List Meaning → List Term → Except ExpressionError (List (String × Meaning))
  | items, .spread t :: ts => do
    let taken := items.length - ts.length
    let names ← namesOfTarget (.list (items.take taken)) t
    return names ++ (← namesOfTargets (items.drop taken) ts)
  | m :: items, t :: ts => do
    let names ← namesOfTarget m t
    return names ++ (← namesOfTargets items ts)
  | _, _ => .ok []
end

/-- The values of parameters, if the arguments fit them. -/
def valuesOfParameters (defaults : List (String × Meaning)) :
    List Term → List Meaning → List (String × Meaning) → Option (List (String × Meaning))
  | [], [], [] => some []
  | .parameter .plain name _ :: ps, m :: placed, named =>
    if (named.lookup name).isSome then none
    else (valuesOfParameters defaults ps placed named).map ((name, m) :: ·)
  | .parameter .others name _ :: ps, placed, named =>
    (valuesOfParameters defaults ps [] named).map ((name, .tuple placed) :: ·)
  | .parameter .entries name _ :: ps, [], named =>
    let entries := Meaning.dict (named.map fun (name, _) => .text name) (named.map (·.2))
    (valuesOfParameters defaults ps [] []).map ((name, entries) :: ·)
  | .parameter _ name _ :: ps, [], named =>
    match (named.lookup name).orElse fun _ => defaults.lookup name with
    | some m =>
      (valuesOfParameters defaults ps [] (named.filter (·.1 != name))).map ((name, m) :: ·)
    | none => none
  | _, _, _ => none

/-! ## Parts of terms -/

section Parts

variable (evaluate : Term → Evaluation Meaning)

/-- The items of terms, those of spread terms among them. -/
def itemsOfTerms : List Term → Evaluation (List Meaning)
  | [] => return []
  | .spread t :: ts => do
    let items ← (← evaluate t).items
    return items ++ (← itemsOfTerms ts)
  | t :: ts => do
    let m ← evaluate t
    return m :: (← itemsOfTerms ts)

/-- The arguments that a dictionary gives by name. -/
def argumentsOfEntries : Meaning → Except ExpressionError (List (String × Meaning))
  | .dict keys values =>
    (keys.zip values).mapM fun (k, v) =>
      match k with
      | .text name => .ok (name, v)
      | _ => .error .meaningless
  | _ => .error .meaningless

def argumentsOfTerms : List Term → Evaluation Arguments
  | [] => return {}
  | .spread t :: ts => do
    let items ← (← evaluate t).items
    let more ← argumentsOfTerms ts
    return { more with placed := items ++ more.placed }
  | .named name t :: ts => do
    let m ← evaluate t
    let more ← argumentsOfTerms ts
    return { more with named := (name, m) :: more.named }
  | .entries t :: ts => do
    let entries ← argumentsOfEntries (← evaluate t)
    let more ← argumentsOfTerms ts
    return { more with named := entries ++ more.named }
  | t :: ts => do
    let m ← evaluate t
    let more ← argumentsOfTerms ts
    return { more with placed := m :: more.placed }

/-- Keys and values of a dictionary, the entries of others among them. -/
def entriesOfTerms : List Term → Evaluation (List Meaning × List Meaning)
  | .entries t :: ts => do
    match ← evaluate t with
    | .dict keys values =>
      let (ks, vs) ← entriesOfTerms ts
      return (keys ++ ks, values ++ vs)
    | _ => throw .meaningless
  | .pair k v :: ts => do
    let key ← evaluate k
    let value ← evaluate v
    let (ks, vs) ← entriesOfTerms ts
    return (key :: ks, value :: vs)
  | _ => return ([], [])

/-- Comparisons from left to right up to the first one that does not hold. -/
def comparedInTurn (l : Meaning) : List Term → Evaluation Meaning
  | .compared sign t :: ts => do
    let r ← evaluate t
    let b ← compared sign l r
    if b && !ts.isEmpty then comparedInTurn r ts else return .bool b
  | _ => return .bool true

/-- The values of parameters for which none may be given. -/
def defaultsOf : List Term → Evaluation (List (String × Meaning))
  | [] => return []
  | .parameter _ name t :: ts => do
    if t.isGiven then
      let m ← evaluate t
      return (name, m) :: (← defaultsOf ts)
    else defaultsOf ts
  | _ :: ts => defaultsOf ts

mutual
/-- The text of a part of a template. -/
def textOfPart : TemplatePart → Evaluation String
  | .text s => return s
  | .place source form layout => do
    match term? (placed source) with
    | none => throw .unreadable
    | some t =>
      let m ← evaluate t
      let m := if form = "" then m else .text (formedText form m)
      laidOut m (← textOfParts layout)
def textOfParts : List TemplatePart → Evaluation String
  | [] => return ""
  | part :: parts => return (← textOfPart part) ++ (← textOfParts parts)
end

/-- The items made by clauses, up to the first fault. -/
def itemsOfClauses (item : Term) :
    List Term → Scope → List Meaning × Option ExpressionError
  | [], scope =>
    match (evaluate item).run scope with
    | .ok (m, _) => ([m], none)
    | .error fault => ([], some fault)
  | .each target source :: clauses, scope =>
    match (evaluate source).run scope with
    | .error fault => ([], some fault)
    | .ok (m, scope) =>
      match m.supply? with
      | none => ([], some .meaningless)
      | some (items, fault?) => produced (itemsFor target clauses scope) items fault?
  | .only condition :: clauses, scope =>
    match (evaluate condition).run scope with
    | .error fault => ([], some fault)
    | .ok (m, scope) => if m.isTrue then itemsOfClauses item clauses scope else ([], none)
  | _ :: _, _ => ([], none)
where
  /-- The items made for one item of a source. -/
  itemsFor (target : Term) (clauses : List Term) (scope : Scope) (m : Meaning) :
      List Meaning × Option ExpressionError :=
    match namesOfTarget m target with
    | .ok names => itemsOfClauses item clauses (scope.within names)
    | .error fault => ([], some fault)

/-- Items as a collection of a class. Those of a generator are not asked for yet. -/
def collected (className : String) (items : List Meaning) (fault? : Option ExpressionError) :
    Outcome :=
  match className, fault? with
  | "generator", fault? => .ok (.stream className items fault?)
  | _, some fault => .error fault
  | "list", none => .ok (.list items)
  | "set", none =>
    if Meaning.areKeys items then .ok (.set false (Meaning.distinct items)) else .error .meaningless
  | _, none => do
    let (keys, values) ← entriesOf 0 items
    if Meaning.areKeys keys then return Meaning.ofEntries keys values else throw .meaningless

/-- A collection of items made one by one. The first source is worked out at once, outside of the
names that stand for its items. -/
def generated (className : String) (item : Term) (clauses : List Term) : Evaluation Meaning := do
  match clauses with
  | .each target source :: clauses =>
    match (← evaluate source).supply? with
    | none => throw .meaningless
    | some (items, fault?) =>
      let scope ← get
      let make := itemsOfClauses.itemsFor evaluate item target clauses (scope.within [])
      let (made, fault?) := produced make items fault?
      collected className made fault?
  | _ => throw .meaningless

end Parts

/-- What is made of anything but a function that a term spells. -/
def called (apply : Application) (read : String → Outcome) (f : Meaning) (arguments : Arguments) :
    Outcome :=
  match f with
  | .type t => construct apply t arguments
  | .builtin name => applied apply read name arguments
  | .bound m .function name => classMethod apply m.className name arguments
  | .bound (.list items) _ "sort" => do
    let _ ← sorted apply (arguments.named.lookup "key") false items
    return .none
  | .bound m _ name => methodOf m name arguments
  | .field kind owner name => unboundMethod apply kind owner name arguments
  | _ => .error .meaningless

mutual
/-- What a term stands for. -/
def evaluate : Nat → Term → Evaluation Meaning
  | 0, _ => throw .tooDeep
  | fuel + 1, t =>
    match t with
    | .name s => do
      match (← get).find? s with
      | some m => return m
      | none => throw .meaningless
    | .whole n => return .int n
    | .float x => return .float x
    | .imaginary => return .thing "complex"
    | .text s => return .text s
    | .bytes bs => return .bytes bs
    | .template parts => do return .text (← textOfParts (evaluate fuel) parts)
    | .ellipsis => return .ellipsis
    | .absent => return .none
    | .field t name => do fieldOf (← evaluate fuel t) name
    | .item t index => do
      let m ← evaluate fuel t
      itemOf m (← evaluate fuel index)
    | .range start stop step => do
      let start ← evaluate fuel start
      let stop ← evaluate fuel stop
      return .range start stop (← evaluate fuel step)
    | .call f arguments => do
      let f ← evaluate fuel f
      let arguments ← argumentsOfTerms (evaluate fuel) arguments
      call fuel (← get) f arguments
    | .assigned name t => do
      let m ← evaluate fuel t
      modify (·.give name m)
      return m
    | .signed sign t => do signed sign (← evaluate fuel t)
    | .binary sign l r => do
      let l ← evaluate fuel l
      binary sign l (← evaluate fuel r)
    | .comparison first rest => do
      comparedInTurn (evaluate fuel) (← evaluate fuel first) rest
    | .both l r => do
      let l ← evaluate fuel l
      if l.isTrue then evaluate fuel r else return l
    | .either l r => do
      let l ← evaluate fuel l
      if l.isTrue then return l else evaluate fuel r
    | .negation t => do return .bool !(← evaluate fuel t).isTrue
    | .choice condition yes no => do
      if (← evaluate fuel condition).isTrue then evaluate fuel yes else evaluate fuel no
    | .tuple ts => do return .tuple (← itemsOfTerms (evaluate fuel) ts)
    | .list ts => do return .list (← itemsOfTerms (evaluate fuel) ts)
    | .set ts => do collected "set" (← itemsOfTerms (evaluate fuel) ts) none
    | .dict entries => do
      let (keys, values) ← entriesOfTerms (evaluate fuel) entries
      if Meaning.areKeys keys then return Meaning.ofEntries keys values else throw .meaningless
    | .pair k v => do
      let key ← evaluate fuel k
      return .tuple [key, ← evaluate fuel v]
    | .function parameters body => do
      let defaults ← defaultsOf (evaluate fuel) parameters
      return .function parameters body defaults (← get).inner
    | .generated className item clauses => generated (evaluate fuel) className item clauses
    | .named _ t | .spread t | .entries t | .compared _ t | .parameter _ _ t | .each _ t |
      .only t => evaluate fuel t
/-- What is made of a function with arguments. -/
def call : Nat → Scope → Meaning → Arguments → Outcome
  | 0, _, _, _ => throw .tooDeep
  | fuel + 1, scope, f, arguments =>
    match f with
    | .function parameters body defaults known =>
      match valuesOfParameters defaults parameters arguments.placed arguments.named with
      | some names => (evaluate fuel body).run' { inner := names ++ known, isInner := true }
      | none => .error .meaningless
    | .bound f _ "__call__" => call fuel scope f arguments
    | .field _ _ "__call__" =>
      match arguments.placed with
      | f :: placed => call fuel scope f { arguments with placed := placed }
      | [] => .error .meaningless
    | f =>
      let read := fun source =>
        match term? (String.ofList (source.toList.dropWhile isSpacing)) with
        | some t => (evaluate fuel t).run' scope
        | none => .error .unreadable
      called (fun f placed => call fuel scope f ⟨placed, []⟩) read f arguments
end

/-- How deep terms and calls may be. -/
def depthLimit : Nat := 5000

/-- What a term stands for on its own. -/
def meaningOf (t : Term) : Outcome := (evaluate depthLimit t).run' {}

end PagedQuery.Expression
