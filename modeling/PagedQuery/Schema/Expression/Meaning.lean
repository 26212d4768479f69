import PagedQuery.Number.Binary64
import PagedQuery.Schema.Expression.Term
import PagedQuery.Schema.FieldType
import PagedQuery.Text.Quoted

/-!
# Meanings of type expressions

What terms stand for: types, the values that types are made with, functions, and things of which
only the class counts. What gives items one by one is kept with all of them, and with the fault that
comes after the last one, if any.
-/

namespace PagedQuery

open PagedQuery.Number PagedQuery.Text

/-- Why an expression gives no type. -/
inductive ExpressionError
  /-- A name that is not known, or an operation that its operands do not have. -/
  | meaningless
  | malformed (source : String)
  /-- A text to be read in turn that is no expression. -/
  | unreadable
  | empty
  | zeroCharacter
  /-- A field that something does not have. -/
  | noField (owner field : String)
  /-- A place that a sequence does not have. -/
  | noItem (sequence : String)
  /-- An item that cannot be taken out. -/
  | badRange (message : String)
  | noKey (shown : String)
  /-- A value that a text has a place for. -/
  | noPlace (i : Nat)
  | division (message : String)
  | tooLarge (message : String)
  | badValue (message : String)
  /-- A further item of something that has none left. -/
  | exhausted
  | outsideOfMethod
  | unknownLibrary (name : String)
  | unknownEncoding (name : String)
  | notDecodable (message : String)
  | notEncodable (message : String)
  /-- Functions that call each other without an end. -/
  | tooDeep
  deriving Repr, DecidableEq

def ExpressionError.message : ExpressionError → String
  | .meaningless => "no meaning"
  | .malformed source => "Forward reference must be an expression -- got " ++ quoted source
  | .unreadable => "invalid syntax (<string>, line 1)"
  | .empty => "string index out of range"
  | .zeroCharacter => "source code string cannot contain null bytes"
  | .noField owner field => owner ++ " has no attribute '" ++ field ++ "'"
  | .noItem "bytes" => "index out of range"
  | .noItem sequence => sequence ++ " index out of range"
  | .noKey shown => shown
  | .noPlace i => "Replacement index " ++ toString i ++ " out of range for positional args tuple"
  | .badRange message | .division message | .tooLarge message | .badValue message
  | .notDecodable message | .notEncodable message => message
  | .exhausted => ""
  | .outsideOfMethod => "super(): no arguments"
  | .unknownLibrary name => "No module named " ++ quoted name
  | .unknownEncoding name => "unknown encoding: " ++ name
  | .tooDeep => "maximum recursion depth exceeded"

namespace Expression

/-- What the fields of a class are. -/
inductive FieldKind
  | computed
  | stored
  | method
  | operator
  | function
  deriving Repr, DecidableEq, Inhabited

/-- The class of a field that is taken from a class. -/
def FieldKind.className : FieldKind → String
  | .computed => "getset_descriptor"
  | .stored => "member_descriptor"
  | .method => "method_descriptor"
  | .operator => "wrapper_descriptor"
  | .function => "builtin_function_or_method"

/-- How messages show a field that is taken from a class. -/
def FieldKind.shown (owner name : String) : FieldKind → String
  | .computed => "<attribute '" ++ name ++ "' of '" ++ owner ++ "' objects>"
  | .stored => "<member '" ++ name ++ "' of '" ++ owner ++ "' objects>"
  | .method => "<method '" ++ name ++ "' of '" ++ owner ++ "' objects>"
  | .operator => "<slot wrapper '" ++ name ++ "' of '" ++ owner ++ "' objects>"
  | .function => "<built-in method " ++ name ++ " of type object>"

inductive Meaning
  /-- A class, a container with element types, or one of several types. -/
  | type (t : FieldType)
  | none
  | ellipsis
  | bool (b : Bool)
  | int (n : Int)
  | float (x : Float)
  | text (s : String)
  | bytes (bs : List UInt8)
  | tuple (items : List Meaning)
  | list (items : List Meaning)
  | set (frozen : Bool) (items : List Meaning)
  | dict (keys values : List Meaning)
  /-- The numbers from one on, up to another one. -/
  | progression (start stop step : Int)
  /-- Items one by one, and the fault after the last one. -/
  | stream (className : String) (items : List Meaning) (fault : Option ExpressionError)
  /-- The element types of a container, to be spread out. -/
  | spread (t : FieldType)
  | range (start stop step : Meaning)
  | builtin (name : String)
  | library (name : String)
  /-- A field of the values of a class. -/
  | field (kind : FieldKind) (owner name : String)
  /-- A field of a value that works on it. -/
  | bound (value : Meaning) (kind : FieldKind) (name : String)
  /-- A function, the values of its parameters that are given none, and the names known to it. -/
  | function (parameters : List Term) (body : Term) (defaults known : List (String × Meaning))
  /-- A fault that has not happened. -/
  | failure (className : String) (arguments : List Meaning)
  /-- Something of which only the class is known. -/
  | thing (className : String)
  deriving Inhabited

namespace Meaning

/-- The class of a field that is taken from a value of a class. -/
def boundName : FieldKind → String
  | .operator => "method-wrapper"
  | _ => "builtin_function_or_method"

/-- The name of the class. -/
def className : Meaning → String
  | .type t => t.formName
  | .none => "NoneType"
  | .ellipsis => "ellipsis"
  | .bool _ => "bool"
  | .int _ => "int"
  | .float _ => "float"
  | .text _ => "str"
  | .bytes _ => "bytes"
  | .tuple _ => "tuple"
  | .list _ => "list"
  | .set frozen _ => if frozen then "frozenset" else "set"
  | .dict .. => "dict"
  | .progression .. => "range"
  | .stream className .. => className
  | .spread _ => "GenericAlias"
  | .range .. => "slice"
  | .builtin _ => "builtin_function_or_method"
  | .library _ => "module"
  | .field kind .. => kind.className
  | .bound _ kind _ => boundName kind
  | .function .. => "function"
  | .failure className _ => className
  | .thing c => c

/-- Whether what gives items one by one is a view of a dictionary, which has a length. -/
def isView (className : String) : Bool :=
  ["dict_keys", "dict_values", "dict_items"].contains className

/-- How many numbers a progression has. -/
def progressionLength (start stop step : Int) : Nat :=
  if 0 < step then if start < stop then ((stop - start - 1) / step + 1).toNat else 0
  else if step < 0 then if stop < start then ((start - stop - 1) / (-step) + 1).toNat else 0
  else 0

/-- Whether a condition holds that it stands for. -/
def isTrue : Meaning → Bool
  | .none => false
  | .bool b => b
  | .int n => n != 0
  | .float x => x != 0.0
  | .text s => s != ""
  | .bytes bs => !bs.isEmpty
  | .tuple items | .list items | .set _ items => !items.isEmpty
  | .dict keys _ => !keys.isEmpty
  | .progression start stop step => progressionLength start stop step != 0
  | .stream c items _ => !(isView c && items.isEmpty)
  | _ => true

mutual
/-- How messages show it. -/
def shown : Meaning → String
  | .type t =>
    match t with
    | .generic .. | .union .. => t.display
    | .nothing => "<class 'NoneType'>"
    | t => "<class '" ++ t.display ++ "'>"
  | .none => "None"
  | .ellipsis => "Ellipsis"
  | .bool b => if b then "True" else "False"
  | .int n => toString n
  | .float x => floatText x
  | .text s => quoted s
  | .bytes bs => quotedBytes bs
  | .tuple [item] => "(" ++ item.shown ++ ",)"
  | .tuple items => "(" ++ String.intercalate ", " (shownAll items) ++ ")"
  | .list items => "[" ++ String.intercalate ", " (shownAll items) ++ "]"
  | .set frozen items =>
    let shown := String.intercalate ", " (shownAll items)
    if items.isEmpty then (if frozen then "frozenset()" else "set()")
    else if frozen then "frozenset(\x7b" ++ shown ++ "\x7d)"
    else "\x7b" ++ shown ++ "\x7d"
  | .progression start stop step =>
    "range(" ++ String.intercalate ", " ([start, stop].map toString ++
      (if step = 1 then [] else [toString step])) ++ ")"
  | .stream c items _ =>
    if isView c then c ++ "([" ++ String.intercalate ", " (shownAll items) ++ "])"
    else "<" ++ c ++ " object>"
  | .dict keys values =>
    "\x7b" ++ String.intercalate ", " (shownPairs (shownAll keys) (shownAll values)) ++ "\x7d"
  | .spread t => "*" ++ t.display
  | .range start stop step =>
    "slice(" ++ String.intercalate ", " [start.shown, stop.shown, step.shown] ++ ")"
  | .builtin name => "<built-in function " ++ name ++ ">"
  | .library name => "<module '" ++ name ++ "'>"
  | .field kind owner name => kind.shown owner name
  | .failure c arguments => c ++ "(" ++ String.intercalate ", " (shownAll arguments) ++ ")"
  | .function .. => "<function <lambda>>"
  | .bound _ _ name => "<built-in method " ++ name ++ ">"
  | .thing "NotImplementedType" => "NotImplemented"
  | .thing c => "<" ++ c ++ " object>"
def shownAll : List Meaning → List String
  | [] => []
  | m :: ms => m.shown :: shownAll ms
/-- Entries of a dictionary. -/
def shownPairs : List String → List String → List String
  | k :: ks, v :: vs => (k ++ ": " ++ v) :: shownPairs ks vs
  | _, _ => []
end

mutual
/-- Whether it can be a key. -/
def isKey : Meaning → Bool
  | .list _ | .dict .. | .range .. | .set false _ => false
  | .stream c .. => c != "dict_keys" && c != "dict_items"
  | .tuple items => areKeys items
  | .type t | .spread t => t.isKey
  | .thing c => c != "bytearray"
  | _ => true
def areKeys : List Meaning → Bool
  | [] => true
  | m :: ms => m.isKey && areKeys ms
end

/-- The number that it is, truth values among them. -/
def whole? : Meaning → Option Int
  | .bool b => some (if b then 1 else 0)
  | .int n => some n
  | _ => Option.none

def floatOfInt (n : Int) : Float :=
  let x := floatOfDecimal n.natAbs 0
  if n < 0 then -x else x

def float? : Meaning → Option Float
  | .float x => some x
  | m => m.whole?.map floatOfInt

mutual
/-- Whether two are the same or equal. The items of sets have no order. -/
def same : Meaning → Meaning → Bool
  | .type t, .type u => FieldType.same t u
  | .none, .none | .ellipsis, .ellipsis => true
  | .text s, .text t => s == t
  | .bytes bs, .bytes cs => bs == cs
  | .tuple ms, .tuple ns | .list ms, .list ns => sameAll ms ns
  | .set _ ms, .set _ ns => ms.length == ns.length && eachIn ms ns
  | .builtin a, .builtin b | .library a, .library b => a == b
  | .field _ a f, .field _ b g => a == b && f == g
  | .progression a b c, .progression d e f => a == d && b == e && c == f
  | m, n =>
    match m.whole?, n.whole? with
    | some a, some b => a == b
    | _, _ =>
      match m.float?, n.float? with
      | some x, some y => x == y
      | _, _ => false
def sameAll : List Meaning → List Meaning → Bool
  | [], [] => true
  | m :: ms, n :: ns => same m n && sameAll ms ns
  | _, _ => false
/-- Whether each item of the first list is one of the second. -/
def eachIn : List Meaning → List Meaning → Bool
  | [], _ => true
  | m :: ms, ns => ns.any (same m) && eachIn ms ns
end

/-- The value under a key, the last of equal keys counting. -/
def entryOf : List Meaning → List Meaning → Meaning → Option Meaning
  | k :: ks, v :: vs, key =>
    match entryOf ks vs key with
    | some found => some found
    | Option.none => if same k key then some v else Option.none
  | _, _, _ => Option.none

/-- The items with the first of equal ones. -/
def distinct (items : List Meaning) : List Meaning :=
  items.foldl (fun seen m => if seen.any (same · m) then seen else seen ++ [m]) []

/-- A dictionary: of equal keys the first one stays, with the value of the last one. -/
def ofEntries (keys values : List Meaning) : Meaning :=
  let kept := distinct keys
  .dict kept (kept.map fun k => (entryOf keys values k).getD .none)

/-- The numbers of progressions that are worked out one by one. -/
def progressionLimit : Nat := 100000

/-- The numbers of a progression. -/
def progressionItems (start stop step : Int) : List Meaning :=
  (List.range (progressionLength start stop step)).map fun (i : Nat) =>
    .int (start + step * i)

/-- The items one after the other with the fault after the last one, if it has items. -/
def supply? : Meaning → Option (List Meaning × Option ExpressionError)
  | .tuple items | .list items | .set _ items => some (items, Option.none)
  | .stream _ items fault => some (items, fault)
  | .dict keys _ => some (keys, Option.none)
  | .text s => some (s.toList.map fun c => .text c.toString, Option.none)
  | .bytes bs => some (bs.map fun b => .int b.toNat, Option.none)
  | .progression start stop step =>
    if progressionLength start stop step ≤ progressionLimit then
      some (progressionItems start stop step, Option.none)
    else some ([], some .meaningless)
  | .type (.generic a c ts) => some ([.spread (.generic a c ts)], Option.none)
  | _ => Option.none

/-- All items, if there are such and no fault comes among them. -/
def items (m : Meaning) : Except ExpressionError (List Meaning) :=
  match m.supply? with
  | some (items, Option.none) => .ok items
  | some (_, some fault) => .error fault
  | Option.none => .error .meaningless

/-- What stands in the place of a type. -/
def toThing (m : Meaning) : Thing where
  className := m.className
  shown := m.shown
  name? := match m with
    | .builtin name | .library name | .field _ _ name | .bound _ _ name => some name
    | .function .. => some "<lambda>"
    | _ => Option.none
  isKey := m.isKey

/-- The type of elements that it gives a container. A text is looked up later. -/
def element : Meaning → FieldType
  | .type t => t
  | .none => .missing
  | .text s => .expression s
  | .spread t => .generic false (.other "Unpack") [t]
  | m => .thing m.toThing

end Meaning

end Expression

end PagedQuery
