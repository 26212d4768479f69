import PagedQuery.Schema.Expression.Method

/-!
# Functions and classes in type expressions

What the known functions give of arguments, and the values that classes make of them. Functions
that take functions are given a way to apply these.
-/

namespace PagedQuery.Expression

open PagedQuery.Number PagedQuery.Text

/-- What is made of a function with arguments given by place. -/
abbrev Application := Meaning → List Meaning → Outcome

/-! ## Classes of values -/

/-- The class that stands for a value, where it is one that values can be of. -/
def lineageNames (m : Meaning) : List String := (lineage (classOf m)).map FieldType.label

mutual
/-- Whether a class, given by all that it extends, is one of those that a value stands for. -/
def isOneOf (names : List String) : Meaning → Except ExpressionError Bool
  | .type t =>
    match t with
    | .generic .. | .bare _ | .any => .error .meaningless
    | .union _ members => .ok (members.any fun t => names.contains t.label)
    | t => .ok (names.contains t.label)
  | .tuple ms => isOneOfAny names ms
  | _ => .error .meaningless
def isOneOfAny (names : List String) : List Meaning → Except ExpressionError Bool
  | [] => .ok false
  | m :: ms => do if ← isOneOf names m then return true else isOneOfAny names ms
end

/-! ## Numbers -/

/-- The integer of an argument. -/
def toWhole (m : Meaning) : Outcome :=
  let read := fun (s shown : String) =>
    match readLoose s with
    | .ok n => .ok (.int n)
    | .error .malformed =>
      .error (.badValue ("invalid literal for int() with base 10: " ++ shown))
    | .error e => .error (.badValue e.message)
  match m with
  | .text s => read s (quotedWithin 200 s)
  | .bytes bs => read (String.ofList (bs.map fun b => Char.ofNat b.toNat)) (quotedBytes bs)
  | m => (cutToWhole m).map .int

/-- The base that the digits of a text are marked with. -/
def markedBase (s : String) : Nat :=
  match ((stripList isNumberBlank s.toList).dropWhile fun c => c == '-' || c == '+') with
  | '0' :: mark :: _ =>
    ([2, 8, 16].find? fun base => baseMark? base == some mark.toLower).getD 10
  | _ => 10

/-- The integer of a text in a base. -/
def toWholeIn (m base : Meaning) : Outcome :=
  match base.whole?, m with
  | none, _ => .error .meaningless
  | some base, m =>
    if base < 0 ∨ base = 1 ∨ 36 < base then
      .error (.badValue "int() base must be >= 2 and <= 36, or 0")
    else
      match m with
      | .text s =>
        match readIn (if base = 0 then markedBase s else base.toNat) s with
        | .ok n => .ok (.int n)
        | .error .malformed => .error (.badValue (literalMessage base.toNat s))
        | .error e => .error (.badValue e.message)
      | _ => .error .meaningless

/-- The float of an argument. -/
def toFloat (m : Meaning) : Outcome :=
  let read := fun (s shown : String) =>
    match readFloat? s with
    | some x => .ok (.float x)
    | none => .error (.badValue ("could not convert string to float: " ++ shown))
  match m, m.float? with
  | _, some x => .ok (.float x)
  | .text s, _ => read s (quoted s)
  | .bytes bs, _ => read (String.ofList (bs.map fun b => Char.ofNat b.toNat)) (quotedBytes bs)
  | _, _ => .error .meaningless

/-- The complex number of arguments. -/
def toComplex (arguments : List Meaning) : Outcome :=
  let isNumber := fun m : Meaning => m.float?.isSome || m.className == "complex"
  match arguments with
  | [.text s] =>
    let isPart := fun c : Char => c.isDigit || "+-.eEjJ() ".toList.contains c
    if !s.isEmpty ∧ s.toList.all isPart then .ok (.thing "complex")
    else .error (.badValue "complex() arg is a malformed string")
  | ms =>
    if ms.length ≤ 2 ∧ ms.all isNumber then .ok (.thing "complex") else .error .meaningless

/-- A float rounded to a whole number, a half to the even neighbour. -/
def roundedToWhole (x : Float) : Except ExpressionError Int := do
  let down ← cutToWhole (.float x.floor)
  let rest := x - x.floor
  if rest < 0.5 then return down
  else if 0.5 < rest then return down + 1
  else return down + down % 2

/-- A number rounded to a number of digits after the point. -/
def rounded (m : Meaning) (places? : Option Int) : Outcome :=
  match m, m.whole?, places? with
  | _, some n, none => .ok (.int n)
  | _, some n, some places => .ok (if 0 ≤ places then .int n else .thing "int")
  | .float x, none, none => (roundedToWhole x).map .int
  | .float x, none, some places =>
    if places < 0 ∨ 300 < places then .ok (.thing "float")
    else
      let (negative, digits) := fixedText places.toNat x
      let y := (readFloat? digits).getD x
      .ok (.float (if negative then -y else y))
  | _, _, _ => .error .meaningless

/-- A power modulo a number, by repeated squares. -/
def powerModulo (modulus : Nat) : Nat → Nat → Nat → Nat
  | 0, _, _ => 1 % modulus
  | fuel + 1, base, exponent =>
    if exponent = 0 then 1 % modulus
    else
      let half := powerModulo modulus fuel (base * base % modulus) (exponent / 2)
      if exponent % 2 = 1 then half * base % modulus else half

/-- A power modulo a number that may be negative. -/
def wholePowerModulo (a b c : Int) : Outcome :=
  if c = 0 then .error (.badValue "pow() 3rd argument cannot be 0")
  else if b < 0 then
    if Nat.gcd a.natAbs c.natAbs = 1 then .ok (.thing "int")
    else .error (.badValue "base is not invertible for the given modulus")
  else
    let power := powerModulo c.natAbs (Nat.log2 b.natAbs + 2) (Int.emod a c.natAbs).toNat b.natAbs
    .ok (.int (Int.fmod power c))

/-- The digits of a number in a base, with the mark of the base. -/
def markedDigits (form : Char) (m : Meaning) : Outcome :=
  match m.whole? with
  | some n =>
    ({ marked := true, form? := some form : Layout }.ofWhole n).map .text
  | none => .error .meaningless

/-! ## Items -/

/-- The items made of others one after the other, up to the first fault. -/
def produced (make : Meaning → List Meaning × Option ExpressionError) :
    List Meaning → Option ExpressionError → List Meaning × Option ExpressionError
  | [], fault? => ([], fault?)
  | m :: ms, fault? =>
    match make m with
    | (made, none) =>
      let (more, fault?) := produced make ms fault?
      (made ++ more, fault?)
    | (made, some fault) => (made, some fault)

/-- The items of several sources side by side, up to the end of the shortest one. -/
def sideBySide : List (List Meaning) → List (List Meaning)
  | [] => []
  | [items] => items.map ([·])
  | items :: more => List.zipWith (· :: ·) items (sideBySide more)

/-- Items that a class makes of several sources side by side. -/
def streamOf (className : String) (sources : List Meaning)
    (make : List Meaning → Except ExpressionError (List Meaning)) : Outcome :=
  match sources.mapM Meaning.supply? with
  | none => .error .meaningless
  | some supplies =>
    let rows := (sideBySide (supplies.map (·.1))).map Meaning.tuple
    let makeOf := fun (m : Meaning) =>
      match make (match m with | .tuple row => row | _ => []) with
      | .ok made => (made, none)
      | .error fault => ([], some fault)
    let (items, fault?) := produced makeOf rows (supplies.findSome? (·.2))
    .ok (.stream className items fault?)

/-- Whether some item is true, or all are; items after the first one that settles it do not
count. -/
def settled (wanted : Bool) (m : Meaning) : Outcome :=
  match m.supply? with
  | none => .error .meaningless
  | some (items, fault?) =>
    if items.any (·.isTrue == wanted) then .ok (.bool wanted)
    else
      match fault? with
      | some fault => .error fault
      | none => .ok (.bool !wanted)

/-- An item put into its place among sorted ones. -/
def insertSorted (less : Meaning → Meaning → Except ExpressionError Bool) (m : Meaning) :
    List Meaning → Except ExpressionError (List Meaning)
  | [] => .ok [m]
  | n :: ns => do
    if ← less m n then return m :: n :: ns
    else return n :: (← insertSorted less m ns)

/-- What items are compared by: themselves, or what a function makes of them. -/
def comparedBy (apply : Application) (key? : Option Meaning) (m : Meaning) : Outcome :=
  match key? with
  | none | some .none => .ok m
  | some f => apply f [m]

/-- Items with what they are compared by, as pairs. -/
def keyed (apply : Application) (key? : Option Meaning) (items : List Meaning) :
    Except ExpressionError (List Meaning) :=
  items.mapM fun m => do return .tuple [← comparedBy apply key? m, m]

/-- Whether the first of two pairs comes before the second one. -/
def pairLess (m n : Meaning) : Except ExpressionError Bool :=
  match m, n with
  | .tuple (k :: _), .tuple (l :: _) => compared "<" k l
  | _, _ => .error .meaningless

/-- The second part of a pair. -/
def pairValue : Meaning → Meaning
  | .tuple [_, m] => m
  | m => m

/-- Items in order. -/
def sorted (apply : Application) (key? : Option Meaning) (turned : Bool) (items : List Meaning) :
    Outcome := do
  let pairs ← keyed apply key? items
  let pairs := if turned then pairs.reverse else pairs
  let inOrder ← pairs.foldlM (fun done m => insertSorted pairLess m done) []
  let values := inOrder.map pairValue
  return .list (if turned then values.reverse else values)

/-- The first of the least or greatest items. -/
def extreme (apply : Application) (name : String) (arguments : Arguments) : Outcome := do
  let default? := arguments.named.lookup "default"
  let items ←
    match arguments.placed with
    | [m] => m.items
    | [] => throw .meaningless
    | ms => if default?.isSome then throw .meaningless else pure ms
  match ← keyed apply (arguments.named.lookup "key") items with
  | [] =>
    match default? with
    | some m => return m
    | none => throw (.badValue (name ++ "() arg is an empty sequence"))
  | first :: rest =>
    let best ← rest.foldlM (fun best m => do
      let better ← if name = "min" then pairLess m best else pairLess best m
      return if better then m else best) first
    return pairValue best

/-- The class of what goes through a sequence backward, if it has an order. -/
def backwardName? : Meaning → Option String
  | .list _ => some "list_reverseiterator"
  | .text _ | .bytes _ | .tuple _ => some "reversed"
  | .progression .. => some "range_iterator"
  | .dict .. => some "dict_reversekeyiterator"
  | .stream "dict_keys" .. => some "dict_reversekeyiterator"
  | .stream "dict_values" .. => some "dict_reversevalueiterator"
  | .stream "dict_items" .. => some "dict_reverseitemiterator"
  | _ => none

/-! ## Values of classes -/

/-- The bytes of arguments. -/
def toBytes (arguments : List Meaning) : Outcome :=
  match arguments with
  | [] => .ok (.bytes [])
  | .text s :: encoding => do
    if encoding.isEmpty then throw .meaningless
    let (encoding, policy?) ← encodingArguments encoding
    encoded s encoding policy?
  | [.bytes bs] => .ok (.bytes bs)
  | [m] =>
    match m.whole? with
    | some n =>
      if n < 0 then .error (.badValue "negative count")
      else if copyLimit < n then .ok (.thing "bytes")
      else .ok (.bytes (List.replicate n.toNat 0))
    | none => do
      let codes ← (← m.items).mapM fun m =>
        match m.whole? with
        | some n =>
          if 0 ≤ n ∧ n < 256 then .ok (UInt8.ofNat n.toNat)
          else .error (.badValue "bytes must be in range(0, 256)")
        | none => .error .meaningless
      return .bytes codes
  | _ => .error .meaningless

/-- The dictionary of arguments. -/
def toDict (arguments : Arguments) : Outcome := do
  let (keys, values) ←
    match arguments.placed with
    | [] => pure ([], [])
    | [.dict keys values] => pure (keys, values)
    | [m] => entriesOf 0 (← m.items)
    | _ => throw .meaningless
  if Meaning.areKeys keys then
    return Meaning.ofEntries (keys ++ arguments.named.map fun (name, _) => .text name)
      (values ++ arguments.named.map (·.2))
  else throw .meaningless

/-- The text of arguments. -/
def toText (arguments : List Meaning) : Outcome :=
  match arguments with
  | [] => .ok (.text "")
  | [m] => .ok (.text (textOf m))
  | .bytes bs :: encoding => do
    let (encoding, policy?) ← encodingArguments encoding
    decoded bs encoding policy?
  | _ => .error .meaningless

/-- A progression of one to three numbers. -/
def toProgression (arguments : List Meaning) : Outcome :=
  match arguments.mapM Meaning.whole? with
  | some [stop] => .ok (.progression 0 stop 1)
  | some [start, stop] => .ok (.progression start stop 1)
  | some [start, stop, step] =>
    if step = 0 then .error (.badValue "range() arg 3 must not be zero")
    else .ok (.progression start stop step)
  | _ => .error .meaningless

/-- A class made of a name, the classes that it extends and its fields. -/
def madeClass (name : String) (bases : List Meaning) : Outcome :=
  if name.toList.contains '\x00' then
    .error (.badValue "type name must not contain null characters")
  else if bases.all fun m => Meaning.same m (.type .object) then .ok (.type (.foreign name))
  else .error .meaningless

/-- Classes whose values are made of any arguments of a number, of which nothing else is known. -/
def makersOfThings : List (String × List Nat) :=
  [("object", [0]), ("classmethod", [1]), ("staticmethod", [1]), ("memoryview", [1]),
   ("property", [0, 1, 2, 3, 4])]

/-- Classes that give no values when they are called. -/
def makersOfNothing : List String :=
  ["GenericAlias", "UnionType", "builtin_function_or_method", "code", "function", "generator",
   "getset_descriptor", "mappingproxy", "member_descriptor", "method-wrapper",
   "method_descriptor", "module", "wrapper_descriptor"]

/-- The value that a class makes of arguments. -/
def construct (apply : Application) (t : FieldType) (arguments : Arguments) : Outcome :=
  let placed := arguments.placed
  let className? :=
    match t with
    | .generic false c _ => some c.className
    | .generic true .. | .union .. | .bare _ | .any => none
    | t => some t.label
  match className?.getD "", placed with
  | "NoneType", [] => .ok .none
  | "type", [m] => .ok (.type (classOf m))
  | "type", [.text name, .tuple bases, .dict ..] => madeClass name bases
  | "int", [] => .ok (.int 0)
  | "int", [m] =>
    match arguments.named.lookup "base" with
    | none => toWhole m
    | some base => toWholeIn m base
  | "int", [m, base] => toWholeIn m base
  | "float", [] => .ok (.float 0.0)
  | "float", [m] => toFloat m
  | "bool", [] => .ok (.bool false)
  | "bool", [m] => .ok (.bool m.isTrue)
  | "str", _ => toText (arguments.inOrder ["object", "encoding", "errors"])
  | "bytes", _ => toBytes (arguments.inOrder ["source", "encoding", "errors"])
  | "bytearray", _ => (toBytes placed).map fun _ => .thing "bytearray"
  | "complex", _ => toComplex (arguments.inOrder ["real", "imag"])
  | "list", [] => .ok (.list [])
  | "list", [m] => m.items.map .list
  | "tuple", [] => .ok (.tuple [])
  | "tuple", [m] => m.items.map .tuple
  | "set", [] | "frozenset", [] => .ok (.set (t.label == "frozenset") [])
  | "set", [m] | "frozenset", [m] => do
    let items ← m.items
    if Meaning.areKeys items then return .set (t.label == "frozenset") (Meaning.distinct items)
    else throw .meaningless
  | "dict", _ => toDict arguments
  | "range", _ => toProgression placed
  | "slice", [stop] => .ok (.range .none stop .none)
  | "slice", [start, stop] => .ok (.range start stop .none)
  | "slice", [start, stop, step] => .ok (.range start stop step)
  | "super", [] => .error .outsideOfMethod
  | "super", _ => .ok (.thing "super")
  | "enumerate", _ =>
    let numbered := fun (m : Meaning) (first : Int) =>
      match m.supply? with
      | some (items, fault?) =>
        .ok (.stream "enumerate" (items.mapIdx fun i m => .tuple [.int (first + i), m]) fault?)
      | none => .error ExpressionError.meaningless
    match arguments.inOrder ["iterable", "start"] with
    | [m] => numbered m 0
    | [m, start] => (start.whole?.map (numbered m)).getD (.error .meaningless)
    | _ => .error .meaningless
  | "zip", sources => streamOf "zip" sources fun row => .ok [.tuple row]
  | "map", f :: source :: sources =>
    streamOf "map" (source :: sources) fun row => do return [← apply f row]
  | "filter", [f, source] =>
    streamOf "filter" [source] fun row => do
      let m := row.head?.getD .none
      let kept ←
        match f with
        | .none => pure m
        | f => apply f [m]
      return if kept.isTrue then [m] else []
  | "reversed", [m] =>
    match backwardName? m, m.supply? with
    | some name, some (items, fault?) => .ok (.stream name items.reverse fault?)
    | _, _ => .error .meaningless
  | name, placed =>
    if faultClasses.contains name then
      match needsArguments.contains name, placed with
      | false, placed => .ok (.failure name placed)
      | true, [.text message, m] => do
        if (← m.items).isEmpty then
          throw (.badValue "second argument (exceptions) must be a non-empty sequence")
        else return .failure name [.text message, m]
      | true, _ => .error .meaningless
    else
      match makersOfThings.lookup name with
      | some counts =>
        if counts.contains placed.length then .ok (.thing name) else .error .meaningless
      | none =>
        match t with
        | .foreign name =>
          if name = "ellipsis" then .ok .ellipsis
          else if otherClasses.contains name ∨ makersOfNothing.contains name then
            .error .meaningless
          else .ok (.thing name)
        | _ => .error .meaningless

/-! ## Functions -/

/-- A library that is asked for by name. -/
def imported (name : String) : Outcome :=
  let first := (split '.' name).headD ""
  if name = "" then .error (.badValue "Empty module name")
  else if libraries.contains first then .ok (.library first)
  else .error (.unknownLibrary first)

/-- Whether something can be called. -/
def isCallable : Meaning → Bool
  | .type (.union ..) => false
  | .type _ | .builtin _ | .bound .. | .function .. => true
  | .field kind .. => kind != .computed && kind != .stored
  | .thing c => ["Quitter", "_Printer", "_Helper", "method-wrapper"].contains c
  | _ => false

/-- What a known function gives of arguments. `read` is what a text stands for. -/
def applied (apply : Application) (read : String → Outcome) (name : String)
    (arguments : Arguments) : Outcome :=
  match name, arguments.placed with
  | "print", _ => .ok .none
  | "__import__", .text name :: _ => imported name
  | "eval", .text source :: _ => read source
  | "exec", .text _ :: _ => .ok .none
  | "compile", [.text source, .text _, .text mode] =>
    if ["exec", "single"].contains mode then .ok (.thing "code")
    else if mode = "eval" then (read source).map fun _ => .thing "code"
    else .error (.badValue "compile() mode must be 'exec', 'eval' or 'single'")
  | "len", [m] =>
    match m with
    | .progression a b c => .ok (.int (Meaning.progressionLength a b c))
    | .type _ => .error .meaningless
    | .stream c items _ =>
      if Meaning.isView c then .ok (.int items.length)
      else .error .meaningless
    | m => m.items.map fun items => .int items.length
  | "repr", [m] => .ok (.text m.shown)
  | "ascii", [m] => .ok (.text (asciiText m))
  | "format", [m] => .ok (.text (textOf m))
  | "format", [m, .text spelled] => (laidOut m spelled).map .text
  | "chr", [m] =>
    match m.whole? with
    | some n =>
      if n < 0 ∨ 0x110000 ≤ n then .error (.badValue "chr() arg not in range(0x110000)")
      else .ok (.text (Char.ofNat n.toNat).toString)
    | none => .error .meaningless
  | "ord", [.text s] =>
    match s.toList with
    | [c] => .ok (.int c.toNat)
    | _ => .error .meaningless
  | "ord", [.bytes [b]] => .ok (.int b.toNat)
  | "abs", [m] =>
    match m.whole?, m.float? with
    | some n, _ => .ok (.int n.natAbs)
    | _, some x => .ok (.float x.abs)
    | _, _ => if m.className = "complex" then .ok (.thing "float") else .error .meaningless
  | "bin", [m] => markedDigits 'b' m
  | "oct", [m] => markedDigits 'o' m
  | "hex", [m] => markedDigits 'x' m
  | "divmod", [m, n] =>
    match m.whole?, n.whole?, n.float? with
    | none, _, some y | _, none, some y =>
      if y == 0.0 ∧ m.float?.isSome then .error (.division "float divmod()")
      else pairOf (binary "//" m n) (binary "%" m n)
    | _, _, _ => pairOf (binary "//" m n) (binary "%" m n)
  | "pow", [m, n] => binary "**" m n
  | "pow", [m, n, modulus] =>
    match m.whole?, n.whole?, modulus.whole? with
    | some a, some b, some c => wholePowerModulo a b c
    | _, _, _ => if Meaning.same modulus .none then binary "**" m n else .error .meaningless
  | "round", _ =>
    match arguments.inOrder ["number", "ndigits"] with
    | [m] | [m, .none] => rounded m none
    | [m, places] => if places.whole?.isSome then rounded m places.whole? else .error .meaningless
    | _ => .error .meaningless
  | "sum", _ =>
    match arguments.inOrder ["iterable", "start"] with
    | m :: start => do
      match start.head?.getD (.int 0) with
      | .text _ | .bytes _ => throw .meaningless
      | start => (← m.items).foldlM (binary "+") start
    | [] => .error .meaningless
  | "min", _ | "max", _ => extreme apply name arguments
  | "any", [m] => settled true m
  | "all", [m] => settled false m
  | "sorted", [m] => do
    sorted apply (arguments.named.lookup "key")
      (((arguments.named.lookup "reverse").map Meaning.isTrue).getD false) (← m.items)
  | "iter", [m] => iterator m
  | "iter", [f, _] => if isCallable f then .ok (.thing "callable_iterator") else .error .meaningless
  | "next", [m] => firstOf m
  | "next", [m, default] =>
    match firstOf m with
    | .error .exhausted => .ok default
    | found => found
  | "callable", [m] => .ok (.bool (isCallable m))
  | "hash", [m] => if m.isKey then .ok (.thing "int") else .error .meaningless
  | "id", [_] => .ok (.thing "int")
  | "dir", _ => .ok (.thing "list")
  | "globals", [] | "locals", [] | "vars", [] => .ok (.thing "dict")
  | "isinstance", [m, classes] => (isOneOf (lineageNames m) classes).map .bool
  | "issubclass", [.type t, classes] =>
    (isOneOf ((lineage t).map FieldType.label) classes).map .bool
  | "getattr", [m, .text field] => fieldOf m field
  | "getattr", [m, .text field, default] =>
    match fieldOf m field with
    | .error (.noField ..) => .ok default
    | found => found
  | "hasattr", [m, .text field] =>
    match fieldOf m field with
    | .error (.noField ..) => .ok (.bool false)
    | .error e => .error e
    | .ok _ => .ok (.bool true)
  | _, _ => .error .meaningless
where
  pairOf (first second : Outcome) : Outcome := do
    let first ← first
    return .tuple [first, ← second]

/-- What a function of a class gives that works on no value. -/
def classMethod (apply : Application) (owner name : String) (arguments : Arguments) : Outcome :=
  match name, arguments.placed with
  | "__new__", .type t :: placed =>
    if ((lineage t).map FieldType.label).contains owner then
      construct apply t ⟨placed, arguments.named⟩
    else .error .meaningless
  | "__class_getitem__", [m] => itemOf (.type (classNamed owner)) m
  | "__subclasshook__", [_] => .ok notDefined
  | "__init_subclass__", [] => .ok .none
  | "fromkeys", m :: value => do
    let keys ← m.items
    if Meaning.areKeys keys then
      return Meaning.ofEntries keys (keys.map fun _ => value.head?.getD .none)
    else throw .meaningless
  | "maketrans", [.dict ..] => .ok (.thing "dict")
  | "maketrans", .text a :: .text b :: _ =>
    if a.length = b.length then .ok (.thing "dict")
    else .error (.badValue "the first two maketrans arguments must have equal length")
  | "from_bytes", m :: order => do
    let withSign := ((arguments.named.lookup "signed").map Meaning.isTrue).getD false
    let order := (order.head?.orElse fun _ => arguments.named.lookup "byteorder").getD (.text "big")
    let turned ← smallEndFirst order
    match ← toBytes [m] with
    | .bytes bs => return .int (wholeOfBytes (if turned then bs.reverse else bs) withSign)
    | _ => throw .meaningless
  | "fromhex", [.text s] =>
    if owner = "float" then .ok (.thing "float")
    else
      let digits := s.toList.filter (!isBlank ·)
      match digits.mapM hexValue? with
      | some values =>
        if values.length % 2 = 0 then .ok (.bytes (pairUp values)) else notHex digits
      | none => notHex digits
  | _, _ => .error .meaningless
where
  pairUp : List Nat → List UInt8
    | a :: b :: rest => UInt8.ofNat (16 * a + b) :: pairUp rest
    | _ => []
  notHex (digits : List Char) : Outcome :=
    let place := (digits.takeWhile fun c => (hexValue? c).isSome).length
    .error (.badValue
      ("non-hexadecimal number found in fromhex() arg at position " ++ toString place))

/-- What a method gives that is taken from its class and works on its first argument. -/
def unboundMethod (apply : Application) (kind : FieldKind) (owner name : String)
    (arguments : Arguments) : Outcome :=
  match kind, arguments.placed with
  | .computed, _ | .stored, _ => .error .meaningless
  | .function, _ => classMethod apply owner name arguments
  | _, m :: placed =>
    if (lineageNames m).contains owner then methodOf m name ⟨placed, arguments.named⟩
    else .error .meaningless
  | _, [] => .error .meaningless

end PagedQuery.Expression
