import PagedQuery.Page.Slice
import PagedQuery.Schema.Expression.Layout

/-!
# Fields and items in type expressions

What is taken from a value by a name or by an index.
-/

namespace PagedQuery.Expression

open PagedQuery.Text

/-! ## Classes -/

/-- A class as the owner of a field. -/
def classOwner (name : String) : String := "type object '" ++ name ++ "'"

/-- The class itself among the fields that all things have. -/
def classOf (m : Meaning) : FieldType :=
  match m with
  | .type t =>
    match t with
    | .generic .. => .foreign "GenericAlias"
    | .union .. => .foreign "UnionType"
    | _ => .foreign "type"
  | m => (class? m.className).getD (.foreign m.className)

/-- Classes with the class that they extend first; the others extend the class of all things. -/
def superclasses : List (String × String) :=
  [("bool", "int"), ("datetime", "date"),
   ("Exception GeneratorExit KeyboardInterrupt SystemExit BaseExceptionGroup", "BaseException"),
   ("ArithmeticError AssertionError AttributeError BufferError EOFError ImportError LookupError " ++
      "MemoryError NameError OSError ReferenceError RuntimeError StopAsyncIteration " ++
      "StopIteration SyntaxError SystemError TypeError ValueError Warning", "Exception"),
   ("FloatingPointError OverflowError ZeroDivisionError", "ArithmeticError"),
   ("ModuleNotFoundError", "ImportError"), ("IndexError KeyError", "LookupError"),
   ("UnboundLocalError", "NameError"),
   ("BlockingIOError ChildProcessError ConnectionError FileExistsError FileNotFoundError " ++
      "InterruptedError IsADirectoryError NotADirectoryError PermissionError " ++
      "ProcessLookupError TimeoutError", "OSError"),
   ("BrokenPipeError ConnectionAbortedError ConnectionRefusedError ConnectionResetError",
     "ConnectionError"),
   ("NotImplementedError RecursionError", "RuntimeError"),
   ("IndentationError", "SyntaxError"), ("TabError", "IndentationError"),
   ("UnicodeError", "ValueError"),
   ("UnicodeDecodeError UnicodeEncodeError UnicodeTranslateError", "UnicodeError"),
   ("BytesWarning DeprecationWarning EncodingWarning FutureWarning ImportWarning " ++
      "PendingDeprecationWarning ResourceWarning RuntimeWarning SyntaxWarning UnicodeWarning " ++
      "UserWarning", "Warning"),
   ("ExceptionGroup", "BaseExceptionGroup")]

/-- The classes that a class extends at once. -/
def basesOf (name : String) : List String :=
  if name = "object" then []
  else
    match superclasses.find? fun (names, _) => (split ' ' names).contains name with
    | some (_, base) => if name = "ExceptionGroup" then [base, "Exception"] else [base]
    | none => ["object"]

/-- A class with all that it extends, the nearest ones first. -/
def lineageOf : Nat → String → List String
  | 0, _ => []
  | fuel + 1, name =>
    if name = "ExceptionGroup" then name :: "BaseExceptionGroup" :: lineageOf fuel "Exception"
    else name :: ((basesOf name).head?.map (lineageOf fuel)).getD []

/-- The class of a name. -/
def classNamed (name : String) : FieldType := (class? name).getD (.foreign name)

/-- The classes that a class is one of, itself among them. -/
def lineage (t : FieldType) : List FieldType :=
  t :: ((lineageOf 9 t.label).drop 1).map classNamed

/-! ## Fields -/

/-- Fields of classes that are numbers about them. -/
def classNumbers : List String :=
  ["__basicsize__", "__dictoffset__", "__flags__", "__itemsize__", "__weakrefoffset__"]

/-- Fields of classes that are functions about them. -/
def classFunctions : List String :=
  ["__instancecheck__", "__prepare__", "__subclasscheck__", "__subclasses__", "mro"]

/-- Classes that give no value without arguments. -/
def needsArguments : List String :=
  ["BaseExceptionGroup", "ExceptionGroup", "UnicodeDecodeError", "UnicodeEncodeError",
   "UnicodeTranslateError", "classmethod", "enumerate", "filter", "map", "memoryview", "range",
   "reversed", "slice", "staticmethod", "super", "type", "BuiltinImporter"]

/-- A field of a class. -/
def classField (t : FieldType) (field : String) : Outcome :=
  let name := t.label
  match fieldKind? name field with
  | some (owner, kind) => .ok (.field kind owner field)
  | none =>
    if ["__name__", "__qualname__"].contains field then .ok (.text name)
    else if field = "__module__" then .ok (.text "builtins")
    else if field = "__class__" then .ok (.type (.foreign "type"))
    else if field = "__base__" then
      .ok (((basesOf name).head?.map fun base => .type (classNamed base)).getD .none)
    else if field = "__bases__" then
      .ok (.tuple ((basesOf name).map fun base => .type (classNamed base)))
    else if field = "__mro__" then .ok (.tuple ((lineage t).map .type))
    else if field = "__dict__" then .ok (.thing "mappingproxy")
    else if ["__doc__", "__text_signature__"].contains field then .error .meaningless
    else if classNumbers.contains field then .ok (.thing "int")
    else if ["__call__", "__or__", "__ror__"].contains field then
      .ok (.bound (.type t) .operator field)
    else if classFunctions.contains field then .ok (.bound (.type t) .method field)
    else .error (.noField (classOwner name) field)

/-- A part of a number. -/
def numberPart? (m : Meaning) (field : String) : Option Meaning :=
  match m, m.whole? with
  | _, some n =>
    match field with
    | "real" | "numerator" => some (.int n)
    | "imag" => some (.int 0)
    | "denominator" => some (.int 1)
    | _ => none
  | .float x, _ =>
    match field with
    | "real" => some (.float x)
    | "imag" => some (.float 0.0)
    | _ => none
  | .thing "complex", _ =>
    if field = "real" ∨ field = "imag" then some (.thing "float") else none
  | _, _ => none

/-- A part of a fault that has not happened: what it was made with, by the names of its class. -/
def failurePart? (className : String) (ms : List Meaning) (field : String) : Option Meaning :=
  let isOne := fun name => (lineageOf 9 className).contains name
  let first := ms.head?.getD .none
  let detail := fun i => if ms.length < 2 then .none else ms[i]?.getD .none
  match field with
  | "args" => some (.tuple ms)
  | "__cause__" | "__context__" | "__traceback__" => some .none
  | "__suppress_context__" => some (.bool false)
  | "value" => if isOne "StopIteration" then some first else none
  | "code" =>
    if isOne "SystemExit" then some (if 1 < ms.length then .tuple ms else first) else none
  | "msg" => if isOne "SyntaxError" ∨ isOne "ImportError" then some first else none
  | "errno" => if isOne "OSError" then some (detail 0) else none
  | "strerror" => if isOne "OSError" then some (detail 1) else none
  | "filename" => if isOne "OSError" ∨ isOne "SyntaxError" then some (detail 2) else none
  | "name" => if ["AttributeError", "ImportError", "NameError"].any isOne then some .none else none
  | "obj" => if isOne "AttributeError" then some .none else none
  | "path" => if isOne "ImportError" then some .none else none
  | "lineno" | "offset" | "text" | "end_lineno" | "end_offset" | "print_file_and_line" =>
    if isOne "SyntaxError" then some .none else none
  | _ => none

/-- A part of a function. -/
def functionPart? (defaults : List (String × Meaning)) : String → Option Meaning
  | "__name__" | "__qualname__" => some (.text "<lambda>")
  | "__doc__" | "__closure__" | "__kwdefaults__" => some .none
  | "__defaults__" =>
    some (if defaults.isEmpty then .none else .tuple (defaults.map (·.2)))
  | "__code__" => some (.thing "code")
  | "__dict__" | "__annotations__" => some (.dict [] [])
  | "__globals__" | "__builtins__" => some (.thing "dict")
  | "__call__" | "__get__" => some (.thing "method-wrapper")
  | _ => none

/-- A part that a value is made of. -/
def partOf? (m : Meaning) (field : String) : Option Meaning :=
  match m, field with
  | .failure c ms, field => failurePart? c ms field
  | .function _ _ defaults _, field => functionPart? defaults field
  | .progression a b c, field =>
    match field with
    | "start" => some (.int a)
    | "stop" => some (.int b)
    | "step" => some (.int c)
    | _ => none
  | .range a b c, field =>
    match field with
    | "start" => some a
    | "stop" => some b
    | "step" => some c
    | _ => none
  | .stream .., "__iter__" => some (.bound m .operator field)
  | .stream c .., "__next__" => if Meaning.isView c then none else some (.bound m .operator field)
  | .stream c .., "__len__" => if Meaning.isView c then some (.bound m .operator field) else none
  | .stream "generator" .., "__name__" | .stream "generator" .., "__qualname__" =>
    some (.text "<genexpr>")
  | .none, "__doc__" => some .none
  | .none, "__bool__" => some (.bound .none .operator field)
  | .builtin _, "__self__" => some (.library "builtins")
  | .builtin name, "__name__" | .builtin name, "__qualname__" => some (.text name)
  | .builtin _, "__module__" => some (.text "builtins")
  | .bound m .., "__self__" => some m
  | .bound _ _ name, "__name__" => some (.text name)
  | .bound m _ name, "__qualname__" => some (.text (m.className ++ "." ++ name))
  | .field _ _ name, "__name__" => some (.text name)
  | .field _ owner name, "__qualname__" => some (.text (owner ++ "." ++ name))
  | .field _ owner _, "__objclass__" => some (.type (classNamed owner))
  | .builtin _, "__call__" | .bound .., "__call__" | .field .method _ _, "__call__" |
    .field .operator _ _, "__call__" | .field .function _ _, "__call__" =>
    some (.bound m .operator field)
  | m, field => numberPart? m field

/-- A field of something that is no class. -/
def valueField (m : Meaning) (field : String) : Outcome :=
  match partOf? m field with
  | some part => .ok part
  | none =>
    if field = "__class__" then .ok (.type (classOf m))
    else
      match m, field with
      | .field .., "__doc__" | .field .., "__text_signature__" | .builtin _, "__doc__" |
        .builtin _, "__text_signature__" => .error .meaningless
      | m, field =>
        match fieldKind? m.className field with
        | some (_, kind) => .ok (.bound m kind field)
        | none => .error (.noField ("'" ++ m.className ++ "' object") field)

/-- A type of a library. -/
def libraryField (name field : String) : Outcome :=
  match (libraryTypes name).lookup field with
  | some t => .ok (.type t)
  | none =>
    match if name = "builtins" then named? field else none with
    | some m => .ok m
    | none =>
      if field = "__name__" then .ok (.text name)
      else if (libraryTypes name).isEmpty then .error .meaningless
      else .error (.noField ("module '" ++ name ++ "'") field)

/-- A field of something. Containers with element types have those of their class. -/
def fieldOf (m : Meaning) (field : String) : Outcome :=
  match m with
  | .type (.generic capitalized c elements) =>
    let origin : FieldType := classNamed c.className
    match field with
    | "__origin__" => .ok (.type origin)
    | "__args__" => .ok (.tuple (elements.map argument))
    | "__parameters__" => .ok (.tuple [])
    | "__class__" => .ok (.type (classOf (.type (.generic capitalized c elements))))
    | field => classField origin field
  | .type (.union _ members) =>
    match field with
    | "__args__" => .ok (.tuple (members.map argument))
    | "__parameters__" => .ok (.tuple [])
    | "__class__" => .ok (.type (.foreign "UnionType"))
    | field =>
      match fieldKind? "object" field with
      | some (_, kind) => .ok (.bound m kind field)
      | none => .error (.noField "'types.UnionType' object" field)
  | .type t => classField t field
  | .library name => libraryField name field
  | m => valueField m field
where
  /-- An element type as a value. -/
  argument : FieldType → Meaning
    | .missing => .none
    | .expression s => .text s
    | .thing t => .thing t.className
    | t => .type t

/-! ## Items -/

/-- A place in a sequence, counted from the end if negative. -/
def itemAt (sequence : String) (items : List Meaning) (i : Int) : Outcome :=
  let place := if i < 0 then i + items.length else i
  if place < 0 then .error (.noItem sequence)
  else
    match items[place.toNat]? with
    | some m => .ok m
    | none => .error (.noItem sequence)

/-- A bound of a range; the missing value is none. -/
def bound (m : Meaning) : Except ExpressionError (Option Int) :=
  match m, m.whole? with
  | .none, _ => .ok none
  | _, some i => .ok (some i)
  | _, none => .error .meaningless

/-- The items of a range. -/
def itemsWithin (items : List Meaning) (start stop step : Meaning) :
    Except ExpressionError (List Meaning) := do
  match steppedSlice items (← bound start) (← bound stop) (← bound step) with
  | .ok items => return items
  | .error e => throw (.badValue e.message)

/-- A sequence of the same class as another one. -/
def ofItems (like : Meaning) (items : List Meaning) : Meaning :=
  match like with
  | .text _ =>
    .text (String.join (items.map fun | .text s => s | _ => ""))
  | .bytes _ => .bytes (items.map fun m => UInt8.ofNat (m.whole?.getD 0).toNat)
  | .list _ => .list items
  | _ => .tuple items

/-- The arguments that an index stands for. -/
def indexArguments : Meaning → List Meaning
  | .tuple items => items
  | m => [m]

/-- An item of a sequence or dictionary, or a container class with element types. -/
def itemOf (m index : Meaning) : Outcome :=
  match m with
  | .type t =>
    let elements := (indexArguments index).map Meaning.element
    match t, subscribed? t with
    | .bare c, _ => .ok (.type (.generic true c elements))
    | _, some c => .ok (.type (.generic false c elements))
    | _, none => .error .meaningless
  | .dict keys values =>
    if index.isKey then
      match Meaning.entryOf keys values index with
      | some v => .ok v
      | none => .error (.noKey index.shown)
    else .error .meaningless
  | .text _ | .bytes _ | .tuple _ | .list _ =>
    let items := (m.supply?.map (·.1)).getD []
    let sequence := if m.className = "str" then "string" else m.className
    match index, index.whole? with
    | _, some i => itemAt sequence items i
    | .range start stop step, _ => (itemsWithin items start stop step).map (ofItems m)
    | _, _ => .error .meaningless
  | .progression start stop step =>
    match index, index.whole? with
    | .range a b c, _ => do
      let (all, _) := (m.supply?).getD ([], none)
      let kept ← itemsWithin all a b c
      let first := (kept.head?.bind Meaning.whole?).getD 0
      let step := step * (c.whole?.getD 1)
      return .progression first (first + step * (kept.length : Int)) step
    | _, some i =>
      let length := Meaning.progressionLength start stop step
      let place := if i < 0 then i + length else i
      if place < 0 ∨ length ≤ place then .error (.noItem "range object")
      else .ok (.int (start + step * place))
    | _, none => .error .meaningless
  | _ => .error .meaningless

/-- The fields and items of a value that follow its name in a place of a text. -/
def within : Nat → Meaning → List Char → Outcome
  | 0, m, _ => .ok m
  | _ + 1, m, [] => .ok m
  | fuel + 1, m, '.' :: rest => do
    let field := rest.takeWhile fun c => c != '.' && c != '\x5b'
    if field.isEmpty then throw (.badValue "Empty attribute in format string")
    else within fuel (← fieldOf m (String.ofList field)) (rest.drop field.length)
  | fuel + 1, m, '\x5b' :: rest => do
    let index := rest.takeWhile (· != '\x5d')
    if index.isEmpty then throw (.badValue "Empty attribute in format string")
    else
      let index' :=
        if index.all Char.isDigit then .int ((leadingNumber index).1.getD 0)
        else .text (String.ofList index)
      within fuel (← itemOf m index') (rest.drop (index.length + 1))
  | _ + 1, _, _ =>
    throw (.badValue "Only '.' or '\x5b' may follow '\x5d' in format field specifier")

end PagedQuery.Expression
