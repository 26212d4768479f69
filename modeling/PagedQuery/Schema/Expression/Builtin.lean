import PagedQuery.Schema.Expression.Meaning
import PagedQuery.Text.Split

/-!
# Names of type expressions

The classes, functions and values that every expression knows by name, and the fields of classes.
-/

namespace PagedQuery.Expression

open PagedQuery.Text

/-- Classes of faults. -/
def faultClasses : List String := split ' ' (
  "ArithmeticError AssertionError AttributeError BaseException BaseExceptionGroup " ++
    "BlockingIOError BrokenPipeError BufferError BytesWarning ChildProcessError " ++
    "ConnectionAbortedError ConnectionError ConnectionRefusedError ConnectionResetError " ++
    "DeprecationWarning EOFError EncodingWarning Exception ExceptionGroup FileExistsError " ++
    "FileNotFoundError FloatingPointError FutureWarning GeneratorExit ImportError " ++
    "ImportWarning IndentationError IndexError InterruptedError IsADirectoryError KeyError " ++
    "KeyboardInterrupt LookupError MemoryError ModuleNotFoundError NameError " ++
    "NotADirectoryError NotImplementedError OSError OverflowError PendingDeprecationWarning " ++
    "PermissionError ProcessLookupError RecursionError ReferenceError ResourceWarning " ++
    "RuntimeError RuntimeWarning StopAsyncIteration StopIteration SyntaxError SyntaxWarning " ++
    "SystemError SystemExit TabError TimeoutError TypeError UnboundLocalError " ++
    "UnicodeDecodeError UnicodeEncodeError UnicodeError UnicodeTranslateError UnicodeWarning " ++
    "UserWarning ValueError Warning ZeroDivisionError")

/-- Classes that are types of no values of fields. -/
def otherClasses : List String := split ' ' (
  "bytearray classmethod complex enumerate filter map memoryview property range reversed " ++
    "slice staticmethod super type zip")

def functions : List String := split ' ' (
  "__build_class__ __import__ abs aiter all anext any ascii bin breakpoint callable chr " ++
    "compile delattr dir divmod eval exec format getattr globals hasattr hash hex id input " ++
    "isinstance issubclass iter len locals max min next oct open ord pow print repr round " ++
    "setattr sorted sum vars")

/-- The class of a name. -/
def class? : String → Option FieldType
  | "int" => some (.scalar .int)
  | "str" => some (.scalar .text)
  | "float" => some (.scalar .float)
  | "bool" => some (.scalar .bool)
  | "bytes" => some (.scalar .bytes)
  | "object" => some .object
  | "list" => some (.plain .list)
  | "tuple" => some (.plain .tuple)
  | "set" => some (.plain .set)
  | "frozenset" => some (.plain .frozenSet)
  | "dict" => some (.plain .dict)
  | "NoneType" => some .nothing
  | "EnvironmentError" | "IOError" => some (.foreign "OSError")
  | name =>
    if faultClasses.contains name ∨ otherClasses.contains name then some (.foreign name) else none

/-- The meaning of a name. -/
def named? : String → Option Meaning
  | "None" | "__doc__" => some .none
  | "True" | "__debug__" => some (.bool true)
  | "False" => some (.bool false)
  | "Ellipsis" => some .ellipsis
  | "NotImplemented" => some (.thing "NotImplementedType")
  | "NoneType" => none
  | "__name__" => some (.text "builtins")
  | "__package__" => some (.text "")
  | "__spec__" => some (.thing "ModuleSpec")
  | "__loader__" => some (.type (.foreign "BuiltinImporter"))
  | "exit" | "quit" => some (.thing "Quitter")
  | "copyright" | "credits" | "license" => some (.thing "_Printer")
  | "help" => some (.thing "_Helper")
  | name =>
    match class? name with
    | some t => some (.type t)
    | none => if functions.contains name then some (.builtin name) else none

/-- The types of a library that can be asked for by name. -/
def libraryTypes : String → List (String × FieldType)
  | "datetime" =>
    [("date", .scalar .date), ("datetime", .scalar .dateTime), ("time", .scalar .time),
      ("timedelta", .scalar .span)]
  | "decimal" => [("Decimal", .scalar .decimal)]
  | "uuid" => [("UUID", .scalar .uuid)]
  | "typing" => ("Any", .any) :: (aliased.map fun c => (c.aliasName, .bare c))
  | _ => []
where
  aliased : List Container :=
    [.list, .tuple, .set, .frozenSet, .sequence, .mutableSequence, .abstractSet, .mutableSet,
     .collection, .iterable, .dict, .deque]

/-- Libraries that can be asked for. -/
def libraries : List String := split ' ' (
  "abc asyncio builtins collections copy dataclasses datetime decimal enum fractions functools " ++
    "io itertools json logging math operator os pathlib random re shutil socket string " ++
    "subprocess sys tempfile threading time types typing uuid")

/-- The container of a class that takes element types. -/
def subscribed? : FieldType → Option Container
  | .plain c => some c
  | .foreign name =>
    if ["BaseExceptionGroup", "ExceptionGroup", "enumerate", "type"].contains name then
      some (.other name)
    else none
  | _ => none

/-- The fields that values of all classes have. -/
def commonFields : List (FieldKind × String) :=
  [(.operator,
    "__delattr__ __eq__ __ge__ __getattribute__ __gt__ __hash__ __init__ __le__ __lt__ __ne__ " ++
      "__repr__ __setattr__ __str__"),
   (.method, "__dir__ __format__ __getstate__ __reduce__ __reduce_ex__ __sizeof__"),
   (.function, "__init_subclass__ __new__ __subclasshook__")]

/-- The fields that a class adds to the common ones. -/
def ownFields : String → List (FieldKind × String)
  | "int" =>
    [(.computed, "denominator imag numerator real"),
     (.method,
      "__ceil__ __floor__ __getnewargs__ __round__ __trunc__ as_integer_ratio bit_count " ++
        "bit_length conjugate to_bytes"),
     (.operator,
      "__abs__ __add__ __and__ __bool__ __divmod__ __float__ __floordiv__ __index__ __int__ " ++
        "__invert__ __lshift__ __mod__ __mul__ __neg__ __or__ __pos__ __pow__ __radd__ " ++
        "__rand__ __rdivmod__ __rfloordiv__ __rlshift__ __rmod__ __rmul__ __ror__ __rpow__ " ++
        "__rrshift__ __rshift__ __rsub__ __rtruediv__ __rxor__ __sub__ __truediv__ __xor__"),
     (.function, "from_bytes")]
  | "bytearray" =>
    [(.method,
      "__alloc__ append capitalize center clear copy count decode endswith expandtabs extend " ++
        "find hex index insert isalnum isalpha isascii isdigit islower isspace istitle " ++
        "isupper join ljust lower lstrip partition pop remove removeprefix removesuffix " ++
        "replace reverse rfind rindex rjust rpartition rsplit rstrip split splitlines " ++
        "startswith strip swapcase title translate upper zfill"),
     (.operator,
      "__add__ __contains__ __delitem__ __getitem__ __iadd__ __imul__ __iter__ __len__ " ++
        "__mod__ __mul__ __rmod__ __rmul__ __setitem__"),
     (.function, "fromhex maketrans")]
  | "bytes" =>
    [(.method,
      "__bytes__ __getnewargs__ capitalize center count decode endswith expandtabs find hex " ++
        "index isalnum isalpha isascii isdigit islower isspace istitle isupper join ljust " ++
        "lower lstrip partition removeprefix removesuffix replace rfind rindex rjust " ++
        "rpartition rsplit rstrip split splitlines startswith strip swapcase title translate " ++
        "upper zfill"),
     (.operator,
      "__add__ __contains__ __getitem__ __iter__ __len__ __mod__ __mul__ __rmod__ __rmul__"),
     (.function, "fromhex maketrans")]
  | "classmethod" =>
    [(.computed, "__isabstractmethod__"),
     (.stored, "__func__ __wrapped__"),
     (.operator, "__get__")]
  | "complex" =>
    [(.stored, "imag real"),
     (.method, "__complex__ __getnewargs__ conjugate"),
     (.operator,
      "__abs__ __add__ __bool__ __mul__ __neg__ __pos__ __pow__ __radd__ __rmul__ __rpow__ " ++
        "__rsub__ __rtruediv__ __sub__ __truediv__")]
  | "dict" =>
    [(.method,
      "__contains__ __getitem__ __reversed__ clear copy get items keys pop popitem setdefault " ++
        "update values"),
     (.operator, "__delitem__ __ior__ __iter__ __len__ __or__ __ror__ __setitem__"),
     (.function, "__class_getitem__ fromkeys")]
  | "enumerate" =>
    [(.operator, "__iter__ __next__"),
     (.function, "__class_getitem__")]
  | "filter" | "map" =>
    [(.operator, "__iter__ __next__")]
  | "float" =>
    [(.computed, "imag real"),
     (.method,
      "__ceil__ __floor__ __getnewargs__ __round__ __trunc__ as_integer_ratio conjugate hex " ++
        "is_integer"),
     (.operator,
      "__abs__ __add__ __bool__ __divmod__ __float__ __floordiv__ __int__ __mod__ __mul__ " ++
        "__neg__ __pos__ __pow__ __radd__ __rdivmod__ __rfloordiv__ __rmod__ __rmul__ " ++
        "__rpow__ __rsub__ __rtruediv__ __sub__ __truediv__"),
     (.function, "__getformat__ fromhex")]
  | "frozenset" =>
    [(.method,
      "__contains__ copy difference intersection isdisjoint issubset issuperset " ++
        "symmetric_difference union"),
     (.operator,
      "__and__ __iter__ __len__ __or__ __rand__ __ror__ __rsub__ __rxor__ __sub__ __xor__"),
     (.function, "__class_getitem__")]
  | "list" =>
    [(.method,
      "__getitem__ __reversed__ append clear copy count extend index insert pop remove " ++
        "reverse sort"),
     (.operator,
      "__add__ __contains__ __delitem__ __iadd__ __imul__ __iter__ __len__ __mul__ __rmul__ " ++
        "__setitem__"),
     (.function, "__class_getitem__")]
  | "memoryview" =>
    [(.computed,
      "c_contiguous contiguous f_contiguous format itemsize nbytes ndim obj readonly shape " ++
        "strides suboffsets"),
     (.method, "__enter__ __exit__ cast hex release tobytes tolist toreadonly"),
     (.operator, "__delitem__ __getitem__ __iter__ __len__ __setitem__")]
  | "property" =>
    [(.computed, "__isabstractmethod__"),
     (.stored, "fdel fget fset"),
     (.method, "__set_name__ deleter getter setter"),
     (.operator, "__delete__ __get__ __set__")]
  | "range" =>
    [(.stored, "start step stop"),
     (.method, "__reversed__ count index"),
     (.operator, "__bool__ __contains__ __getitem__ __iter__ __len__")]
  | "reversed" =>
    [(.method, "__length_hint__ __setstate__"),
     (.operator, "__iter__ __next__")]
  | "set" =>
    [(.method,
      "__contains__ add clear copy difference difference_update discard intersection " ++
        "intersection_update isdisjoint issubset issuperset pop remove symmetric_difference " ++
        "symmetric_difference_update union update"),
     (.operator,
      "__and__ __iand__ __ior__ __isub__ __iter__ __ixor__ __len__ __or__ __rand__ __ror__ " ++
        "__rsub__ __rxor__ __sub__ __xor__"),
     (.function, "__class_getitem__")]
  | "slice" =>
    [(.stored, "start step stop"),
     (.method, "indices")]
  | "staticmethod" =>
    [(.computed, "__isabstractmethod__"),
     (.stored, "__func__ __wrapped__"),
     (.operator, "__call__ __get__")]
  | "str" =>
    [(.method,
      "__getnewargs__ capitalize casefold center count encode endswith expandtabs find format " ++
        "format_map index isalnum isalpha isascii isdecimal isdigit isidentifier islower " ++
        "isnumeric isprintable isspace istitle isupper join ljust lower lstrip partition " ++
        "removeprefix removesuffix replace rfind rindex rjust rpartition rsplit rstrip split " ++
        "splitlines startswith strip swapcase title translate upper zfill"),
     (.operator,
      "__add__ __contains__ __getitem__ __iter__ __len__ __mod__ __mul__ __rmod__ __rmul__"),
     (.function, "maketrans")]
  | "super" =>
    [(.stored, "__self__ __self_class__ __thisclass__"),
     (.operator, "__get__")]
  | "tuple" =>
    [(.method, "__getnewargs__ count index"),
     (.operator, "__add__ __contains__ __getitem__ __iter__ __len__ __mul__ __rmul__"),
     (.function, "__class_getitem__")]
  | "type" =>
    [(.method, "__instancecheck__ __subclasscheck__ __subclasses__ mro"),
     (.operator, "__call__ __or__ __ror__"),
     (.function, "__prepare__")]
  | "zip" =>
    [(.method, "__setstate__"),
     (.operator, "__iter__ __next__")]
  | "AttributeError" =>
    [(.stored, "name obj")]
  | "BaseException" =>
    [(.computed, "__cause__ __context__ __traceback__ args"),
     (.stored, "__suppress_context__"),
     (.method, "__setstate__ add_note with_traceback")]
  | "BaseExceptionGroup" =>
    [(.stored, "exceptions message"),
     (.method, "derive split subgroup"),
     (.function, "__class_getitem__")]
  | "BlockingIOError" | "BrokenPipeError" | "ChildProcessError" | "ConnectionAbortedError" |
    "ConnectionError" | "ConnectionRefusedError" | "ConnectionResetError" | "FileExistsError" |
    "FileNotFoundError" | "InterruptedError" | "IsADirectoryError" | "NotADirectoryError" |
    "OSError" | "PermissionError" | "ProcessLookupError" | "TimeoutError" =>
    [(.computed, "characters_written"),
     (.stored, "errno filename filename2 strerror")]
  | "ExceptionGroup" =>
    [(.computed, "__weakref__"),
     (.stored, "exceptions message"),
     (.method, "derive split subgroup"),
     (.function, "__class_getitem__")]
  | "ImportError" | "ModuleNotFoundError" =>
    [(.stored, "msg name path")]
  | "IndentationError" | "SyntaxError" | "TabError" =>
    [(.stored, "end_lineno end_offset filename lineno msg offset print_file_and_line text")]
  | "NameError" | "UnboundLocalError" =>
    [(.stored, "name")]
  | "StopIteration" =>
    [(.stored, "value")]
  | "SystemExit" =>
    [(.stored, "code")]
  | "UnicodeDecodeError" | "UnicodeEncodeError" | "UnicodeTranslateError" =>
    [(.stored, "encoding end object reason start")]
  | _ => []

/-- The class from which a class has a field, and the kind of the field. -/
def fieldKind? (className field : String) : Option (String × FieldKind) :=
  let own := if className = "bool" then "int" else className
  let inherited := if faultClasses.contains className then ["BaseException"] else []
  (own :: inherited).findSome? (fun c => (kindIn? (ownFields c)).map (c, ·)) |>.orElse
    fun _ => (kindIn? commonFields).map ("object", ·)
where
  kindIn? (groups : List (FieldKind × String)) : Option FieldKind :=
    (groups.find? fun (_, names) => (split ' ' names).contains field).map (·.1)

end PagedQuery.Expression
