import PagedQuery.Value.Basic

/-!
# Attributes of values

What a value holds under a name. Entities hold what they are given; numbers, moments, identifiers
and members of enumerations are made of parts; many values have methods, of which nothing but their
presence matters.
-/

namespace PagedQuery.Value

open PagedQuery.Number PagedQuery.Text PagedQuery.Time

/-! ## Methods -/

/-- The methods that the texts and the sequences of bytes share. -/
def textualMethods : List String :=
  ["capitalize", "center", "count", "endswith", "expandtabs", "find", "index", "isalnum", "isalpha",
   "isascii", "isdigit", "islower", "isspace", "istitle", "isupper", "join", "ljust", "lower",
   "lstrip", "maketrans", "partition", "removeprefix", "removesuffix", "replace", "rfind", "rindex",
   "rjust", "rpartition", "rsplit", "rstrip", "split", "splitlines", "startswith", "strip",
   "swapcase", "title", "translate", "upper", "zfill"]

/-- The methods that days and moments share. -/
def dayMethods : List String :=
  ["ctime", "fromisocalendar", "fromisoformat", "fromordinal", "fromtimestamp", "isocalendar",
   "isoformat", "isoweekday", "replace", "strftime", "timetuple", "today", "toordinal", "weekday"]

def integerMethods : List String :=
  ["as_integer_ratio", "bit_count", "bit_length", "conjugate", "from_bytes", "to_bytes"]

def decimalMethods : List String :=
  ["adjusted", "as_integer_ratio", "as_tuple", "canonical", "compare", "compare_signal",
   "compare_total", "compare_total_mag", "conjugate", "copy_abs", "copy_negate", "copy_sign", "exp",
   "fma", "from_float", "is_canonical", "is_finite", "is_infinite", "is_nan", "is_normal",
   "is_qnan", "is_signed", "is_snan", "is_subnormal", "is_zero", "ln", "log10", "logb",
   "logical_and", "logical_invert", "logical_or", "logical_xor", "max", "max_mag", "min", "min_mag",
   "next_minus", "next_plus", "next_toward", "normalize", "number_class", "quantize", "radix",
   "remainder_near", "rotate", "same_quantum", "scaleb", "shift", "sqrt", "to_eng_string",
   "to_integral", "to_integral_exact", "to_integral_value"]

/-- The names of the methods of a value that is no entity. -/
def methodNames : Value → List String
  | .bool _ | .int _ => integerMethods
  | .float _ => ["as_integer_ratio", "conjugate", "fromhex", "hex", "is_integer"]
  | .decimal _ => decimalMethods
  | .text _ | .code _ =>
    textualMethods ++ ["casefold", "encode", "format", "format_map", "isdecimal", "isidentifier",
      "isnumeric", "isprintable"]
  | .bytes _ => textualMethods ++ ["decode", "fromhex", "hex"]
  | .date _ => dayMethods
  | .dateTime _ =>
    dayMethods ++ ["astimezone", "combine", "date", "dst", "now", "strptime", "time", "timestamp",
      "timetz", "tzname", "utcfromtimestamp", "utcnow", "utcoffset", "utctimetuple"]
  | .time _ => ["dst", "fromisoformat", "isoformat", "replace", "strftime", "tzname", "utcoffset"]
  | .span _ => ["total_seconds"]
  | .list _ =>
    ["append", "clear", "copy", "count", "extend", "index", "insert", "pop", "remove", "reverse",
     "sort"]
  | .tuple _ => ["count", "index"]
  | .dict _ =>
    ["clear", "copy", "fromkeys", "get", "items", "keys", "pop", "popitem", "setdefault", "update",
     "values"]
  | _ => []

/-- A method of a value of a type. -/
def methodOf (type name : String) : Value :=
  .other (.ofClass "builtin_function_or_method"
    ("<built-in method " ++ name ++ " of " ++ type ++ " object at 0x7f6000000000>"))

/-! ## Parts -/

/-- The zone of an offset from universal time. -/
def zone (offset : Int) : Value :=
  .other {
    className := "timezone"
    qualifiedName := "datetime.timezone"
    shown :=
      if offset = 0 then "datetime.timezone.utc" else call "datetime.timezone" [spanParts offset]
    text := if offset = 0 then "UTC" else "UTC" ++ offsetText offset }

/-- A part of a day. -/
def datePart? (d : Date) (name : String) : Option Value :=
  match name with
  | "year" => some (.int d.year)
  | "month" => some (.int d.month)
  | "day" => some (.int d.day)
  | _ => none

/-- A part of a time of day. -/
def timePart? (t : TimeOfDay) (name : String) : Option Value :=
  match name with
  | "hour" => some (.int t.hour)
  | "minute" => some (.int t.minute)
  | "second" => some (.int t.second)
  | "microsecond" => some (.int t.micro)
  | "fold" => some (.int 0)
  | "tzinfo" => some ((t.offset.map zone).getD .null)
  | "resolution" => some (.span 1)
  | _ => none

def firstDate : Date := ⟨1, 1, 1⟩

def lastDate : Date := ⟨9999, 12, 31⟩

def lastTime : TimeOfDay := ⟨23, 59, 59, 999999, none⟩

/-- Days, microseconds and seconds of a span; all but the days are not negative. -/
def spanPart? (micros : Int) (name : String) : Option Value :=
  match name with
  | "days" => some (.int (Int.fdiv micros microsPerDay))
  | "seconds" => some (.int (Int.fdiv (Int.fmod micros microsPerDay) microsPerSecond))
  | "microseconds" => some (.int (Int.fmod micros microsPerSecond))
  | "min" => some (.span (-999999999 * microsPerDay))
  | "max" => some (.span (1000000000 * microsPerDay - 1))
  | "resolution" => some (.span 1)
  | _ => none

/-- The bytes of a number, the most significant first. -/
def bytesOf (count n : Nat) : List UInt8 :=
  (List.range count).reverse.map fun i => UInt8.ofNat (n / Nat.pow 256 i)

/-- The six fields of an identifier, by their widths in bits. -/
def identifierFields (n : Nat) : List Nat :=
  [n / Nat.pow 2 96, n / Nat.pow 2 80 % Nat.pow 2 16, n / Nat.pow 2 64 % Nat.pow 2 16,
   n / Nat.pow 2 56 % Nat.pow 2 8, n / Nat.pow 2 48 % Nat.pow 2 8, n % Nat.pow 2 48]

/-- The layout of an identifier, which its 64th bit and the two after it tell. -/
def identifierVariant (n : Nat) : String :=
  if !n.testBit 63 then "reserved for NCS compatibility"
  else if !n.testBit 62 then "specified in RFC 4122"
  else if !n.testBit 61 then "reserved for Microsoft compatibility"
  else "reserved for future definition"

/-- A part of an identifier. -/
def identifierPart? (n : Nat) (name : String) : Option Value :=
  let fields := identifierFields n
  let field := fun i => fields[i]?.getD 0
  match name with
  | "int" => some (.int n)
  | "hex" => some (.text (hexText 32 n))
  | "urn" => some (.text ("urn:uuid:" ++ Identifier.text n))
  | "bytes" => some (.bytes (bytesOf 16 n))
  | "bytes_le" =>
    some (.bytes ((bytesOf 4 (field 0)).reverse ++ (bytesOf 2 (field 1)).reverse ++
      (bytesOf 2 (field 2)).reverse ++ (bytesOf 16 n).drop 8))
  | "fields" => some (.tuple (fields.map fun m => .int (Int.ofNat m)))
  | "time_low" => some (.int (field 0))
  | "time_mid" => some (.int (field 1))
  | "time_hi_version" => some (.int (field 2))
  | "clock_seq_hi_variant" => some (.int (field 3))
  | "clock_seq_low" => some (.int (field 4))
  | "node" => some (.int (field 5))
  | "time" =>
    some (.int (Int.ofNat
      (field 2 % Nat.pow 2 12 * Nat.pow 2 48 + field 1 * Nat.pow 2 32 + field 0)))
  | "clock_seq" => some (.int (Int.ofNat (field 3 % Nat.pow 2 6 * Nat.pow 2 8 + field 4)))
  | "variant" => some (.text (identifierVariant n))
  | "version" =>
    some (if n.testBit 63 && !n.testBit 62 then .int (Int.ofNat (field 2 / Nat.pow 2 12))
      else .null)
  | "is_safe" =>
    some (.other { OtherValue.ofClass "SafeUUID" "<SafeUUID.unknown: None>" with
      text := "SafeUUID.unknown" })
  | _ => none

/-- A part of an integer. -/
def integerPart? (n : Int) (name : String) : Option Value :=
  match name with
  | "real" | "numerator" => some (.int n)
  | "imag" => some (.int 0)
  | "denominator" => some (.int 1)
  | _ => none

/-- A part of a value that is neither an entity nor a member of an enumeration. -/
def part? (name : String) : Value → Option Value
  | .bool b => integerPart? (if b then 1 else 0) name
  | .int n => integerPart? n name
  | .float x =>
    match name with
    | "real" => some (.float x)
    | "imag" => some (.float 0.0)
    | _ => none
  | .decimal d =>
    match name with
    | "real" => some (.decimal d)
    | "imag" => some (.decimal (.ofInt 0))
    | _ => none
  | .date d =>
    match name with
    | "min" => some (.date firstDate)
    | "max" => some (.date lastDate)
    | "resolution" => some (.span microsPerDay)
    | _ => datePart? d name
  | .dateTime t =>
    match name with
    | "min" => some (.dateTime firstDate.toDateTime)
    | "max" => some (.dateTime ⟨lastDate, lastTime⟩)
    | _ => (datePart? t.date name).orElse fun _ => timePart? t.time name
  | .time t =>
    match name with
    | "min" => some (.time midnight)
    | "max" => some (.time lastTime)
    | _ => timePart? t name
  | .span micros => spanPart? micros name
  | .uuid n => identifierPart? n name
  | .isbn digits => if name = "digits" then some (.text digits) else none
  | _ => none

/-! ## Attributes -/

/-- The name of the method that gives an entity a form of its own. -/
def formAttribute : String := "to_dict"

/-- What a value that holds no other ones has under a name, as a value of a type. -/
def attributeAs? (type name : String) (v : Value) : Option Value :=
  (v.part? name).orElse fun _ =>
    if v.methodNames.contains name then some (methodOf type name) else none

/-- What a value has under a name, none if it has nothing there. -/
def attribute? (name : String) (v : Value) : Option Value :=
  match v with
  | .entity type form _ fields =>
    ((fields.find? (·.1 == name)).map (·.2)).orElse fun _ =>
      if form.custom && name == formAttribute then
        some (.other (.ofClass "method" ("<bound method " ++ type ++ "." ++ name ++ ">")))
      else none
  | .member type base own w =>
    if name = "name" then some (.text own)
    else if name = "value" then some w
    else if name = own then some v
    else if base = .plain then none
    else attributeAs? type name w
  | v => attributeAs? v.typeName name v

theorem attribute?_entity {type : String} {form : EntityForm} {i : Nat}
    {fields : List (String × Value)} {name : String} (h : form.custom = false) :
    (Value.entity type form i fields).attribute? name =
      (fields.find? (·.1 == name)).map (·.2) := by
  simp [attribute?, h]

end PagedQuery.Value
