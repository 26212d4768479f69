import PagedQuery.Fault
import PagedQuery.Schema.Basic
import PagedQuery.Time.Pattern
import PagedQuery.Time.Span

/-!
# Coercion

Texts as values of declared types. Scalars have grammars of their own; a member of an enumeration is
found by its name or its value; other types are built from the text if they can be. Nothing is
guessed: what is not a value of the type is an error.
-/

namespace PagedQuery

open PagedQuery.Number PagedQuery.Text PagedQuery.Time

namespace Scalar

def readInteger (raw : String) : Except ConversionError Value :=
  match readPlain (trim raw) with
  | .ok n => .ok (.int n)
  | .error e => .error (.integer e)

/-- Numbers with a point or an exponent have no digit separators. -/
def withoutSeparators (raw : String) : Except ConversionError String :=
  if raw.toList.contains '_' then .error .digitSeparators else .ok (trim raw)

def readFloat (raw : String) : Except ConversionError Value := do
  let s ← withoutSeparators raw
  match readFloat? s with
  | some x => return .float x
  | none => throw (.notFloat s)

def readDecimal (raw : String) : Except ConversionError Value := do
  let s ← withoutSeparators raw
  match Decimal.read? s with
  | some d => return .decimal d
  | none => throw .notDecimal

def readBool (raw : String) : Except ConversionError Value :=
  match lower (trim raw) with
  | "true" => .ok (.bool true)
  | "false" => .ok (.bool false)
  | _ => .error .notBool

/-- A final `Z` as the offset that it stands for. -/
def spellOutZulu (s : String) : String :=
  let cs := s.toList
  if cs.getLast? = some 'Z' ∨ cs.getLast? = some 'z' then
    String.ofList cs.dropLast ++ "+00:00"
  else s

/-- The ISO forms of a moment, and days in any form. -/
def readDateTime (raw : String) : Except ConversionError Value :=
  let s := spellOutZulu (trim raw)
  match Iso.readDateTime s with
  | .ok t => .ok (.dateTime t)
  | .error _ =>
    match Pattern.readDate? s with
    | some d => .ok (.dateTime d.toDateTime)
    | none => .error .notDateTime

def readDate (raw : String) : Except ConversionError Value :=
  let s := trim raw
  match (Iso.readDate? s).orElse fun _ => Pattern.readDate? s with
  | some d => .ok (.date d)
  | none => .error .notDate

def readTime (raw : String) : Except ConversionError Value :=
  let s := trim raw
  match Iso.readTime s with
  | .ok t => .ok (.time t)
  | .error e => .error (.time s e)

def readSpan (raw : String) : Except ConversionError Value :=
  match Span.read raw with
  | .ok micros => .ok (.span micros)
  | .error .malformed => .error .notDuration
  | .error (.integer e) => .error (.integer e)
  | .error (.daysRange days) => .error (.durationDays days)
  | .error .daysTooLarge => .error .durationTooLarge
  | .error (.unknownUnit name) => .error (.durationUnit name)

def readUuid (raw : String) : Except ConversionError Value :=
  match Identifier.read (trim raw) with
  | .ok n => .ok (.uuid n)
  | .error .badLength => .error .identifierLength
  | .error (.notHexadecimal s) => .error (.identifierDigits s)

/-- The value of a text in the grammar of a scalar type. -/
def read : Scalar → String → Except ConversionError Value
  | .text, raw => .ok (.text raw)
  | .int, raw => readInteger raw
  | .float, raw => readFloat raw
  | .bool, raw => readBool raw
  | .decimal, raw => readDecimal raw
  | .dateTime, raw => readDateTime raw
  | .date, raw => readDate raw
  | .time, raw => readTime raw
  | .span, raw => readSpan raw
  | .uuid, raw => readUuid raw
  | .bytes, _ => .error .bytesWithoutEncoding

end Scalar

namespace Enumeration

/-- The first member whose value has the text, unless a value before it has none. -/
def findValue? (raw : String) : List (String × Value) →
    Except ConversionError (Option (String × Value))
  | [] => .ok none
  | m :: ms =>
    match m.2.written with
    | .error e => .error (.refused e.message)
    | .ok text => if text = raw then .ok (some m) else findValue? raw ms

/-- The last member of a name in any letter case. -/
def findName? (e : Enumeration) (raw : String) : Option (String × Value) :=
  e.members.reverse.find? fun (n, _) => lower n == lower (trim raw)

/-- The member of a name, or else the first member whose value has the text. -/
def read (e : Enumeration) (raw : String) : Except ConversionError Value := do
  let found ←
    match e.findName? raw with
    | some m => pure (some m)
    | none => findValue? raw e.members
  match found with
  | some (n, v) => return .member e.name e.base n v
  | none => throw (.notMember e.name)

theorem mem_of_findValue? {raw : String} {ms : List (String × Value)} {m : String × Value}
    (h : findValue? raw ms = .ok (some m)) : m ∈ ms := by
  induction ms with
  | nil => cases h
  | cons m' ms ih =>
    unfold findValue? at h
    split at h
    · cases h
    · split at h
      · cases h
        exact List.mem_cons_self
      · exact List.mem_cons_of_mem _ (ih h)

/-- What is read is one of the members. -/
theorem exists_member_of_read {e : Enumeration} {raw : String} {v : Value}
    (h : e.read raw = .ok v) : ∃ m ∈ e.members, v = .member e.name e.base m.1 m.2 := by
  unfold read at h
  cases hname : e.findName? raw with
  | some m =>
    rw [hname] at h
    cases h
    exact ⟨m, List.mem_reverse.mp (List.mem_of_find?_eq_some hname), rfl⟩
  | none =>
    rw [hname] at h
    cases hvalue : findValue? raw e.members with
    | error reason =>
      simp only [hvalue] at h
      cases h
    | ok found =>
      cases found with
      | none =>
        simp only [hvalue] at h
        cases h
      | some m =>
        simp only [hvalue] at h
        cases h
        exact ⟨m, mem_of_findValue? hvalue, rfl⟩

end Enumeration

/-- A book number: digits, dashes between them left out. -/
def readIsbn (raw : String) : Except ConversionError Value :=
  let digits := raw.toList.filter (· != '-')
  if digits.isEmpty || digits.any (!isDigitLike ·) then .error .isbnDigits
  else .ok (.isbn (String.ofList digits))

namespace Container

def characters (raw : String) : List Value := raw.toList.map fun c => .text c.toString

/-- The container of a text's characters. -/
def ofText : Container → String → Except ConversionError Value
  | .list, raw => .ok (.list (characters raw))
  | .tuple, raw => .ok (.tuple (characters raw))
  | .set, raw => .ok (.set (characters raw))
  | .frozenSet, _ => .ok (.entity "frozenset" {} 0 [])
  | .deque, _ => .ok (.entity "deque" {} 0 [])
  | .dict, raw => if raw = "" then .ok (.dict []) else .error .notPairs
  | c, _ => .error (.noArguments c.className)

/-- The container of a text's characters under its capitalized name, which builds no built-in
containers. -/
def ofTextByAlias (c : Container) (raw : String) : Except ConversionError Value :=
  match c with
  | .list | .tuple | .set | .frozenSet | .dict =>
    .error (.notConstructible c.aliasName c.className)
  | c => c.ofText raw

end Container

/-- Whether characters spell a number with an imaginary part, or a float. -/
def isComplexText (cs : List Char) : Bool :=
  let isFloat := fun cs : List Char => (readFloat? (String.ofList cs)).isSome
  let isFactor := fun cs : List Char => cs = [] || cs = ['+'] || cs = ['-'] || isFloat cs
  match cs.reverse with
  | last :: _ =>
    if last = 'j' ∨ last = 'J' then
      let body := cs.dropLast
      isFactor body || (List.range body.length).any fun i =>
        0 < i && (body[i]?.any fun c => c = '+' || c = '-') && isFloat (body.take i) &&
          isFactor (body.drop i)
    else isFloat cs
  | [] => false

/-- The value that a class of which only the name is known makes of a text. -/
def foreignOfText (name raw : String) : Except ConversionError Value :=
  let made : Except ConversionError Value := .ok (.entity name {} 0 [])
  match name with
  | "complex" =>
    let cs := stripList isNumberBlank raw.toList
    let inner :=
      if cs.head? = some '(' ∧ cs.getLast? = some ')' then
        stripList isNumberBlank (cs.drop 1).dropLast
      else cs
    if isComplexText inner then made
    else .error (.refused "complex() arg is a malformed string")
  | "bytearray" => .error .bytesWithoutEncoding
  | "range" => .error (.refused "'str' object cannot be interpreted as an integer")
  | "memoryview" => .error (.refused "memoryview: a bytes-like object is required, not 'str'")
  | "super" => .error (.refused "super() argument 1 must be a type, not str")
  | "map" => .error (.refused "map() must have at least two arguments.")
  | "filter" => .error (.refused "filter expected 2 arguments, got 1")
  | "BaseExceptionGroup" | "ExceptionGroup" =>
    .error (.refused "BaseExceptionGroup.__new__() takes exactly 2 arguments (1 given)")
  | "UnicodeDecodeError" | "UnicodeEncodeError" =>
    .error (.refused "function takes exactly 5 arguments (1 given)")
  | "UnicodeTranslateError" => .error (.refused "function takes exactly 4 arguments (1 given)")
  | "builtin_function_or_method" =>
    .error (.refused "cannot create 'builtin_function_or_method' instances")
  | "method" => .error (.refused "method expected 2 arguments, got 1")
  | "timezone" =>
    .error (.refused "timezone() argument 1 must be datetime.timedelta, not str")
  | "SafeUUID" => .error (.notMember name)
  | _ => made

namespace Schema

/-- An entity made of one text: a record of one required field or of optional ones. -/
def entityOfText (s : Schema) (name raw : String) : Except ConversionError Value :=
  match s.recordType? name with
  | none => .error (.noArguments name)
  | some record =>
    let optional := (s.ancestry name).flatMap (·.optional)
    match s.recordFields record.name with
    | [] => .error (.tooManyArguments record.name)
    | first :: rest =>
      match rest.filter (!optional.contains ·) with
      | [] => .ok (.entity name (s.formOf name) 0 [(first, .text raw)])
      | missing => .error (.missingArguments record.name missing)

/-- The value of a text that is not one of several types. -/
def read (s : Schema) (raw : String) : FieldType → Except ConversionError Value
  | .scalar k => k.read raw
  | .any | .object | .union .. => .ok (.text raw)
  | .nothing => .error (.noArguments "NoneType")
  | .isbn => readIsbn raw
  | .wrapped => (Scalar.readInteger raw).map fun
    | .int n => .wrapped n
    | v => v
  | .code => .ok (.code raw)
  | .enumeration name =>
    match s.enumeration? name with
    | some e => e.read raw
    | none => .error (.notMember name)
  | .entity name => s.entityOfText name raw
  | .plain c => c.ofText raw
  | .bare c => c.ofTextByAlias raw
  | .generic capitalized c _ => if capitalized then c.ofTextByAlias raw else c.ofText raw
  | .classWide _ => .error (.notInstantiable "typing.ClassVar")
  | .foreign name => foreignOfText name raw
  | .thing t => .error (if t.isKey then .noConversion t.shown else .noConversionKey t.className)
  | t => .error (.noConversion t.display)

/-- The type that a failed conversion names. -/
def failureTarget : FieldType → FieldType
  | .wrapped => .scalar .int
  | t => t

mutual
/-- The value of a text as a value of a type. Of several types the first one that reads the text
counts. -/
def convert (s : Schema) (raw : String) : FieldType → Except Fault Value
  | .union spelled members =>
    match firstConversion? s raw members with
    | some v => .ok v
    | none =>
      .error (.conversion raw (.union spelled members)
        (.matchesNone ((members.filter (· != .nothing)).map (·.label))))
  | t =>
    match s.read raw t with
    | .ok v => .ok v
    | .error e => .error (.conversion raw (failureTarget t) e)
/-- The value of a text in the first of the types that reads it. -/
def firstConversion? (s : Schema) (raw : String) : List FieldType → Option Value
  | [] => none
  | t :: ts =>
    if t == .nothing then firstConversion? s raw ts
    else
      match convert s raw t with
      | .ok v => some v
      | .error _ => firstConversion? s raw ts
end

theorem convert_of_not_union {s : Schema} {raw : String} {t : FieldType}
    (ht : ∀ spelled members, t ≠ .union spelled members) :
    s.convert raw t = (s.read raw t).mapError fun e => .conversion raw (failureTarget t) e := by
  unfold convert
  split
  · exact (ht _ _ rfl).elim
  · split
    · next h =>
      rw [h]
      rfl
    · next h =>
      rw [h]
      rfl

theorem read_of_convert {s : Schema} {raw : String} {t : FieldType} {v : Value}
    (ht : ∀ spelled members, t ≠ .union spelled members) (h : s.convert raw t = .ok v) :
    s.read raw t = .ok v := by
  rw [convert_of_not_union ht] at h
  cases hread : s.read raw t with
  | error e =>
    rw [hread] at h
    cases h
  | ok w =>
    rw [hread] at h
    exact congrArg Except.ok (Except.ok.inj h)

/-- A conversion fails as such. -/
theorem exists_conversion_of_convert {s : Schema} {raw : String} {t : FieldType} {e : Fault}
    (h : s.convert raw t = .error e) : ∃ target reason, e = .conversion raw target reason := by
  unfold convert at h
  split at h
  · split at h
    · cases h
    · exact ⟨_, _, (Except.error.inj h).symm⟩
  · split at h
    · cases h
    · exact ⟨_, _, (Except.error.inj h).symm⟩

end Schema

end PagedQuery
