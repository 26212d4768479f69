import PagedQuery.Coercion.Basic

/-!
# Discovered conversions

How to build values of a type is found out once and remembered, except for texts and scalars with
grammars of their own, and for several types, which are tried one by one. What is found out is
remembered before the conversion, which may fail.
-/

namespace PagedQuery

/-- Why a converter makes no value of a text: for a reason that the conversion reports, or by a
fault that stands as it is. -/
inductive ConverterError
  | reason (e : ConversionError)
  | fault (e : Fault)

/-- A way to make values from texts. -/
abbrev Converter := String → Except ConverterError Value

namespace Converter

def ofReader (read : String → Except ConversionError Value) : Converter := fun raw =>
  (read raw).mapError .reason

/-- The value that a converter makes of a text, as one of a type. -/
def apply (converter : Converter) (raw : String) (target : FieldType) : Except Fault Value :=
  match converter raw with
  | .ok v => .ok v
  | .error (.reason e) => .error (.conversion raw target e)
  | .error (.fault e) => .error e

/-- The converter of wrapped numbers, which converts to a number in its own right. -/
def wrapped : Converter := fun raw =>
  match Scalar.readInteger raw with
  | .ok (.int n) => .ok (.wrapped n)
  | .ok v => .ok v
  | .error e => .error (.fault (.conversion raw (.scalar .int) e))

end Converter

namespace FieldType

/-- Whether every text is a value of the type as it stands. -/
def takesText : FieldType → Bool
  | .scalar .text | .any | .object => true
  | _ => false

/-- The converter of a scalar with a grammar of its own. -/
def grammar? : FieldType → Option Converter
  | .scalar .text | .scalar .bytes => none
  | .scalar k => some (.ofReader k.read)
  | _ => none

end FieldType

/-- Finds out how values of a type are made. Enumerations look for their members and classes read
texts or are called with them; nothing else can be called. -/
def Schema.buildConverter (s : Schema) : FieldType → Except ConversionError Converter
  | .wrapped => .ok .wrapped
  | .thing t => .error (if t.isKey then .noConversion t.shown else .noConversionKey t.className)
  | .forward e => .error (.noConversion (FieldType.forward e).display)
  | .expression e => .error (.noConversion (FieldType.expression e).display)
  | .missing => .error (.noConversion FieldType.missing.display)
  | t => .ok (.ofReader fun raw => s.read raw t)

/-- The converters that are known, by type. -/
structure ConversionCache where
  entries : List (FieldType × Converter) := []
  deriving Inhabited

namespace ConversionCache

/-- The types whose converters are known. -/
def types (c : ConversionCache) : List FieldType := c.entries.map (·.1)

def find? (c : ConversionCache) (t : FieldType) : Option Converter :=
  (c.entries.find? fun e => e.1.same t).map (·.2)

def contains (c : ConversionCache) (t : FieldType) : Bool := (c.find? t).isSome

def size (c : ConversionCache) : Nat := c.entries.length

/-- The converter of a type, which is found out and remembered unless it is known. -/
def converter (c : ConversionCache) (s : Schema) (t : FieldType) :
    Except ConversionError Converter × ConversionCache :=
  match c.find? t with
  | some converter => (.ok converter, c)
  | none =>
    match s.buildConverter t with
    | .ok converter => (.ok converter, ⟨c.entries ++ [(t, converter)]⟩)
    | .error e => (.error e, c)

mutual
/-- The value of a text as a value of a type, and the cache after the conversion. Of several types
the first one that reads the text counts. -/
def convertFrom (s : Schema) (raw : String) :
    FieldType → ConversionCache → Except Fault Value × ConversionCache
  | .union spelled members, c =>
    match firstFrom s raw members c with
    | (.ok (some v), c) => (.ok v, c)
    | (.ok none, c) =>
      (.error (.conversion raw (.union spelled members)
        (.matchesNone ((members.filter (· != .nothing)).map (·.label)))), c)
    | (.error e, c) => (.error e, c)
  | t, c =>
    if t.takesText then (.ok (.text raw), c)
    else
      match t.grammar? with
      | some converter => (converter.apply raw t, c)
      | none =>
        match c.converter s t with
        | (.ok converter, c) => (converter.apply raw t, c)
        | (.error e, c) => (.error (.conversion raw t e), c)
/-- The value of a text in the first of the types that reads it. Only failed conversions are passed
over. -/
def firstFrom (s : Schema) (raw : String) :
    List FieldType → ConversionCache → Except Fault (Option Value) × ConversionCache
  | [], c => (.ok none, c)
  | t :: ts, c =>
    if t == .nothing then firstFrom s raw ts c
    else
      match convertFrom s raw t c with
      | (.ok v, c) => (.ok (some v), c)
      | (.error (.conversion ..), c) => firstFrom s raw ts c
      | (.error e, c) => (.error e, c)
end

/-- The value of a text, and the cache after the conversion. -/
def convert (c : ConversionCache) (s : Schema) (raw : String) (t : FieldType) :
    Except Fault Value × ConversionCache :=
  convertFrom s raw t c

end ConversionCache

end PagedQuery
