import PagedQuery.Number.Integer
import PagedQuery.Schema.FieldType
import PagedQuery.Text.Quoted
import PagedQuery.Time.Iso

/-!
# Conversion failures

Why a text is not converted to a type.
-/

namespace PagedQuery

open PagedQuery.Number PagedQuery.Text PagedQuery.Time

inductive ConversionError
  | integer (e : IntegerError)
  | digitSeparators
  | notFloat (text : String)
  | notDecimal
  | notBool
  | notDateTime
  | notDate
  | time (text : String) (e : Iso.IsoError)
  | notDuration
  | durationDays (days : Int)
  | durationTooLarge
  | durationUnit (name : String)
  | identifierLength
  | identifierDigits (text : String)
  | notMember (enumeration : String)
  | isbnDigits
  | bytesWithoutEncoding
  | notPairs
  /-- A class whose constructor takes no text. -/
  | noArguments (type : String)
  /-- A record type with more fields than one. -/
  | missingArguments (type : String) (fields : List String)
  /-- A record type without fields. -/
  | tooManyArguments (type : String)
  /-- A container name that builds no values. -/
  | notConstructible (aliasName className : String)
  /-- A form that stands for no values. -/
  | notInstantiable (form : String)
  /-- A form that is no class. -/
  | noConversion (form : String)
  /-- A thing under which no conversion is kept. -/
  | noConversionKey (type : String)
  /-- A class that refuses texts in words of its own. -/
  | refused (words : String)
  | matchesNone (types : List String)
  deriving Repr, DecidableEq

/-- Quoted names joined by commas, with `and` before the last one. -/
def joinNames (names : List String) : String :=
  match names.reverse with
  | [] => ""
  | [a] => quoted a
  | [b, a] => quoted a ++ " and " ++ quoted b
  | last :: rest =>
    String.intercalate ", " (rest.reverse.map quoted) ++ ", and " ++ quoted last

def ConversionError.message : ConversionError → String
  | .integer e => e.message
  | .digitSeparators => "digit separators are not allowed"
  | .notFloat text => "could not convert string to float: " ++ quoted text
  | .notDecimal => "not a decimal number"
  | .notBool => "expected 'true' or 'false'"
  | .notDateTime => "not an ISO-8601 date or date-time"
  | .notDate => "not a date"
  | .time text .malformed => "Invalid isoformat string: " ++ quoted text
  | .time _ .hourRange => "hour must be in 0..23"
  | .time _ .minuteRange => "minute must be in 0..59"
  | .time _ .secondRange => "second must be in 0..59"
  | .time _ .dateRange => "day is out of range for month"
  | .time _ (.offsetRange offset) =>
    "offset must be a timedelta strictly between -timedelta(hours=24) and " ++
      "timedelta(hours=24), not " ++
      spanParts offset ++ "."
  | .notDuration => "not a duration"
  | .durationDays days => "days=" ++ toString days ++ "; must have magnitude <= 999999999"
  | .durationTooLarge => "Python int too large to convert to C int"
  | .durationUnit name => quoted name ++ " is an invalid keyword argument for __new__()"
  | .identifierLength => "badly formed hexadecimal UUID string"
  | .identifierDigits text => literalMessage 16 text
  | .notMember enumeration => "not a member of " ++ enumeration
  | .isbnDigits => "ISBN must be digits"
  | .bytesWithoutEncoding => "string argument without an encoding"
  | .notPairs => "dictionary update sequence element #0 has length 1; 2 is required"
  | .noArguments "NoneType" => "NoneType takes no arguments"
  | .noArguments type => type ++ "() takes no arguments"
  | .missingArguments type [field] =>
    type ++ ".__init__() missing 1 required positional argument: " ++ quoted field
  | .missingArguments type fields =>
    type ++ ".__init__() missing " ++ toString fields.length ++
      " required positional arguments: " ++ joinNames fields
  | .tooManyArguments type => type ++ ".__init__() takes 1 positional argument but 2 were given"
  | .notConstructible aliasName className =>
    "Type " ++ aliasName ++ " cannot be instantiated; use " ++ className ++ "() instead"
  | .notInstantiable form => "Cannot instantiate " ++ form
  | .noConversion form => "no conversion to " ++ form
  | .noConversionKey type => "unhashable type: '" ++ type ++ "'"
  | .refused words => words
  | .matchesNone types => "matches none of " ++ String.intercalate ", " types

end PagedQuery
