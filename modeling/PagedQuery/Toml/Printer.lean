import PagedQuery.Value.Basic

/-!
# Writing TOML

Entries one to a line, then the tables. An array has one element to a line. A mapping inside an
array is written in place, unless it is the element of an array of mappings one of which does not
fit on a line.
-/

namespace PagedQuery.Toml

open PagedQuery.Text

/-- Why a value cannot be written. -/
inductive WriteError
  | unsupported (type : String)
  | key (shown type : String)
  | offsetTime
  deriving Repr, DecidableEq

def WriteError.message : WriteError → String
  | unsupported type => "Object of type '" ++ type ++ "' is not TOML serializable"
  | key shown type =>
    "Invalid mapping key '" ++ shown ++ "' of type '" ++ type ++ "'. A string is required."
  | offsetTime => "TOML does not support offset times"

/-- A character of a basic string. -/
def writtenChar (c : Char) : String :=
  if c = '\x08' then "\\b"
  else if c = '\n' then "\\n"
  else if c = '\x0c' then "\\f"
  else if c = '\r' then "\\r"
  else if c = '"' then "\\\""
  else if c = '\\' then "\\\\"
  else if (c.toNat < 0x20 ∧ c ≠ '\t') ∨ c.toNat = 0x7f then "\\u" ++ hexText 4 c.toNat
  else c.toString

def writtenText (s : String) : String := "\"" ++ String.join (s.toList.map writtenChar) ++ "\""

def isBare (c : Char) : Bool := c.isAlphanum || c == '-' || c == '_'

def writtenKey (key : Value) : Except WriteError String :=
  match key.text? with
  | some s => .ok (if s ≠ "" ∧ s.toList.all isBare then s else writtenText s)
  | none => .error (.key key.toText key.typeName)

/-- A decimal number, told from an integer by its point or exponent. -/
def writtenDecimal : Number.Decimal → String
  | .notANumber .. => "nan"
  | .infinite negative => if negative then "-inf" else "inf"
  | d =>
    let s := d.text.map Char.toLower
    if s.toList.any fun c => c == '.' || c == 'e' then s else s ++ ".0"

/-- A value that holds no others. -/
def writtenAtom (v : Value) : Except WriteError String :=
  match v with
  | .bool b => .ok (if b then "true" else "false")
  | .int _ | .float _ | .date _ | .dateTime _ | .member _ .integer _ _ | .member _ .float _ _ =>
    .ok v.toText
  | .time t => if t.offset.isSome then .error .offsetTime else .ok t.text
  | .decimal d => .ok (writtenDecimal d)
  | v =>
    match v.text? with
    | some s => .ok (writtenText s)
    | none => .error (.unsupported v.typeName)

def indentation (level : Nat) : String := String.ofList (List.replicate (4 * level) ' ')

/-- An array of written elements. -/
def bracketedLines (level : Nat) (items : List String) : String :=
  if items.isEmpty then "[]"
  else
    "[\n" ++ String.intercalate ",\n" (items.map (indentation (level + 1) ++ ·)) ++ ",\n" ++
      indentation level ++ "]"

/-- An inline table of written entries. -/
def bracedEntries (entries : List String) : String :=
  if entries.isEmpty then Value.braces ""
  else Value.braces (" " ++ String.intercalate ", " entries ++ " ")

mutual
/-- A value in place, inside arrays of the given number. -/
def written (level : Nat) : Value → Except WriteError String
  | .list xs => (writtenAll (level + 1) xs).map (bracketedLines level)
  | .tuple xs => (writtenAll (level + 1) xs).map (bracketedLines level)
  | .dict entries => (writtenEntries entries).map bracedEntries
  | v => writtenAtom v
def writtenAll (level : Nat) : List Value → Except WriteError (List String)
  | [] => .ok []
  | x :: xs => do
    let s ← written level x
    return s :: (← writtenAll level xs)
def writtenEntries : List (Value × Value) → Except WriteError (List String)
  | [] => .ok []
  | (k, v) :: rest => do
    let key ← writtenKey k
    let s ← written 0 v
    return (key ++ " = " ++ s) :: (← writtenEntries rest)
end

/-- The longest line that an inline table may take, with its indentation and a comma. -/
def lineLimit : Nat := 100

/-- Whether mappings all fit on lines of their own; the first that does not decides. -/
def allFit : List Value → Except WriteError Bool
  | [] => .ok true
  | x :: xs => do
    let s ← written 0 x
    if s.length + 5 ≤ lineLimit && !s.toList.contains '\n' then allFit xs else return false

/-- Whether a value is written as a table, or tables, of its own. -/
def isSection (v : Value) : Except WriteError Bool :=
  let ofList := fun (xs : List Value) =>
    if !xs.isEmpty && xs.all (fun x => match x with
      | .dict _ => true
      | _ => false) then (allFit xs).map (!·)
    else .ok false
  match v with
  | .dict _ => .ok true
  | .list xs | .tuple xs => ofList xs
  | _ => .ok false

/-- What has been written, up to the first value that cannot be. -/
structure Written where
  text : String := ""
  error : Option WriteError := none
  deriving Repr, DecidableEq

namespace Written

def ofExcept : Except WriteError String → Written
  | .ok s => ⟨s, none⟩
  | .error e => ⟨"", some e⟩

/-- Goes on after what has been written, unless that has stopped. -/
def followedBy (w : Written) (next : Written) : Written :=
  if w.error.isSome then w else ⟨w.text ++ next.text, next.error⟩

end Written

/-- The lines of entries. -/
def entryLines : List (Value × Value) → Written
  | [] => {}
  | (k, v) :: rest =>
    (Written.ofExcept do
      let key ← writtenKey k
      let s ← written 0 v
      return key ++ " = " ++ s ++ "\n").followedBy (entryLines rest)

/-- The header of a table. -/
def header (name : String) (inArray : Bool) : String :=
  if inArray then "[[" ++ name ++ "]]\n" else "[" ++ name ++ "]\n"

/-- The dotted name of a table inside another one. -/
def nested (name key : String) : String := if name = "" then key else name ++ "." ++ key

/-- What stands before the tables inside a table: its header and its entries. -/
structure Opening where
  name : String
  written : Written
  /-- Whether anything stands there. -/
  parted : Bool

/-- The opening of a table of the given name. It has a header if it is in an array, or has a name
and more than tables inside. -/
def Opening.of (name : String) (inArray : Bool) (entries : List (Value × Value)) : Opening :=
  match entries.mapM fun (_, v) => isSection v with
  | .error e => ⟨name, ⟨"", some e⟩, false⟩
  | .ok kinds =>
    let plain := ((entries.zip kinds).filter fun (_, k) => !k).map (·.1)
    let head :=
      if inArray || (name != "" && (!plain.isEmpty || kinds.all (!·))) then header name inArray
      else ""
    let start : Written := ⟨head, none⟩
    ⟨name, start.followedBy (entryLines plain), head != "" || !plain.isEmpty⟩

/-- The opening of a table under a key, after an empty line if something stands before it. -/
def Opening.under (name : String) (parted : Bool) (key : Value) (inArray : Bool)
    (entries : List (Value × Value)) : Opening :=
  let gap : Written := ⟨if parted then "\n" else "", none⟩
  match writtenKey key with
  | .error e => ⟨name, { gap with error := some e }, true⟩
  | .ok key =>
    let opening := Opening.of (nested name key) inArray entries
    { opening with written := gap.followedBy opening.written }

mutual
/-- The tables among entries, with empty lines between them. -/
def sections (name : String) (parted : Bool) : List (Value × Value) → Written
  | [] => {}
  | (k, .dict es) :: rest =>
    let opening := Opening.under name parted k false es
    (opening.written.followedBy (sections opening.name opening.parted es)).followedBy
      (sections name true rest)
  | (k, .list xs) :: rest =>
    match isSection (.list xs) with
    | .ok true => (tables name parted k xs).followedBy (sections name true rest)
    | _ => sections name parted rest
  | (k, .tuple xs) :: rest =>
    match isSection (.tuple xs) with
    | .ok true => (tables name parted k xs).followedBy (sections name true rest)
    | _ => sections name parted rest
  | _ :: rest => sections name parted rest
/-- The tables of an array. -/
def tables (name : String) (parted : Bool) (k : Value) : List Value → Written
  | [] => {}
  | .dict es :: rest =>
    let opening := Opening.under name parted k true es
    (opening.written.followedBy (sections opening.name opening.parted es)).followedBy
      (tables name true k rest)
  | _ :: rest => tables name parted k rest
end

/-- The text of entries. -/
def write (entries : List (Value × Value)) : Written :=
  let opening := Opening.of "" false entries
  opening.written.followedBy (sections "" opening.parted entries)

end PagedQuery.Toml
