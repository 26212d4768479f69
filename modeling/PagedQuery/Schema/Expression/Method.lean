import PagedQuery.Schema.Expression.Access
import PagedQuery.Schema.Expression.Operation
import PagedQuery.Text.Utf8

/-!
# Methods in type expressions

What the methods of values give. No value is changed by them: a method that is there to change its
value gives what it would give.
-/

namespace PagedQuery.Expression

open PagedQuery.Number PagedQuery.Text

/-! ## Encodings -/

inductive Encoding
  | ascii
  | latin
  | utf8
  /-- An encoding of which only the name is known. -/
  | other
  deriving Repr, DecidableEq

/-- The encoding of a name, if there is one. -/
def encodingNamed? (name : String) : Option Encoding :=
  let plain := String.ofList (name.toList.filterMap fun c =>
    if c.isAlphanum then some c.toLower else none)
  if ["ascii", "usascii", "646"].contains plain then some .ascii
  else if ["latin1", "iso88591", "latin", "l1"].contains plain then some .latin
  else if ["utf8", "u8", "utf"].contains plain then some .utf8
  else if ["cp1252", "cp437", "idna", "iso885915", "koi8r", "macroman", "punycode",
      "rawunicodeescape", "shiftjis", "unicodeescape", "utf16", "utf16be", "utf16le", "utf32",
      "utf7", "utf8sig"].contains plain then some .other
  else none

/-- How messages name an encoding. -/
def Encoding.label : Encoding → String
  | .ascii => "ascii"
  | .latin => "latin-1"
  | .utf8 | .other => "utf-8"

/-- The number of codes that an encoding has one byte for each. -/
def Encoding.range : Encoding → Nat
  | .ascii => 128
  | .latin => 256
  | .utf8 | .other => 0x110000

def encodingNamed (name : String) : Except ExpressionError Encoding :=
  match encodingNamed? name with
  | some e => .ok e
  | none => .error (.unknownEncoding name)

/-- An encoding and what is done about characters that it does not have. -/
def encodingArguments (arguments : List Meaning) :
    Except ExpressionError (Encoding × Option String) :=
  match arguments with
  | [] | [.none] => .ok (.utf8, none)
  | [.text name] => (encodingNamed name).map fun e => (e, none)
  | [.none, .text policy] => .ok (.utf8, some policy)
  | [.text name, .text policy] => (encodingNamed name).map fun e => (e, some policy)
  | _ => .error .meaningless

/-- The bytes of a text. -/
def encoded (s : String) (encoding : Encoding) (policy? : Option String) : Outcome :=
  let cs := s.toList
  let isHidden := fun c : Char => encoding.range ≤ c.toNat
  let bytesOf := fun cs : List Char => Meaning.bytes (cs.map fun c => UInt8.ofNat c.toNat)
  if encoding = .other then .ok (.thing "bytes")
  else if encoding = .utf8 then .ok (.bytes (encodeUtf8 cs))
  else if cs.any isHidden then
    match policy?.getD "strict" with
    | "ignore" => .ok (bytesOf (cs.filter (!isHidden ·)))
    | "replace" => .ok (bytesOf (cs.map fun c => if isHidden c then '?' else c))
    | "strict" =>
      let start := (cs.takeWhile (!isHidden ·)).length
      let hidden := (cs.drop start).takeWhile isHidden
      let what :=
        match hidden with
        | [c] =>
          "character '" ++ asciiText.escapeHidden c.toNat ++ "' in position " ++ toString start
        | hidden =>
          "characters in position " ++ toString start ++ "-" ++
            toString (start + hidden.length - 1)
      .error (.notEncodable ("'" ++ encoding.label ++ "' codec can't encode " ++ what ++
        ": ordinal not in range(" ++ toString encoding.range ++ ")"))
    | _ => .error .meaningless
  else .ok (bytesOf cs)

/-- The text of bytes. -/
def decoded (bs : List UInt8) (encoding : Encoding) (policy? : Option String) : Outcome :=
  let isHidden := fun b : UInt8 => 128 ≤ b.toNat
  let textOfBytes := fun bs : List UInt8 =>
    Meaning.text (String.ofList (bs.map fun b => Char.ofNat b.toNat))
  let fault := fun (place : Nat) (reason : String) =>
    Except.error (ExpressionError.notDecodable ("'" ++ encoding.label ++
      "' codec can't decode byte 0x" ++ hexText 2 ((bs[place]?.map UInt8.toNat).getD 0) ++
      " in position " ++ toString place ++ ": " ++ reason))
  match encoding, policy?.getD "strict" with
  | .other, _ => .ok (.thing "str")
  | .latin, _ => .ok (textOfBytes bs)
  | _, "replace" => .ok (.text (String.ofList (decodeUtf8 bs)))
  | _, "ignore" => .ok (.text (String.ofList ((decodeUtf8 bs).filter (· != replacement))))
  | .ascii, "strict" =>
    if bs.any isHidden then
      fault (bs.takeWhile (!isHidden ·)).length "ordinal not in range(128)"
    else .ok (textOfBytes bs)
  | .utf8, "strict" =>
    let cs := decodeUtf8 bs
    if encodeUtf8 cs = bs then .ok (.text (String.ofList cs))
    else
      let place := (encodeUtf8 (cs.takeWhile (· != replacement))).length
      let first := (bs[place]?.map UInt8.toNat).getD 0
      if first < 0xC2 ∨ 0xF4 < first then fault place "invalid start byte"
      else if bs.length ≤ place + 1 then fault place "unexpected end of data"
      else fault place "invalid continuation byte"
  | _, _ => .error .meaningless

/-! ## Texts -/

/-- Letters changed by whether a cased one stands before them. -/
def titled (after : Bool) : List Char → List Char
  | [] => []
  | c :: rest => (if after then lowerChar c else upperChar c) ++ titled (isCased c) rest

/-- Upper case for lower case and the other way round. -/
def swapped (c : Char) : List Char := if upperChar c = [c] then lowerChar c else upperChar c

/-- The texts that a method makes of one without arguments. -/
def textChange? : String → Option (String → String)
  | "upper" => some upper
  | "lower" => some lower
  | "casefold" => some fold
  | "capitalize" => some fun s =>
    capitalize (String.ofList (s.toList.take 1)) ++ lower (String.ofList (s.toList.drop 1))
  | "title" => some fun s => String.ofList (titled false s.toList)
  | "swapcase" => some fun s => String.ofList (s.toList.flatMap swapped)
  | "__str__" => some id
  | "__repr__" => some quoted
  | _ => none

/-- What a method asks about a text. -/
def textTest? : String → Option (List Char → Bool)
  | "isascii" => some fun cs => cs.all (·.toNat < 128)
  | "isprintable" => some fun cs => cs.all isPrintable
  | "isidentifier" => some fun cs => cs.head?.any isWordStart && cs.all isWordPart
  | "isspace" => some fun cs => !cs.isEmpty && cs.all isBlank
  | "isalpha" => some fun cs => !cs.isEmpty && cs.all fun c => isWordStart c && c != '_'
  | "isalnum" => some fun cs => !cs.isEmpty && cs.all fun c => isWordPart c && c != '_'
  | "isdecimal" | "isnumeric" => some fun cs =>
    !cs.isEmpty && cs.all fun c => (digitValue? c).isSome
  | "isdigit" => some fun cs => !cs.isEmpty && cs.all isDigitLike
  | "islower" => some fun cs => cs.any isCased && cs.flatMap lowerChar == cs
  | "isupper" => some fun cs => cs.any isCased && cs.flatMap upperChar == cs
  | "istitle" => some fun cs => cs.any isCased && titled false cs == cs
  | _ => none

/-- Arguments in the order of names; those in between that are not given are missing values. -/
def Arguments.inOrder (arguments : Arguments) (names : List String) : List Meaning :=
  let given := fun name => arguments.named.lookup name
  let wanted := names.drop arguments.placed.length
  let count := ((wanted.reverse.dropWhile fun name => (given name).isNone)).length
  arguments.placed ++ (wanted.take count).map fun name => (given name).getD .none

/-- A part of a sequence between bounds, and where it starts. -/
def partBetween {α : Type} (xs : List α) (bounds : List Meaning) :
    Except ExpressionError (Nat × List α) := do
  match bounds with
  | [] => return (0, xs)
  | [start] =>
    let i := clampIndex xs.length ((← bound start).getD 0)
    return (i, xs.drop i)
  | [start, stop] =>
    let i := clampIndex xs.length ((← bound start).getD 0)
    let j := clampIndex xs.length ((← bound stop).getD xs.length)
    return (i, (xs.drop i).take (j - i))
  | _ => throw .meaningless

/-- The words of a text between blanks, at most `limit` of them before the rest. -/
def wordsOf : Nat → List Char → List (List Char)
  | limit, cs =>
    match cs.dropWhile isBlank with
    | [] => []
    | rest =>
      match limit with
      | 0 => [rest]
      | limit + 1 =>
        let word := rest.takeWhile (!isBlank ·)
        word :: wordsOf limit (rest.drop word.length)

/-- How often a piece may be split off. -/
def splitLimit (cs : List Char) (m : Meaning) : Nat :=
  match m.whole? with
  | some n => if n < 0 then cs.length + 1 else n.toNat
  | none => cs.length + 1

/-- The pieces of a text; from its end if `backward`. -/
def splitText (backward : Bool) (cs : List Char) (arguments : List Meaning) :
    Except ExpressionError (List (List Char)) :=
  let limit := splitLimit cs (arguments[1]?.getD .none)
  let turn := fun pieces : List (List Char) => (pieces.map List.reverse).reverse
  match arguments[0]?.getD .none with
  | .none => .ok (if backward then turn (wordsOf limit cs.reverse) else wordsOf limit cs)
  | .text separator =>
    let pattern := separator.toList
    if pattern.isEmpty then .error (.badValue "empty separator")
    else .ok (if backward then turn (piecesAt pattern.reverse limit cs.reverse)
      else piecesAt pattern limit cs)
  | _ => .error .meaningless

/-- Lines of a text, with the ends of lines or without. -/
def linesOf (keep : Bool) : Nat → List Char → List (List Char)
  | 0, _ => []
  | _ + 1, [] => []
  | fuel + 1, cs =>
    let isEnd := fun c : Char =>
      (0xa ≤ c.toNat && c.toNat ≤ 0xd) || (0x1c ≤ c.toNat && c.toNat ≤ 0x1e) || c.toNat == 0x85 ||
        c.toNat == 0x2028 || c.toNat == 0x2029
    let line := cs.takeWhile (!isEnd ·)
    let ending := if (cs.drop line.length).take 2 = ['\r', '\n'] then 2 else 1
    let next := cs.drop line.length
    (if keep then line ++ next.take ending else line) :: linesOf keep fuel (next.drop ending)

/-- A text with all or the first occurrences of one replaced. -/
def replaced (old new : List Char) (limit : Nat) (cs : List Char) : List Char :=
  if old.isEmpty then
    let starts := cs.take (limit - 1)
    (if limit = 0 then [] else new) ++ starts.flatMap (fun c => c :: new) ++ cs.drop (limit - 1)
  else List.intercalate new (piecesAt old limit cs)

/-- The texts among items, if all are such. -/
def texts? (items : List Meaning) : Option (List String) :=
  items.mapM fun | .text s => some s | _ => none

/-- Whether a text starts with another one, or ends with it, or with one of several. -/
def startsWithAny (backward : Bool) (cs : List Char) (m : Meaning) : Outcome :=
  let starts := fun s : String =>
    if backward then s.toList.reverse.isPrefixOf cs.reverse else s.toList.isPrefixOf cs
  match m with
  | .text s => .ok (.bool (starts s))
  | .tuple items =>
    match texts? items with
    | some ss => .ok (.bool (ss.any starts))
    | none => .error .meaningless
  | _ => .error .meaningless

/-- A text filled up to a width by a character: before it, behind it, or on both sides. -/
def padded? (name : String) (cs : List Char) (width : Int) (fill : Char) : Option String :=
  let missing := min width.toNat widthLimit - cs.length
  let filling := fun n => List.replicate n fill
  match name with
  | "ljust" => some (String.ofList (cs ++ filling missing))
  | "rjust" => some (String.ofList (filling missing ++ cs))
  | "center" =>
    let before := missing / 2 + (if missing % 2 = 1 ∧ width.toNat % 2 = 1 then 1 else 0)
    some (String.ofList (filling before ++ cs ++ filling (missing - before)))
  | "zfill" =>
    let (sign, digits) := cs.span fun c => c == '-' || c == '+'
    some (String.ofList (sign.take 1 ++ filling missing ++ sign.drop 1 ++ digits))
  | _ => none

/-- A text cut at the first or last occurrence of a separator. -/
def parted (backward : Bool) (cs separator : List Char) : Meaning :=
  let text := fun cs => Meaning.text (String.ofList cs)
  let place? :=
    if backward then
      (placeIn? separator.reverse cs.reverse).map fun i => cs.length - i - separator.length
    else placeIn? separator cs
  match place? with
  | some i =>
    .tuple [text (cs.take i), text separator, text (cs.drop (i + separator.length))]
  | none => .tuple (if backward then [text [], text [], text cs] else [text cs, text [], text []])

/-- What a method of a text gives. -/
def textMethod (s name : String) (arguments : Arguments) : Outcome :=
  let cs := s.toList
  let text := fun cs => Meaning.text (String.ofList cs)
  let find := fun (backward : Bool) (pattern : String) (bounds : List Meaning) =>
    (partBetween cs bounds).map fun (start, part) =>
      let p := pattern.toList
      if backward then
        (placeIn? p.reverse part.reverse).map fun i => start + part.length - i - p.length
      else (placeIn? p part).map (start + ·)
  match textChange? name, textTest? name, arguments with
  | some change, _, ⟨[], []⟩ => .ok (.text (change s))
  | _, some test, ⟨[], []⟩ => .ok (.bool (test cs))
  | _, _, arguments =>
    match name, arguments.placed with
    | "format", _ => (fillBraces (within s.length.succ) s arguments).map .text
    | "format_map", [.dict keys values] =>
      let named := (keys.zip values).filterMap fun (k, v) =>
        match k with
        | .text name => some (name, v)
        | _ => none
      (fillBraces (within s.length.succ) s ⟨[], named⟩).map .text
    | "split", _ => do
      let pieces ← splitText false cs (arguments.inOrder ["sep", "maxsplit"])
      return .list (pieces.map text)
    | "rsplit", _ => do
      let pieces ← splitText true cs (arguments.inOrder ["sep", "maxsplit"])
      return .list (pieces.map text)
    | "splitlines", _ =>
      match (arguments.inOrder ["keepends"]).map Meaning.whole? with
      | [] => .ok (.list ((linesOf false (cs.length + 1) cs).map text))
      | [some n] => .ok (.list ((linesOf (n != 0) (cs.length + 1) cs).map text))
      | _ => .error .meaningless
    | "encode", _ => do
      let (encoding, policy?) ← encodingArguments (arguments.inOrder ["encoding", "errors"])
      encoded s encoding policy?
    | "strip", [] | "strip", [.none] => .ok (text (stripList isBlank cs))
    | "strip", [.text marks] => .ok (text (stripList marks.toList.contains cs))
    | "lstrip", [] | "lstrip", [.none] => .ok (text (cs.dropWhile isBlank))
    | "lstrip", [.text marks] => .ok (text (cs.dropWhile marks.toList.contains))
    | "rstrip", [] | "rstrip", [.none] => .ok (text (cs.reverse.dropWhile isBlank).reverse)
    | "rstrip", [.text marks] => .ok (text (cs.reverse.dropWhile marks.toList.contains).reverse)
    | "replace", .text old :: .text new :: limit =>
      let limit := splitLimit cs (limit.head?.getD .none)
      .ok (text (replaced old.toList new.toList limit cs))
    | "join", [m] => do
      match texts? (← m.items) with
      | some ss => return .text (String.intercalate s ss)
      | none => throw .meaningless
    | "startswith", m :: bounds => do startsWithAny false (← partBetween cs bounds).2 m
    | "endswith", m :: bounds => do startsWithAny true (← partBetween cs bounds).2 m
    | "find", .text p :: bounds => do
      return .int (((← find false p bounds).map Int.ofNat).getD (-1))
    | "rfind", .text p :: bounds => do
      return .int (((← find true p bounds).map Int.ofNat).getD (-1))
    | "index", .text p :: bounds => do
      match ← find false p bounds with
      | some i => return .int i
      | none => throw (.badValue "substring not found")
    | "rindex", .text p :: bounds => do
      match ← find true p bounds with
      | some i => return .int i
      | none => throw (.badValue "substring not found")
    | "count", .text p :: bounds => do
      let (_, part) ← partBetween cs bounds
      if p = "" then return .int (part.length + 1)
      else return .int (piecesAt p.toList (part.length + 1) part).length.pred
    | "partition", [.text p] | "rpartition", [.text p] =>
      if p = "" then .error (.badValue "empty separator")
      else .ok (parted (name = "rpartition") cs p.toList)
    | "removeprefix", [.text p] => .ok (text ((afterPrefix? p.toList cs).getD cs))
    | "removesuffix", [.text p] =>
      .ok (text (((afterPrefix? p.toList.reverse cs.reverse).map List.reverse).getD cs))
    | "expandtabs", _ => .ok (.thing "str")
    | "zfill", [m] =>
      match m.whole?.bind fun width => padded? name cs width '0' with
      | some s => .ok (.text s)
      | none => .error .meaningless
    | name, m :: fill =>
      match m.whole?, fill with
      | some width, [] => ofPadded (padded? name cs width ' ')
      | some width, [.text f] =>
        match f.toList with
        | [c] => ofPadded (padded? name cs width c)
        | _ => .error .meaningless
      | _, _ => .error .meaningless
    | _, _ => .error .meaningless
where
  ofPadded : Option String → Outcome
    | some s => .ok (.text s)
    | none => .error .meaningless

mutual
/-- Bytes as a text of the same codes, also in tuples. -/
def bytesAsText : Meaning → Meaning
  | .bytes bs => .text (String.ofList (bs.map fun b => Char.ofNat b.toNat))
  | .tuple ms => .tuple (allBytesAsText ms)
  | .list ms => .list (allBytesAsText ms)
  | m => m
def allBytesAsText : List Meaning → List Meaning
  | [] => []
  | m :: ms => bytesAsText m :: allBytesAsText ms
end

mutual
/-- Texts of small codes as bytes, also in lists. -/
def textAsBytes : Meaning → Meaning
  | .text s => .bytes (s.toList.map fun c => UInt8.ofNat c.toNat)
  | .tuple ms => .tuple (allTextAsBytes ms)
  | .list ms => .list (allTextAsBytes ms)
  | m => m
def allTextAsBytes : List Meaning → List Meaning
  | [] => []
  | m :: ms => textAsBytes m :: allTextAsBytes ms
end

/-- What a method of bytes gives: mostly the same as of a text. -/
def bytesMethod (bs : List UInt8) (name : String) (arguments : Arguments) : Outcome :=
  match name with
  | "decode" => do
    let (encoding, policy?) ← encodingArguments (arguments.inOrder ["encoding", "errors"])
    decoded bs encoding policy?
  | "hex" => .ok (.text (String.join (bs.map fun b => hexText 2 b.toNat)))
  | name =>
    let isText := fun m => match m with | Meaning.text _ => true | _ => false
    if arguments.placed.any isText ∨ ["format", "encode", "casefold"].contains name then
      .error .meaningless
    else
      let s := String.ofList (bs.map fun b => Char.ofNat b.toNat)
      match textMethod s name ⟨allBytesAsText arguments.placed, arguments.named⟩ with
      | .error (.badValue "substring not found") => .error (.badValue "subsection not found")
      | found => found.map textAsBytes

/-! ## Collections -/

/-- What a method of a list or tuple gives. -/
def sequenceMethod (isList : Bool) (items : List Meaning) (name : String)
    (arguments : List Meaning) : Outcome :=
  match name, arguments with
  | "count", [m] => .ok (.int (items.filter (Meaning.same m)).length)
  | "index", m :: bounds => do
    let (start, part) ← partBetween items bounds
    match part.findIdx? (Meaning.same m) with
    | some i => return .int (start + i)
    | none =>
      throw (.badValue
        (if isList then m.shown ++ " is not in list" else "tuple.index(x): x not in tuple"))
  | "copy", [] => .ok (.list items)
  | "append", [_] | "clear", [] | "reverse", [] => .ok .none
  | "insert", [i, _] => if i.whole?.isSome then .ok .none else .error .meaningless
  | "extend", [m] => do
    let _ ← m.items
    return .none
  | "remove", [m] =>
    if items.any (Meaning.same m) then .ok .none
    else .error (.badValue "list.remove(x): x not in list")
  | "pop", [] => takeOut (-1)
  | "pop", [m] =>
    match m.whole? with
    | some i => takeOut i
    | none => .error .meaningless
  | _, _ => .error .meaningless
where
  takeOut (i : Int) : Outcome :=
    if items.isEmpty then .error (.badRange "pop from empty list")
    else
      let place := if i < 0 then i + items.length else i
      match if place < 0 then none else items[place.toNat]? with
      | some m => .ok m
      | none => .error (.badRange "pop index out of range")

/-- What a method of a progression gives. -/
def progressionMethod (m : Meaning) (name : String) (arguments : List Meaning) : Outcome :=
  match name, arguments with
  | "index", [n] => do
    match (← m.items).findIdx? (Meaning.same n) with
    | some i => return .int i
    | none =>
      throw (.badValue
        (if n.whole?.isSome then n.shown ++ " is not in range"
         else "sequence.index(x): x not in sequence"))
  | "count", [n] => do return .int ((← m.items).filter (Meaning.same n)).length
  | _, _ => .error .meaningless

/-- A view of a dictionary. -/
def viewOf (name : String) (keys values : List Meaning) : Meaning :=
  match name with
  | "keys" => .stream "dict_keys" keys none
  | "values" => .stream "dict_values" values none
  | _ => .stream "dict_items" (List.zipWith (fun k v => .tuple [k, v]) keys values) none

/-- The entries of a dictionary that items stand for, each by a key and a value. -/
def entriesOf : Nat → List Meaning → Except ExpressionError (List Meaning × List Meaning)
  | _, [] => .ok ([], [])
  | i, m :: ms => do
    match ← m.items with
    | [k, v] =>
      let (ks, vs) ← entriesOf (i + 1) ms
      return (k :: ks, v :: vs)
    | items =>
      throw (.badValue ("dictionary update sequence element #" ++ toString i ++ " has length " ++
        toString items.length ++ "; 2 is required"))

/-- What a method of a dictionary gives. -/
def dictMethod (keys values : List Meaning) (name : String) (arguments : List Meaning) : Outcome :=
  match name, arguments with
  | "keys", [] | "values", [] | "items", [] => .ok (viewOf name keys values)
  | "copy", [] => .ok (.dict keys values)
  | "clear", [] => .ok .none
  | "update", [] | "update", [.dict ..] => .ok .none
  | "update", [m] => do
    let (keys, _) ← entriesOf 0 (← m.items)
    if Meaning.areKeys keys then return .none else throw .meaningless
  | "popitem", [] =>
    match keys.getLast?, values.getLast? with
    | some k, some v => .ok (.tuple [k, v])
    | _, _ => .error (.noKey "'popitem(): dictionary is empty'")
  | name, key :: default =>
    if !key.isKey ∨ 1 < default.length then .error .meaningless
    else
      match name, Meaning.entryOf keys values key, default with
      | "get", some v, _ | "setdefault", some v, _ | "pop", some v, _ => .ok v
      | "get", none, default | "setdefault", none, default => .ok (default.head?.getD .none)
      | "pop", none, [m] => .ok m
      | "pop", none, _ => .error (.noKey key.shown)
      | _, _, _ => .error .meaningless
  | _, _ => .error .meaningless

/-- The sign of an operation on sets that a method is another name of. -/
def setSign? : String → Option String
  | "union" => some "|"
  | "intersection" => some "&"
  | "difference" => some "-"
  | "symmetric_difference" => some "^"
  | _ => none

/-- What a method of a set gives. -/
def setMethod (frozen : Bool) (items : List Meaning) (name : String) (arguments : List Meaning) :
    Outcome :=
  match setSign? name, name, arguments with
  | some sign, _, arguments =>
    if sign = "^" ∧ arguments.length ≠ 1 then .error .meaningless
    else arguments.foldlM (fun m argument => do
      match m, Meaning.distinct (← argument.items) with
      | .set frozen ms, ns => setOperation sign frozen ms ns
      | _, _ => throw .meaningless) (.set frozen items)
  | none, "copy", [] => .ok (.set frozen items)
  | none, "issubset", [m] => do return .bool (isSubset items (← m.items))
  | none, "issuperset", [m] => do return .bool (isSubset (← m.items) items)
  | none, "isdisjoint", [m] => do
    return .bool ((← m.items).all fun n => !items.any (Meaning.same n))
  | none, "clear", [] => .ok .none
  | none, "pop", [] =>
    match items with
    | m :: _ => .ok m
    | [] => .error (.noKey "'pop from an empty set'")
  | none, "remove", [m] =>
    if items.any (Meaning.same m) then .ok .none else .error (.noKey m.shown)
  | none, "add", [m] | none, "discard", [m] => if m.isKey then .ok .none else .error .meaningless
  | none, "update", _ | none, "difference_update", _ | none, "intersection_update", _ |
    none, "symmetric_difference_update", _ => .ok .none
  | _, _, _ => .error .meaningless

/-! ## Numbers -/

/-- A whole number as bytes, the most significant one first. -/
def wholeBytes (n : Int) (length : Nat) (withSign : Bool) : Except ExpressionError (List UInt8) :=
  let modulus := Nat.pow 256 length
  if n < 0 ∧ !withSign then .error (.tooLarge "can't convert negative int to unsigned")
  else
    let limit := if withSign then modulus / 2 else modulus
    if (limit : Int) ≤ n ∨ n < -(limit : Int) then .error (.tooLarge "int too big to convert")
    else
      let m := (Int.fmod n modulus).toNat
      .ok ((List.range length).reverse.map fun i => UInt8.ofNat (m / Nat.pow 256 i % 256))

/-- The whole number of bytes. -/
def wholeOfBytes (bs : List UInt8) (withSign : Bool) : Int :=
  let n := bs.foldl (fun n b => 256 * n + b.toNat) 0
  let modulus := Nat.pow 256 bs.length
  if withSign ∧ modulus ≤ 2 * n then (n : Int) - modulus else n

/-- Whether the least significant byte comes first. -/
def smallEndFirst (m : Meaning) : Except ExpressionError Bool :=
  match m with
  | .text "big" => .ok false
  | .text "little" => .ok true
  | .text _ => .error (.badValue "byteorder must be either 'little' or 'big'")
  | _ => .error .meaningless

/-- What a method of a whole number gives. -/
def wholeMethod (n : Int) (name : String) (arguments : Arguments) : Outcome :=
  match name, arguments.placed with
  | "bit_length", [] => .ok (.int (if n = 0 then 0 else Nat.log2 n.natAbs + 1))
  | "bit_count", [] => .ok (.int ((Nat.toDigits 2 n.natAbs).filter (· == '1')).length)
  | "conjugate", [] | "__trunc__", [] | "__floor__", [] | "__ceil__", [] | "__round__", [] |
    "__int__", [] | "__index__", [] => .ok (.int n)
  | "__round__", [m] => if m.whole?.isSome then .ok (.thing "int") else .error .meaningless
  | "__float__", [] => .ok (.float (Meaning.floatOfInt n))
  | "__abs__", [] => .ok (.int n.natAbs)
  | "as_integer_ratio", [] => .ok (.tuple [.int n, .int 1])
  | "to_bytes", _ => do
    let given := arguments.inOrder ["length", "byteorder"]
    let length ←
      match (given.head?.getD (.int 1)).whole? with
      | some length => pure length
      | none => throw .meaningless
    let turned ← smallEndFirst (given[1]?.getD (.text "big"))
    let withSign := ((arguments.named.lookup "signed").map Meaning.isTrue).getD false
    if length < 0 then throw (.badValue "length argument must be non-negative")
    let bs ← wholeBytes n (min length.toNat widthLimit) withSign
    return .bytes (if turned then bs.reverse else bs)
  | _, _ => .error .meaningless

/-- What a method of a float gives. -/
def floatMethod (x : Float) (name : String) (arguments : List Meaning) : Outcome :=
  match name, arguments with
  | "is_integer", [] => .ok (.bool (x.floor == x && x.isFinite))
  | "conjugate", [] | "__float__", [] => .ok (.float x)
  | "__abs__", [] => .ok (.float x.abs)
  | "__int__", [] | "__trunc__", [] => (cutToWhole (.float x)).map .int
  | "__floor__", [] => (cutToWhole (.float x.floor)).map .int
  | "__ceil__", [] => (cutToWhole (.float x.ceil)).map .int
  | "as_integer_ratio", [] => .ok (.tuple [.thing "int", .thing "int"])
  | _, _ => .error .meaningless

/-! ## Operators -/

/-- The sign that a method is another name of, and whether the operands are turned round. -/
def signOf? : String → Option (String × Bool)
  | "__add__" => some ("+", false)
  | "__radd__" => some ("+", true)
  | "__sub__" => some ("-", false)
  | "__rsub__" => some ("-", true)
  | "__mul__" => some ("*", false)
  | "__rmul__" => some ("*", true)
  | "__truediv__" => some ("/", false)
  | "__rtruediv__" => some ("/", true)
  | "__floordiv__" => some ("//", false)
  | "__rfloordiv__" => some ("//", true)
  | "__mod__" => some ("%", false)
  | "__rmod__" => some ("%", true)
  | "__pow__" => some ("**", false)
  | "__rpow__" => some ("**", true)
  | "__lshift__" => some ("<<", false)
  | "__rlshift__" => some ("<<", true)
  | "__rshift__" => some (">>", false)
  | "__rrshift__" => some (">>", true)
  | "__and__" => some ("&", false)
  | "__rand__" => some ("&", true)
  | "__or__" => some ("|", false)
  | "__ror__" => some ("|", true)
  | "__xor__" => some ("^", false)
  | "__rxor__" => some ("^", true)
  | _ => none

/-- The comparison that a method is another name of. -/
def comparisonOf? : String → Option String
  | "__eq__" => some "=="
  | "__ne__" => some "!="
  | "__lt__" => some "<"
  | "__le__" => some "<="
  | "__gt__" => some ">"
  | "__ge__" => some ">="
  | _ => none

/-- What stands for an operation that operands do not have. -/
def notDefined : Meaning := .thing "NotImplementedType"

/-- An operation that does not fit its operands is none, unless the first one is a sequence. -/
def orNotDefined (m : Meaning) : Outcome → Outcome
  | .error .meaningless =>
    match m with
    | .text _ | .bytes _ | .tuple _ | .list _ => .error .meaningless
    | _ => .ok notDefined
  | found => found

/-- What a method that stands for an operator gives, if it is such. -/
def operatorMethod? (m : Meaning) (name : String) (arguments : List Meaning) : Option Outcome :=
  let isWider := fun n : Meaning => m.whole?.isSome && n.whole?.isNone
  match signOf? name, comparisonOf? name, arguments with
  | some (sign, turned), _, [n] =>
    if isWider n then some (.ok notDefined)
    else some (orNotDefined m (if turned then binary sign n m else binary sign m n))
  | _, some "==", [n] =>
    some (.ok (if isWider n then notDefined
      else if Meaning.same m n then .bool true
      else if m.className = n.className then .bool false else notDefined))
  | _, some sign, [n] =>
    some (match if isWider n then .error .meaningless else compared sign m n with
      | .ok b => .ok (.bool b)
      | .error _ => .ok notDefined)
  | _, _, _ =>
    match name, arguments with
    | "__neg__", [] => some (signed "-" m)
    | "__pos__", [] => some (signed "+" m)
    | "__invert__", [] => some (signed "~" m)
    | "__bool__", [] => some (.ok (.bool m.isTrue))
    | "__contains__", [n] => some ((among n m).map .bool)
    | "__getitem__", [n] => some (itemOf m n)
    | "__len__", [] => some (m.items.map fun items => .int items.length)
    | "__str__", [] => some (.ok (.text (textOf m)))
    | "__repr__", [] => some (.ok (.text m.shown))
    | "__format__", [.text spelled] => some ((laidOut m spelled).map .text)
    | "__getattribute__", [.text field] => some (fieldOf m field)
    | "__hash__", [] | "__sizeof__", [] => some (.ok (.thing "int"))
    | "__dir__", [] => some (.ok (.thing "list"))
    | "__init__", _ => some (.ok .none)
    | _, _ => none

/-- The class of what goes through the items of a value one by one. -/
def iteratorName (m : Meaning) : String :=
  match m with
  | .text s => if s.toList.all (·.toNat < 128) then "str_ascii_iterator" else "str_iterator"
  | .bytes _ => "bytes_iterator"
  | .tuple _ => "tuple_iterator"
  | .list _ => "list_iterator"
  | .set .. => "set_iterator"
  | .dict .. => "dict_keyiterator"
  | .progression .. => "range_iterator"
  | .type _ => "generic_alias_iterator"
  | .stream "dict_keys" .. => "dict_keyiterator"
  | .stream "dict_values" .. => "dict_valueiterator"
  | .stream "dict_items" .. => "dict_itemiterator"
  | m => m.className

/-- What goes through the items of a value. -/
def iterator (m : Meaning) : Outcome :=
  match m.supply? with
  | some (items, fault?) => .ok (.stream (iteratorName m) items fault?)
  | none => .error .meaningless

/-- The first item of what gives items one by one. -/
def firstOf (m : Meaning) : Outcome :=
  match m with
  | .stream _ (m :: _) _ => .ok m
  | .stream _ [] (some fault) => .error fault
  | .stream _ [] none => .error .exhausted
  | _ => .error .meaningless

/-- What a method of a value gives. -/
def methodOf (m : Meaning) (name : String) (arguments : Arguments) : Outcome :=
  match operatorMethod? m name arguments.placed with
  | some found => found
  | none =>
    match name, arguments.placed with
    | "__iter__", [] => iterator m
    | "__next__", [] => firstOf m
    | name, placed =>
      match m, m.whole? with
      | .text s, _ => textMethod s name arguments
      | .bytes bs, _ => bytesMethod bs name arguments
      | .list items, _ => sequenceMethod true items name placed
      | .tuple items, _ => sequenceMethod false items name placed
      | .dict keys values, _ => dictMethod keys values name placed
      | .set frozen items, _ => setMethod frozen items name placed
      | .float x, _ => floatMethod x name placed
      | .progression .., _ => progressionMethod m name placed
      | .failure .., _ => if name = "with_traceback" then .ok m else .error .meaningless
      | .type t, _ =>
        match name, placed with
        | "mro", [] => .ok (.list ((lineage t).map .type))
        | "__subclasses__", [] => .ok (.thing "list")
        | _, _ => .error .meaningless
      | .thing "bytearray", _ => if name = "decode" then .ok (.thing "str") else .error .meaningless
      | _, some n => wholeMethod n name arguments
      | _, none => .error .meaningless

end PagedQuery.Expression
