import PagedQuery.Schema.Expression.Builtin

/-!
# Layouts of type expressions

How values are written into texts: in a form, with a sign, and filled up to a width. Texts may hold
places for values, marked with a percent sign or by braces.
-/

namespace PagedQuery.Expression

open PagedQuery.Number PagedQuery.Text

abbrev Outcome := Except ExpressionError Meaning

/-- Values given by place and by name. -/
structure Arguments where
  placed : List Meaning := []
  named : List (String × Meaning) := []
  deriving Inhabited

/-- How a value is written out. -/
def textOf : Meaning → String
  | .text s => s
  | .failure _ [] => ""
  | .failure "KeyError" [m] => m.shown
  | .failure _ [.text s] => s
  | .failure _ [m] => m.shown
  | .failure _ ms => (Meaning.tuple ms).shown
  | m => m.shown

/-- How messages show a value, in ASCII. -/
def asciiText (m : Meaning) : String :=
  String.join (m.shown.toList.map fun c =>
    if c.toNat < 128 then c.toString else escapeHidden c.toNat)
where
  escapeHidden (code : Nat) : String :=
    if code < 0x100 then "\\x" ++ hexText 2 code
    else if code < 0x10000 then "\\u" ++ hexText 4 code
    else "\\U" ++ hexText 8 code

/-- A value in the form of a letter. -/
def formedText (form : String) (m : Meaning) : String :=
  if form = "r" then m.shown else if form = "a" then asciiText m else textOf m

/-! ## Layouts -/

structure Layout where
  fill : Char := ' '
  align? : Option Char := none
  sign? : Option Char := none
  /-- Whether marks of the base are written. -/
  marked : Bool := false
  width : Nat := 0
  grouping? : Option Char := none
  precision? : Option Nat := none
  form? : Option Char := none
  deriving Repr, Inhabited

/-- A number at the start of characters, if there is one, and the rest. -/
def leadingNumber (cs : List Char) : Option Nat × List Char :=
  let digits := cs.takeWhile Char.isDigit
  (if digits.isEmpty then none else some (ofDigits (digits.map fun c => c.toNat - 48)),
    cs.drop digits.length)

/-- A character of some, if the first one is such, and the rest. -/
def leadingMark (marks : String) : List Char → Option Char × List Char
  | c :: rest => if marks.toList.contains c then (some c, rest) else (none, c :: rest)
  | [] => (none, [])

/-- The layout that a text spells for values of a class. -/
def Layout.of (className spelled : String) : Except ExpressionError Layout :=
  let cs := spelled.toList
  let (fill?, align?, cs) :=
    match cs with
    | f :: a :: rest =>
      if "<>=^".toList.contains a then (some f, some a, rest)
      else
        let (align?, rest) := leadingMark "<>=^" (f :: a :: rest)
        (none, align?, rest)
    | cs =>
      let (align?, rest) := leadingMark "<>=^" cs
      (none, align?, rest)
  let (sign?, cs) := leadingMark "+- " cs
  let (mark?, cs) := leadingMark "#" cs
  let (zero?, cs) := if fill?.isSome then (none, cs) else leadingMark "0" cs
  let (width?, cs) := leadingNumber cs
  let (grouping?, cs) := leadingMark ",_" cs
  let (point?, cs) := leadingMark "." cs
  let (precision?, cs) := if point?.isSome then leadingNumber cs else (none, cs)
  if point?.isSome ∧ precision?.isNone then
    .error (.badValue "Format specifier missing precision")
  else
    match cs with
    | _ :: _ :: _ =>
      .error (.badValue ("Invalid format specifier " ++ quoted spelled ++ " for object of type '" ++
        className ++ "'"))
    | cs =>
      let zeroAlign := if zero?.isSome ∧ className ≠ "str" then some '=' else none
      .ok {
        fill := fill?.getD (if zero?.isSome then '0' else ' ')
        align? := align?.orElse fun _ => zeroAlign
        sign?, marked := mark?.isSome, width := width?.getD 0, grouping?, precision?
        form? := cs.head? }

def unknownForm (className : String) (form : Char) : ExpressionError :=
  let shown := if form.toNat < 128 then form.toString else "\\x" ++ hexText 2 form.toNat
  .badValue ("Unknown format code '" ++ shown ++ "' for object of type '" ++ className ++
    "'")

/-- The widths up to which texts are filled. -/
def widthLimit : Nat := 1000000

/-- A text filled up to a width; the mark of a sign may stand before the filling. -/
def Layout.fillUp (layout : Layout) (default : Char) (mark body : String) : String :=
  let missing := min layout.width widthLimit - (mark.length + body.length)
  let filling := fun n => String.ofList (List.replicate n layout.fill)
  match layout.align?.getD default with
  | '<' => mark ++ body ++ filling missing
  | '>' => filling missing ++ mark ++ body
  | '^' => filling (missing / 2) ++ mark ++ body ++ filling (missing - missing / 2)
  | _ => mark ++ filling missing ++ body

/-- The sign that a number is written with. -/
def Layout.signText (layout : Layout) (negative : Bool) : String :=
  if negative then "-"
  else
    match layout.sign? with
    | some '+' => "+"
    | some ' ' => " "
    | _ => ""

/-- Digits in groups of a size from the end. -/
def groupDigits (size : Nat) (mark : Char) (digits : List Char) : List Char :=
  go digits.reverse 0 []
where
  go : List Char → Nat → List Char → List Char
    | [], _, done => done
    | c :: rest, n, done =>
      if n = size then go rest 1 (c :: mark :: done) else go rest (n + 1) (c :: done)

/-- A text in a layout. -/
def Layout.ofText (layout : Layout) (s : String) : Except ExpressionError String :=
  match layout.form? with
  | some 's' | none =>
    if layout.sign?.isSome then
      .error (.badValue "Sign not allowed in string format specifier")
    else if layout.marked then
      .error (.badValue "Alternate form (#) not allowed in string format specifier")
    else if layout.align? = some '=' then
      .error (.badValue "'=' alignment not allowed in string format specifier")
    else
      match layout.grouping? with
      | some mark => .error (.badValue ("Cannot specify '" ++ mark.toString ++ "' with 's'."))
      | none =>
        let cs := s.toList
        .ok (layout.fillUp '<' "" (String.ofList (cs.take (layout.precision?.getD cs.length))))
  | some form => .error (unknownForm "str" form)

/-- The number nearest to `mantissa · 2 ^ exponent` with a number of digits after the point. -/
def fixedDigits (places : Nat) (mantissa : Nat) (exponent : Int) : List Char :=
  let (n, d) := scaleFraction mantissa exponent (-(places : Int))
  let down := n / d
  let twice := 2 * (n - down * d)
  let nearest := if twice < d then down else if d < twice then down + 1 else down + down % 2
  let digits := Nat.toDigits 10 nearest
  let digits := List.replicate (places + 1 - digits.length) '0' ++ digits
  if places = 0 then digits
  else digits.take (digits.length - places) ++ '.' :: digits.drop (digits.length - places)

/-- The sign of a float and its digits, with a number of them after the point. -/
def fixedText (places : Nat) (x : Float) : Bool × String :=
  match FloatParts.ofFloat x with
  | .notANumber => (false, "nan")
  | .infinite negative => (negative, "inf")
  | .finite negative mantissa exponent =>
    (negative, String.ofList (fixedDigits places mantissa exponent))

/-- A float in a layout; forms with exponents are left out. -/
def Layout.ofFloat (layout : Layout) (x : Float) : Except ExpressionError String :=
  let grouped := fun body : String =>
    match layout.grouping? with
    | some mark =>
      let digits := body.toList.takeWhile Char.isDigit
      String.ofList (groupDigits 3 mark digits ++ body.toList.drop digits.length)
    | none => body
  let written := fun (negative : Bool) (body : String) =>
    .ok (layout.fillUp '>' (layout.signText negative) (grouped body))
  match layout.form?, layout.precision? with
  | none, none =>
    let text := floatText x
    if text.startsWith "-" then written true (String.ofList (text.toList.drop 1))
    else written false text
  | some 'f', p? | some 'F', p? =>
    let (negative, body) := fixedText (p?.getD 6) x
    written negative body
  | some '%', p? =>
    let (negative, body) := fixedText (p?.getD 6) (x * 100.0)
    written negative (body ++ "%")
  | some 'e', _ | some 'E', _ | some 'g', _ | some 'G', _ | some 'n', _ | none, _ =>
    .error .meaningless
  | some form, _ => .error (unknownForm "float" form)

/-- The base of a form of whole numbers, and the mark of the base. -/
def formBase? : Char → Option (Nat × String)
  | 'd' | 'n' | 'i' | 'u' => some (10, "")
  | 'b' => some (2, "0b")
  | 'o' => some (8, "0o")
  | 'x' => some (16, "0x")
  | 'X' => some (16, "0X")
  | _ => none

/-- The digits of a number in a base. -/
def digitsIn (form : Char) (base n : Nat) : List Char :=
  let digits := Nat.toDigits base n
  if form = 'X' then digits.map Char.toUpper else digits

/-- A whole number in a layout. -/
def Layout.ofWhole (layout : Layout) (n : Int) : Except ExpressionError String :=
  let form := layout.form?.getD 'd'
  if "eEfFgG%".toList.contains form then layout.ofFloat (Meaning.floatOfInt n)
  else if layout.precision?.isSome then
    if form = 'd' ∨ (formBase? form).isSome ∨ form = 'c' then
      .error (.badValue "Precision not allowed in integer format specifier")
    else .error (unknownForm "int" form)
  else if form = 'c' then
    if n < 0 ∨ 0x110000 ≤ n then .error (.tooLarge "%c arg not in range(0x110000)")
    else .ok (layout.fillUp '<' "" (Char.ofNat n.toNat).toString)
  else
    match if form = 'i' ∨ form = 'u' then none else formBase? form with
    | none => .error (unknownForm "int" form)
    | some (base, mark) =>
      let digits := digitsIn form base n.natAbs
      match layout.grouping? with
      | some ',' =>
        if base = 10 then
          let body := String.ofList (groupDigits 3 ',' digits)
          .ok (layout.fillUp '>' (layout.signText (n < 0)) body)
        else .error (.badValue ("Cannot specify ',' with '" ++ form.toString ++ "'."))
      | grouping? =>
        let digits :=
          match grouping? with
          | some mark => groupDigits (if base = 10 then 3 else 4) mark digits
          | none => digits
        let mark := if layout.marked then mark else ""
        .ok (layout.fillUp '>' (layout.signText (n < 0) ++ mark) (String.ofList digits))

/-- A value in the layout that a text spells; an empty one leaves the value as it is. -/
def laidOut (m : Meaning) (spelled : String) : Except ExpressionError String :=
  if spelled = "" then .ok (textOf m)
  else
    match m, m.whole? with
    | .text s, _ => do (← Layout.of "str" spelled).ofText s
    | .float x, _ => do (← Layout.of "float" spelled).ofFloat x
    | _, some n => do (← Layout.of "int" spelled).ofWhole n
    | _, none => .error .meaningless

/-! ## Places after percent signs -/

/-- The value that comes next, and those after it. -/
def nextValue : List Meaning → Except ExpressionError (Meaning × List Meaning)
  | m :: ms => .ok (m, ms)
  | [] => .error .meaningless

/-- The whole number of a value, floats cut off. -/
def cutToWhole (m : Meaning) : Except ExpressionError Int :=
  match m, m.whole? with
  | _, some n => .ok n
  | .float x, _ =>
    match FloatParts.ofFloat x with
    | .finite negative mantissa e => .ok (truncateFloat negative mantissa e)
    | .infinite _ => .error (.tooLarge "cannot convert float infinity to integer")
    | .notANumber => .error (.badValue "cannot convert float NaN to integer")
  | _, none => .error .meaningless

/-- A value in the form of the letter after a percent sign. -/
def percentText (layout : Layout) (form : Char) (place : Nat) (m : Meaning) :
    Except ExpressionError String :=
  let align := layout.align?.getD '>'
  let plain := { layout with align? := some (if align = '=' then '>' else align), fill := ' ' }
  let cut := fun s : String => String.ofList (s.toList.take (layout.precision?.getD s.length))
  let whole := fun n : Int =>
    let (base, mark) := (formBase? form).getD (10, "")
    let digits := digitsIn form base n.natAbs
    let missing := layout.precision?.getD 0 - digits.length
    let body := String.ofList (List.replicate missing '0' ++ digits)
    .ok (layout.fillUp '>' (layout.signText (n < 0) ++ (if layout.marked then mark else "")) body)
  match form with
  | 's' | 'r' | 'a' => .ok (plain.fillUp '>' "" (cut (formedText form.toString m)))
  | 'd' | 'i' | 'u' => do whole (← cutToWhole m)
  | 'x' | 'X' | 'o' =>
    match m.whole? with
    | some n => whole n
    | none => .error .meaningless
  | 'f' | 'F' =>
    match m.float? with
    | some x => { layout with form? := some 'f' }.ofFloat x
    | none => .error .meaningless
  | 'e' | 'E' | 'g' | 'G' => .error .meaningless
  | 'c' =>
    match m, m.whole? with
    | .text s, _ => if s.length = 1 then .ok (plain.fillUp '>' "" s) else .error .meaningless
    | _, some n =>
      if n < 0 ∨ 0x110000 ≤ n then .error (.tooLarge "%c arg not in range(0x110000)")
      else .ok (plain.fillUp '>' "" (Char.ofNat n.toNat).toString)
    | _, none => .error .meaningless
  | c =>
    .error (.badValue ("unsupported format character '" ++ c.toString ++ "' (0x" ++
      hexText 1 c.toNat ++ ") at index " ++ toString place))

/-- The name in parentheses after a percent sign, and the rest. -/
def takeName (depth : Nat) : List Char → Option (List Char × List Char)
  | [] => none
  | c :: rest =>
    if c = ')' ∧ depth = 0 then some ([], rest)
    else
      let depth := if c = '(' then depth + 1 else if c = ')' then depth - 1 else depth
      (takeName depth rest).map fun (name, rest) => (c :: name, rest)

/-- The layout after a percent sign, and the rest from its letter on. -/
def percentLayout (cs : List Char) : Layout × List Char :=
  let flags := cs.takeWhile fun c => "-+ #0".toList.contains c
  let (width?, cs) := leadingNumber (cs.drop flags.length)
  let (point?, cs) := leadingMark "." cs
  let (precision?, cs) := if point?.isSome then leadingNumber cs else (none, cs)
  let (_, cs) := leadingMark "hlL" cs
  let left := flags.contains '-'
  let zero := flags.contains '0' && !left
  ({ fill := if zero then '0' else ' '
     align? := some (if left then '<' else if zero then '=' else '>')
     sign? := if flags.contains '+' then some '+' else if flags.contains ' ' then some ' ' else none
     marked := flags.contains '#'
     width := width?.getD 0
     precision? := if point?.isSome then some (precision?.getD 0) else none }, cs)

/-- A text with its places filled by values, and the values that are left. `all` is what names
in the places are looked up in. -/
def fillPercentsFrom (all : Meaning) (length : Nat) :
    Nat → List Char → List Meaning → Except ExpressionError (List Char × List Meaning)
  | 0, _, values => .ok ([], values)
  | _ + 1, [], values => .ok ([], values)
  | fuel + 1, '%' :: '%' :: rest, values => do
    let (cs, values) ← fillPercentsFrom all length fuel rest values
    return ('%' :: cs, values)
  | fuel + 1, '%' :: rest, values => do
    let (named?, rest) ←
      match rest with
      | '(' :: cs =>
        match takeName 0 cs with
        | none => throw (.badValue "incomplete format key")
        | some (name, rest) =>
          let key := Meaning.text (String.ofList name)
          match all with
          | .dict keys entries =>
            match Meaning.entryOf keys entries key with
            | some m => pure (some m, rest)
            | none => throw (.noKey key.shown)
          | _ => throw .meaningless
      | rest => pure (none, rest)
    let (layout, rest) := percentLayout rest
    match rest with
    | [] => throw (.badValue "incomplete format")
    | form :: after =>
      let (m, values) ←
        match named? with
        | some m => pure (m, [])
        | none => nextValue values
      let text ← percentText layout form (length - rest.length) m
      let (cs, values) ← fillPercentsFrom all length fuel after values
      return (text.toList ++ cs, values)
  | fuel + 1, c :: rest, values => do
    let (cs, values) ← fillPercentsFrom all length fuel rest values
    return (c :: cs, values)

/-- A text with its places after percent signs filled by values. All values have to be used, unless
they have names. -/
def fillPercents (s : String) (m : Meaning) : Except ExpressionError String := do
  let cs := s.toList
  let values :=
    match m with
    | .tuple items => items
    | m => [m]
  match ← fillPercentsFrom m cs.length (cs.length + 1) cs values with
  | (cs, []) => return String.ofList cs
  | (cs, _) =>
    match m with
    | .dict .. | .list _ | .progression .. | .range .. => return String.ofList cs
    | _ => throw .meaningless

/-! ## Places in braces -/

/-- The characters of a place up to its closing brace, braces in it matched, and the rest. -/
def takeBraced (depth : Nat) : List Char → Option (List Char × List Char)
  | [] => none
  | c :: rest =>
    if c = '\x7d' ∧ depth = 0 then some ([], rest)
    else
      let depth := if c = '\x7b' then depth + 1 else if c = '\x7d' then depth - 1 else depth
      (takeBraced depth rest).map fun (body, rest) => (c :: body, rest)

/-- How the values of places are chosen: by number, one after the other from a number on, or in a
way that is not fixed. -/
inductive Numbering
  | free
  | counted (next : Nat)
  | numbered
  deriving Repr, DecidableEq

/-- The value of a place and how the next ones are chosen. -/
def valueOfPlace (arguments : Arguments) (numbering : Numbering) (name : List Char) :
    Except ExpressionError (Meaning × Numbering) :=
  let byPlace := fun (i : Nat) (numbering : Numbering) =>
    match arguments.placed[i]? with
    | some m => .ok (m, numbering)
    | none => .error (.noPlace i)
  match name, numbering with
  | [], .numbered =>
    .error (.badValue
      "cannot switch from manual field specification to automatic field numbering")
  | [], .counted n => byPlace n (.counted (n + 1))
  | [], .free => byPlace 0 (.counted 1)
  | name, numbering =>
    match if name.all Char.isDigit then (leadingNumber name).1 else none, numbering with
    | some _, .counted _ =>
      .error (.badValue
        "cannot switch from automatic field numbering to manual field specification")
    | some i, _ => byPlace i .numbered
    | none, numbering =>
      match arguments.named.lookup (String.ofList name) with
      | some m => .ok (m, numbering)
      | none => .error (.noKey (quoted (String.ofList name)))

/-- A text with its places in braces filled. `within` gives the fields and items that are asked for
after the name of a value. -/
def fillBracesFrom (within : Meaning → List Char → Outcome) (arguments : Arguments) :
    Nat → Numbering → List Char → Except ExpressionError (List Char × Numbering)
  | 0, numbering, _ => .ok ([], numbering)
  | _ + 1, numbering, [] => .ok ([], numbering)
  | fuel + 1, numbering, '\x7b' :: '\x7b' :: rest => do
    let (cs, numbering) ← fillBracesFrom within arguments fuel numbering rest
    return ('\x7b' :: cs, numbering)
  | fuel + 1, numbering, '\x7d' :: '\x7d' :: rest => do
    let (cs, numbering) ← fillBracesFrom within arguments fuel numbering rest
    return ('\x7d' :: cs, numbering)
  | _ + 1, _, '\x7d' :: _ => throw (.badValue "Single '\x7d' encountered in format string")
  | _ + 1, _, ['\x7b'] => throw (.badValue "Single '\x7b' encountered in format string")
  | fuel + 1, numbering, '\x7b' :: rest => do
    match takeBraced 0 rest with
    | none => throw (.badValue "expected '\x7d' before end of string")
    | some (body, rest) =>
      let name := body.takeWhile fun c => c != ':' && c != '!'
      let (form, spelled) ←
        match body.drop name.length with
        | '!' :: form :: ':' :: spelled => pure (some form, spelled)
        | ['!', form] => pure (some form, [])
        | '!' :: _ :: _ =>
          throw (.badValue "expected ':' after conversion specifier")
        | ['!'] => throw (.badValue "unmatched '\x7b' in format spec")
        | ':' :: spelled => pure (none, spelled)
        | _ => pure (none, [])
      let head := name.takeWhile fun c => c != '.' && c != '\x5b'
      let (m, numbering) ← valueOfPlace arguments numbering head
      let m ← within m (name.drop head.length)
      let m ←
        match form with
        | none => pure m
        | some c =>
          if c = 's' ∨ c = 'r' ∨ c = 'a' then pure (.text (formedText c.toString m))
          else throw (.badValue ("Unknown conversion specifier " ++ c.toString))
      let (spelled, numbering) ← fillBracesFrom within arguments fuel numbering spelled
      let text ← laidOut m (String.ofList spelled)
      let (cs, numbering) ← fillBracesFrom within arguments fuel numbering rest
      return (text.toList ++ cs, numbering)
  | fuel + 1, numbering, c :: rest => do
    let (cs, numbering) ← fillBracesFrom within arguments fuel numbering rest
    return (c :: cs, numbering)

/-- A text with its places in braces filled by values. -/
def fillBraces (within : Meaning → List Char → Outcome) (s : String) (arguments : Arguments) :
    Except ExpressionError String := do
  let cs := s.toList
  let (cs, _) ← fillBracesFrom within arguments (cs.length + 1) .free cs
  return String.ofList cs

end PagedQuery.Expression
