import PagedQuery.Schema.Expression.Layout
import PagedQuery.Text.Search

/-!
# Operations of type expressions

What signs before and between operands give of them.
-/

namespace PagedQuery.Expression

open PagedQuery.Number PagedQuery.Text

/-! ## Signs -/

/-- One of two types; at least one of them is no missing value. -/
def alternative (l r : Meaning) : Outcome :=
  match l, r with
  | .type s, .type t => .ok (.type (.unionOf false [s, t]))
  | .type s, .none => .ok (.type (.unionOf false [s, .nothing]))
  | .none, .type t => .ok (.type (.unionOf false [.nothing, t]))
  | _, _ => .error .meaningless

/-- The exponents up to which powers are worked out. -/
def powerLimit : Nat := 100000

/-- A power of floats; of a negative base only whole ones are real. -/
def floatPower (x y : Float) : Outcome :=
  if x == 0.0 && y < 0.0 then
    .error (.division "0.0 cannot be raised to a negative power")
  else if x < 0.0 && y.floor != y then .ok (.thing "complex")
  else
    let power := Float.pow x y
    if power.isInf && !x.isInf && !y.isInf then
      .error (.tooLarge "(34, 'Numerical result out of range')")
    else .ok (.float power)

/-- An operation on whole numbers. -/
def wholeOperation (sign : String) (a b : Int) : Outcome :=
  match sign with
  | "+" => .ok (.int (a + b))
  | "-" => .ok (.int (a - b))
  | "*" => .ok (.int (a * b))
  | "/" =>
    if b = 0 then .error (.division "division by zero")
    else .ok (.float (Meaning.floatOfInt a / Meaning.floatOfInt b))
  | "//" =>
    if b = 0 then .error (.division "integer division or modulo by zero")
    else .ok (.int (Int.fdiv a b))
  | "%" =>
    if b = 0 then .error (.division "integer modulo by zero") else .ok (.int (Int.fmod a b))
  | "**" =>
    if b < 0 then floatPower (Meaning.floatOfInt a) (Meaning.floatOfInt b)
    else if powerLimit < b then .ok (.thing "int")
    else .ok (.int (Int.pow a b.toNat))
  | "<<" =>
    if b < 0 then .error (.badValue "negative shift count")
    else if powerLimit < b then .ok (.thing "int")
    else .ok (.int (a * Nat.pow 2 b.toNat))
  | ">>" =>
    if b < 0 then .error (.badValue "negative shift count")
    else if powerLimit < b then .ok (.int (if a < 0 then -1 else 0))
    else .ok (.int (Int.fdiv a (Nat.pow 2 b.toNat)))
  | "|" | "&" | "^" => .ok (.int (bits sign a b))
  | _ => .error .meaningless
where
  /-- Bits joined one by one, in a width that holds both numbers. -/
  bits (sign : String) (a b : Int) : Int :=
    let width := Nat.log2 (a.natAbs + 1) + Nat.log2 (b.natAbs + 1) + 2
    let modulus := Nat.pow 2 width
    let m := (Int.fmod a modulus).toNat
    let n := (Int.fmod b modulus).toNat
    let joined := if sign = "|" then m ||| n else if sign = "&" then m &&& n else m ^^^ n
    if joined < modulus / 2 then joined else (joined : Int) - modulus

/-- An operation on floats. -/
def floatOperation (sign : String) (x y : Float) : Outcome :=
  match sign with
  | "+" => .ok (.float (x + y))
  | "-" => .ok (.float (x - y))
  | "*" => .ok (.float (x * y))
  | "/" => if y == 0.0 then .error (.division "float division by zero") else .ok (.float (x / y))
  | "//" =>
    if y == 0.0 then .error (.division "float floor division by zero")
    else .ok (.float (x / y).floor)
  | "%" =>
    if y == 0.0 then .error (.division "float modulo")
    else .ok (.float (x - y * (x / y).floor))
  | "**" => floatPower x y
  | _ => .error .meaningless

/-- The length up to which copies of sequences are made. -/
def copyLimit : Nat := 1000000

/-- The copies of a sequence one after the other, unless they are too long. -/
def repeated? {α : Type} (xs : List α) (n : Int) : Option (List α) :=
  if copyLimit < xs.length * n.toNat then none else some (List.replicate n.toNat xs).flatten

/-- A sequence several times. -/
def repeatedSequence? (m : Meaning) (n : Int) : Option Meaning :=
  match m with
  | .text s => (repeated? s.toList n).map fun cs => .text (String.ofList cs)
  | .bytes bs => (repeated? bs n).map .bytes
  | .tuple items => (repeated? items n).map .tuple
  | .list items => (repeated? items n).map .list
  | _ => none

/-- An operation on two sets, of the class of the first one. -/
def setOperation (sign : String) (frozen : Bool) (ms ns : List Meaning) : Outcome :=
  let isIn := fun (items : List Meaning) (m : Meaning) => items.any (Meaning.same m)
  let without := fun (ms ns : List Meaning) => ms.filter (!isIn ns ·)
  match sign with
  | "|" => .ok (.set frozen (ms ++ without ns ms))
  | "&" => .ok (.set frozen (ms.filter (isIn ns)))
  | "-" => .ok (.set frozen (without ms ns))
  | "^" => .ok (.set frozen (without ms ns ++ without ns ms))
  | _ => .error .meaningless

/-- An operation on sequences and on things of which the class decides. -/
def otherOperation (sign : String) (l r : Meaning) : Outcome :=
  match sign, l, r with
  | "+", .text s, .text t => .ok (.text (s ++ t))
  | "+", .bytes bs, .bytes cs => .ok (.bytes (bs ++ cs))
  | "+", .tuple ms, .tuple ns => .ok (.tuple (ms ++ ns))
  | "+", .list ms, .list ns => .ok (.list (ms ++ ns))
  | "*", l, r =>
    let repeated? :=
      match r.whole?, l.whole? with
      | some n, none => repeatedSequence? l n
      | none, some n => repeatedSequence? r n
      | _, _ => none
    match repeated? with
    | some m => .ok m
    | none => complexOperation l r
  | "|", .dict ks vs, .dict ls ws => .ok (Meaning.ofEntries (ks ++ ls) (vs ++ ws))
  | sign, .set frozen ms, .set _ ns => setOperation sign frozen ms ns
  | "|", l, r => alternative l r
  | "%", .text s, r => (fillPercents s r).map .text
  | "%", .bytes bs, _ => if bs.contains 37 then .ok (.thing "bytes") else .error .meaningless
  | "-", l, r | "+", l, r | "/", l, r | "**", l, r => complexOperation l r
  | _, _, _ => .error .meaningless
where
  /-- Numbers of which at least one is complex. -/
  complexOperation (l r : Meaning) : Outcome :=
    let isComplex := fun m : Meaning => m.className == "complex"
    let isNumber := fun m : Meaning => isComplex m || m.float?.isSome
    if isNumber l && isNumber r && (isComplex l || isComplex r) then .ok (.thing "complex")
    else .error .meaningless

/-- An operation between two operands. -/
def binary (sign : String) (l r : Meaning) : Outcome :=
  match l, r with
  | .bool a, .bool b =>
    match sign with
    | "|" => .ok (.bool (a || b))
    | "&" => .ok (.bool (a && b))
    | "^" => .ok (.bool (a != b))
    | _ => wholeOperation sign (if a then 1 else 0) (if b then 1 else 0)
  | l, r =>
    match l.whole?, r.whole? with
    | some a, some b => wholeOperation sign a b
    | _, _ =>
      match l.float?, r.float? with
      | some x, some y => floatOperation sign x y
      | _, _ => otherOperation sign l r

/-- A sign before an operand. -/
def signed (sign : String) (m : Meaning) : Outcome :=
  match m, m.whole? with
  | _, some n =>
    if sign = "-" then .ok (.int (-n))
    else if sign = "+" then .ok (.int n)
    else .ok (.int (-n - 1))
  | .float x, _ =>
    if sign = "-" then .ok (.float (-x))
    else if sign = "+" then .ok (.float x)
    else .error .meaningless
  | .thing "complex", _ => if sign = "~" then .error .meaningless else .ok m
  | _, _ => .error .meaningless

/-- Whether the first of two comes before the second, if they have an order. -/
def lessThan? : Nat → Meaning → Meaning → Option Bool
  | 0, _, _ => none
  | fuel + 1, l, r =>
    match l.whole?, r.whole?, l.float?, r.float? with
    | some a, some b, _, _ => some (a < b)
    | _, _, some x, some y => some (x < y)
    | _, _, _, _ =>
      match l, r with
      | .text s, .text t => some (s < t)
      | .bytes bs, .bytes cs => some (bs.map (·.toNat) < cs.map (·.toNat))
      | .tuple ms, .tuple ns | .list ms, .list ns =>
        match (ms.zip ns).find? fun (m, n) => !Meaning.same m n with
        | some (m, n) => lessThan? fuel m n
        | none => some (ms.length < ns.length)
      | _, _ => none

/-- Whether an item is among those of something. -/
def among (m collection : Meaning) : Except ExpressionError Bool :=
  match m, collection with
  | .text s, .text t => .ok (occursIn s.toList t.toList)
  | _, .text _ => .error .meaningless
  | .bytes bs, .bytes cs => .ok (occursInBytes bs cs)
  | m, .bytes bs =>
    match m.whole? with
    | some n =>
      if 0 ≤ n ∧ n < 256 then .ok (bs.any fun b => b.toNat = n.toNat)
      else .error (.badValue "byte must be in range(0, 256)")
    | none => .error .meaningless
  | m, c =>
    match if isLookedUp c && !m.isKey then none else c.supply? with
    | some (items, fault?) =>
      if items.any (Meaning.same m) then .ok true
      else
        match fault? with
        | some fault => .error fault
        | none => .ok false
    | none => .error .meaningless
where
  /-- Whether items are found by what they are kept under. -/
  isLookedUp : Meaning → Bool
    | .dict .. | .set .. => true
    | _ => false
  occursInBytes (bs cs : List UInt8) : Bool :=
    let chars := fun bytes : List UInt8 => bytes.map fun b => Char.ofNat b.toNat
    occursIn (chars bs) (chars cs)

/-- Whether two are one and the same thing: what can be changed is made anew each time. -/
def identical (l r : Meaning) : Bool :=
  match l with
  | .list _ | .dict .. | .set false _ | .stream .. | .function .. | .bound .. | .failure ..
  | .type (.generic ..) | .type (.union ..) => false
  | l => l.className == r.className && Meaning.same l r

/-- Whether all items of the first of two sets are in the second one. -/
def isSubset (ms ns : List Meaning) : Bool := Meaning.eachIn ms ns

/-- One comparison. -/
def compared (sign : String) (l r : Meaning) : Except ExpressionError Bool :=
  let order := fun (l r : Meaning) (orSame : Bool) =>
    match l, r with
    | .set _ ms, .set _ ns => .ok (isSubset ms ns && (orSame || ms.length < ns.length))
    | l, r =>
      match lessThan? 100 l r with
      | some b => .ok (b || (orSame && Meaning.same l r))
      | none => .error ExpressionError.meaningless
  match sign with
  | "==" => .ok (Meaning.same l r)
  | "!=" => .ok (!Meaning.same l r)
  | "is" => .ok (identical l r)
  | "is not" => .ok (!identical l r)
  | "in" => among l r
  | "not in" => (among l r).map (!·)
  | "<" => order l r false
  | ">" => order r l false
  | "<=" => order l r true
  | _ => order r l true

end PagedQuery.Expression
