import PagedQuery.Value.Basic

/-!
# Comparing values

Equality and order of values of any kinds. Numbers compare by their exact values whatever their
representation, texts by code point. Equality is defined for all pairs, order is not.
-/

namespace PagedQuery

open PagedQuery.Number PagedQuery.Text PagedQuery.Time

/-- The five comparisons. -/
inductive Comparison
  | less
  | lessOrEqual
  | equal
  | greaterOrEqual
  | greater
  deriving Repr, DecidableEq, Inhabited

namespace Comparison

def symbol : Comparison → String
  | .less => "<"
  | .lessOrEqual => "<="
  | .equal => "=="
  | .greaterOrEqual => ">="
  | .greater => ">"

/-- Whether the comparison holds of values in the given order. -/
def holds : Comparison → Ordering → Bool
  | .less, o => o == .lt
  | .lessOrEqual, o => o != .gt
  | .equal, o => o == .eq
  | .greaterOrEqual, o => o != .lt
  | .greater, o => o == .gt

end Comparison

/-- Why two values have no order. -/
inductive CompareError
  /-- The types do not compare. -/
  | unsupported (op : Comparison) (left right : String)
  /-- A moment and a day. -/
  | momentWithDay
  /-- A time with an offset and one without. -/
  | mixedOffsets (kind : String)
  /-- A decimal number and a not-a-number. -/
  | notANumber
  deriving Repr, DecidableEq

def CompareError.message : CompareError → String
  | .unsupported op left right =>
    "'" ++ op.symbol ++ "' not supported between instances of '" ++ left ++ "' and '" ++ right ++
      "'"
  | .momentWithDay => "can't compare datetime.datetime to datetime.date"
  | .mixedOffsets kind => "can't compare offset-naive and offset-aware " ++ kind
  | .notANumber => "[<class 'decimal.InvalidOperation'>]"

/-- A value that is a number, as a decimal, and whether it is one by its own representation. -/
def Value.number? : Value → Option (Decimal × Bool)
  | .bool b => some (.ofInt (if b then 1 else 0), false)
  | .int n => some (.ofInt n, false)
  | .float x => some ((FloatParts.ofFloat x).toDecimal, false)
  | .decimal d => some (d, true)
  | .member _ .integer _ (.int n) => some (.ofInt n, false)
  | .member _ .float _ (.float x) => some ((FloatParts.ofFloat x).toDecimal, false)
  | _ => none

/-- The order of two numbers; not-a-numbers have none. -/
def compareDecimals : Decimal → Decimal → Option Ordering
  | .notANumber .., _ | _, .notANumber .. => none
  | .infinite n, .infinite m => some (compare m.toNat n.toNat)
  | .infinite n, .finite .. => some (if n then .lt else .gt)
  | .finite .., .infinite n => some (if n then .gt else .lt)
  | .finite n c e, .finite m d f =>
    some (Scaled.compare (Decimal.scaled n c e) (Decimal.scaled m d f))

def Decimal.signals : Decimal → Bool
  | .notANumber _ s _ => s
  | _ => false

/-- Comparison of numbers: a not-a-number satisfies none, and with a decimal number involved it
has no order and, when signalling, no equality. -/
def compareNumbers (op : Comparison) (a b : Decimal × Bool) : Except CompareError Bool :=
  match compareDecimals a.1 b.1 with
  | some o => .ok (op.holds o)
  | none =>
    if (a.2 || b.2) && (op != .equal || Decimal.signals a.1 || Decimal.signals b.1) then
      .error .notANumber
    else .ok false

/-- The order of two texts. -/
def compareText (s t : String) : Ordering := compareOfLessAndEq s t

def compareBytes : List UInt8 → List UInt8 → Ordering
  | [], [] => .eq
  | [], _ :: _ => .lt
  | _ :: _, [] => .gt
  | a :: as, b :: bs => if a < b then .lt else if b < a then .gt else compareBytes as bs

/-- Comparison of two times or moments given by their positions; both or neither have offsets,
or they are not equal and have no order. -/
def compareOffsets (op : Comparison) (kind : String) (offset offset' : Option Int)
    (wall aware : Ordering) : Except CompareError Bool :=
  match offset, offset' with
  | none, none => .ok (op.holds wall)
  | some o, some o' => .ok (op.holds (if o = o' then wall else aware))
  | _, _ => if op = .equal then .ok false else .error (.mixedOffsets kind)

/-- The order of two times of known offsets, by second and then by microsecond. -/
def compareAwareTimes (t u : TimeOfDay) : Ordering :=
  let seconds := fun (t : TimeOfDay) =>
    Int.fdiv t.wallMicros microsPerSecond - Int.fdiv (t.offset.getD 0) microsPerSecond
  (compare (seconds t) (seconds u)).then (compare t.micro u.micro)

/-- Comparison of two values that hold no others. -/
def compareAtoms (op : Comparison) (a b : Value) : Except CompareError Bool :=
  let unsupported :=
    if op = .equal then .ok false
    else .error (.unsupported op a.qualifiedTypeName b.qualifiedTypeName)
  match a.number?, b.number? with
  | some m, some n => compareNumbers op m n
  | some _, none | none, some _ => unsupported
  | none, none =>
    match a.text?, b.text? with
    | some s, some t => .ok (op.holds (compareText s t))
    | some _, none | none, some _ => unsupported
    | none, none =>
      match a, b with
      | .bytes s, .bytes t => .ok (op.holds (compareBytes s t))
      | .date d, .date e => .ok (op.holds (compare d.ordinal e.ordinal))
      | .dateTime _, .date _ | .date _, .dateTime _ =>
        if op = .equal then .ok false else .error .momentWithDay
      | .dateTime t, .dateTime u =>
        compareOffsets op "datetimes" t.time.offset u.time.offset
          (compare t.wallMicros u.wallMicros) (compare t.instant u.instant)
      | .time t, .time u =>
        compareOffsets op "times" t.offset u.offset (compare t.wallMicros u.wallMicros)
          (compareAwareTimes t u)
      | .span m, .span n => .ok (op.holds (compare m n))
      | .uuid m, .uuid n => .ok (op.holds (compare m n))
      | .null, .null => if op = .equal then .ok true else unsupported
      | .member e _ n _, .member e' _ n' _ =>
        if op = .equal then .ok (e == e' && n == n') else unsupported
      | .entity .., .entity .. => if op = .equal then .ok (a.isSame b) else unsupported
      | _, _ => unsupported

/-- Whether two values are the same key of a mapping. -/
def sameKey (k l : Value) : Bool :=
  match compareAtoms .equal k l with
  | .ok b => b
  | .error _ => false

/-- The value that a mapping gives a key. -/
def valueAt? {α : Type} (key : Value) : List (Value × α) → Option α
  | [] => none
  | (k, v) :: rest => if sameKey key k then some v else valueAt? key rest

/-- A mapping with one entry more: a key that is there stays and gets the new value. -/
def putValue {α : Type} (key : Value) (value : α) : List (Value × α) → List (Value × α)
  | [] => [(key, value)]
  | (k, v) :: rest =>
    if sameKey key k then (k, value) :: rest else (k, v) :: putValue key value rest

/-- A mapping of entries, the last one of equal keys counting. -/
def mappingOf {α : Type} (entries : List (Value × α)) : List (Value × α) :=
  entries.foldl (fun seen (k, v) => putValue k v seen) []

mutual
/-- Comparison of two values. Lists and tuples are compared at their first unequal elements, then
by length. -/
def Value.compare (op : Comparison) : Value → Value → Except CompareError Bool
  | .list xs, .list ys => compareLists op xs ys
  | .tuple xs, .tuple ys => compareLists op xs ys
  | .dict xs, .dict ys =>
    if op = .equal then
      if xs.length = ys.length then equalEntries xs ys else .ok false
    else .error (.unsupported op "dict" "dict")
  | a, b => compareAtoms op a b
/-- Comparison of two lists. -/
def compareLists (op : Comparison) : List Value → List Value → Except CompareError Bool
  | [], [] => .ok (op.holds .eq)
  | [], _ :: _ => .ok (op.holds .lt)
  | _ :: _, [] => .ok (op.holds .gt)
  | x :: xs, y :: ys =>
    match Value.compare .equal x y with
    | .error e => .error e
    | .ok true => compareLists op xs ys
    | .ok false => if op = .equal then .ok false else Value.compare op x y
/-- Whether each entry of the first mapping has an equal one in the second one. -/
def equalEntries : List (Value × Value) → List (Value × Value) → Except CompareError Bool
  | [], _ => .ok true
  | (k, v) :: rest, other =>
    match valueAt? k other with
    | none => .ok false
    | some v' =>
      match Value.compare .equal v v' with
      | .ok true => equalEntries rest other
      | r => r
end

/-- Whether a value is compared element by element. -/
def Value.isSequence : Value → Bool
  | .list _ | .tuple _ => true
  | _ => false

/-- Makes two moments comparable: one without an offset is read as universal time where the other
has one. -/
def align : Value → Value → Value × Value
  | .dateTime t, .dateTime u =>
    match t.time.offset, u.time.offset with
    | none, some _ => (.dateTime ⟨t.date, { t.time with offset := some 0 }⟩, .dateTime u)
    | some _, none => (.dateTime t, .dateTime ⟨u.date, { u.time with offset := some 0 }⟩)
    | _, _ => (.dateTime t, .dateTime u)
  | a, b => (a, b)

end PagedQuery
