/-!
# Searching for a boundary

Where a test on positions changes from true to false, found by halving an interval or by steps of
growing length from a given position. A test can fail. If the test is true exactly below some
position, that position is found; for any other test the searches still end at the one that their
probes lead to.
-/

namespace PagedQuery.Sorting

variable {α ε : Type}

/-- A test of elements as a test of their positions. -/
def probe (test : α → Except ε Bool) (xs : List α) (i : Nat) : Except ε Bool :=
  match xs[i]? with
  | some x => test x
  | none => .ok false

/-- The boundary between two positions, by halving. -/
def bisect (below : Nat → Except ε Bool) (low high : Nat) : Except ε Nat :=
  if low < high then
    let middle := low + (high - low) / 2
    match below middle with
    | .error e => .error e
    | .ok true => bisect below (middle + 1) high
    | .ok false => bisect below low middle
  else .ok low
termination_by high - low

/-- Steps of growing length while a test holds of them, up to a limit: the last one for which it
did and the one after it. -/
def stride (test : Nat → Except ε Bool) (limit last next : Nat) : Except ε (Nat × Nat) :=
  if next < limit then
    match test next with
    | .error e => .error e
    | .ok true => stride test limit next (2 * next + 1)
    | .ok false => .ok (last, next)
  else .ok (last, limit)
termination_by limit - next

/-- The boundary among the first `n` positions, looked for from position `hint`. -/
def boundary (below : Nat → Except ε Bool) (n hint : Nat) : Except ε Nat :=
  match below hint with
  | .error e => .error e
  | .ok true =>
    match stride (fun i => below (hint + i)) (n - hint) 0 1 with
    | .error e => .error e
    | .ok (last, next) => bisect below (hint + last + 1) (hint + next)
  | .ok false =>
    match stride (fun i => (below (hint - i)).map not) (hint + 1) 0 1 with
    | .error e => .error e
    | .ok (last, next) => bisect below (hint + 1 - next) (hint - last)

end PagedQuery.Sorting
