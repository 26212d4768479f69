import PagedQuery.Sorting.Search

/-!
# Runs

The sorted stretches that a list is cut into: the ascending or strictly descending elements that
come next, the latter turned round, and if they are few, some of those after them inserted.
-/

namespace PagedQuery.Sorting

variable {α ε : Type}

/-- The elements that do not fall below the one before them, and the rest. -/
def ascending (less : α → α → Except ε Bool) (last : α) : List α → Except ε (List α × List α)
  | [] => .ok ([], [])
  | x :: xs => do
    if ← less x last then return ([], x :: xs)
    let (run, rest) ← ascending less x xs
    return (x :: run, rest)

/-- The elements that fall below the one before them, and the rest. -/
def descending (less : α → α → Except ε Bool) (last : α) : List α → Except ε (List α × List α)
  | [] => .ok ([], [])
  | x :: xs => do
    if ← less x last then
      let (run, rest) ← descending less x xs
      return (x :: run, rest)
    return ([], x :: xs)

/-- The first run of a list in ascending order, and the rest. -/
def firstRun (less : α → α → Except ε Bool) : List α → Except ε (List α × List α)
  | [] => .ok ([], [])
  | [x] => .ok ([x], [])
  | x :: y :: rest => do
    if ← less y x then
      let (run, rest) ← descending less y rest
      return ((x :: y :: run).reverse, rest)
    let (run, rest) ← ascending less y rest
    return (x :: y :: run, rest)

/-- A sorted list with one element more, after all that it is not less than. -/
def insert (less : α → α → Except ε Bool) (x : α) (xs : List α) : Except ε (List α) :=
  match bisect (probe (fun y => (less x y).map not) xs) 0 xs.length with
  | .error e => .error e
  | .ok i => .ok (xs.take i ++ x :: xs.drop i)

/-- A sorted list with more elements, inserted in order. -/
def insertAll (less : α → α → Except ε Bool) (sorted : List α) : List α → Except ε (List α)
  | [] => .ok sorted
  | x :: xs =>
    match insert less x sorted with
    | .error e => .error e
    | .ok sorted => insertAll less sorted xs

/-- How often a length is halved until it is below sixty-four. -/
def halvings (n : Nat) : Nat := if n < 64 then 0 else halvings (n / 2) + 1

/-- The length to which runs are filled up: the whole length below sixty-four, and else the one
that cuts the list into a power of two of runs. -/
def leastRun (n : Nat) : Nat :=
  let parts := Nat.pow 2 (halvings n)
  (n + parts - 1) / parts

/-- The next run of a list, filled up to a length, and the rest. -/
def nextRun (less : α → α → Except ε Bool) (least : Nat) (xs : List α) :
    Except ε (List α × List α) :=
  match firstRun less xs with
  | .error e => .error e
  | .ok (run, rest) =>
    let missing := least - run.length
    match insertAll less run (rest.take missing) with
    | .error e => .error e
    | .ok run => .ok (run, rest.drop missing)

end PagedQuery.Sorting
