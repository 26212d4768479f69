import PagedQuery.Sorting.Merge
import PagedQuery.Sorting.Runs

/-!
# Stable sorting

Sorting with a comparison that can fail. The list is cut into runs, and neighbouring runs are
merged in an order near to that of a balanced tree over the whole list. The first failing comparison
is the result.
-/

namespace PagedQuery.Sorting

variable {α ε : Type}

/-- A sorted stretch of the list, and the depth at which the border after it lies. -/
structure Run (α : Type) where
  elements : List α
  depth : Nat := 0

/-- The runs so far, the last one first, and the wins in a row that the next merge calls for. -/
structure Progress (α : Type) where
  runs : List (Run α) := []
  streak : Nat := leastStreak

/-- How many binary digits two fractions of `n` share, and one more; both are below one. -/
def sharedDigits (n : Nat) : Nat → Nat → Nat → Nat
  | 0, _, _ => 0
  | fuel + 1, a, b =>
    if n ≤ a then sharedDigits n fuel (2 * (a - n)) (2 * (b - n)) + 1
    else if n ≤ b then 1
    else sharedDigits n fuel (2 * a) (2 * b) + 1

/-- The depth of the border between two neighbouring runs in a list of `n` elements: the binary
digits up to the first in which their midpoints differ, as fractions of the whole. -/
def borderDepth (start length length' n : Nat) : Nat :=
  let middle := 2 * start + length
  sharedDigits n (2 * n + 1) middle (middle + length + length')

/-- Merges a run and the one after it. -/
def merge (less : α → α → Except ε Bool) (streak : Nat) (earlier later : Run α) :
    Except ε (Run α × Nat) :=
  (mergeRuns less streak earlier.elements later.elements).map fun (xs, streak) =>
    ({ earlier with elements := xs }, streak)

/-- Merges the last runs while the border before them lies deeper than a given depth, which the
border after them gets. -/
def settle (less : α → α → Except ε Bool) (depth : Nat) :
    Nat → List (Run α) → Except ε (Progress α)
  | streak, later :: earlier :: runs =>
    if depth < earlier.depth then
      match merge less streak earlier later with
      | .error e => .error e
      | .ok (run, streak) => settle less depth streak (run :: runs)
    else .ok ⟨{ later with depth } :: earlier :: runs, streak⟩
  | streak, [run] => .ok ⟨[{ run with depth }], streak⟩
  | streak, [] => .ok ⟨[], streak⟩
termination_by _ runs => runs.length

/-- Adds a run after the others. -/
def Progress.add (less : α → α → Except ε Bool) (n : Nat) (p : Progress α) (elements : List α) :
    Except ε (Progress α) :=
  match p.runs with
  | [] => .ok ⟨[{ elements }], p.streak⟩
  | last :: earlier =>
    let start := earlier.foldl (fun total run => total + run.elements.length) 0
    let depth := borderDepth start last.elements.length elements.length n
    (settle less depth p.streak p.runs).map fun p => { p with runs := { elements } :: p.runs }

/-- Cuts a list into runs. -/
def addRuns (less : α → α → Except ε Bool) (n : Nat) :
    Nat → Progress α → List α → Except ε (Progress α)
  | 0, p, _ => .ok p
  | _ + 1, p, [] => .ok p
  | fuel + 1, p, xs =>
    match nextRun less (leastRun n) xs with
    | .error e => .error e
    | .ok (run, rest) =>
      match p.add less n run with
      | .error e => .error e
      | .ok p => addRuns less n fuel p rest

/-- Merges all runs, from the last ones on, a shorter run before the last two first. -/
def collapse (less : α → α → Except ε Bool) : Nat → List (Run α) → Except ε (List α)
  | _, [] => .ok []
  | _, [run] => .ok run.elements
  | streak, [later, earlier] =>
    (merge less streak earlier later).map fun (run, _) => run.elements
  | streak, last :: later :: earlier :: runs =>
    if earlier.elements.length < last.elements.length then
      match merge less streak earlier later with
      | .error e => .error e
      | .ok (run, streak) => collapse less streak (last :: run :: runs)
    else
      match merge less streak later last with
      | .error e => .error e
      | .ok (run, streak) => collapse less streak (run :: earlier :: runs)
termination_by _ runs => runs.length

/-- The elements in order, equal ones as they stood. -/
def sort (less : α → α → Except ε Bool) (xs : List α) : Except ε (List α) :=
  match addRuns less xs.length (xs.length + 1) {} xs with
  | .error e => .error e
  | .ok p => collapse less p.streak p.runs

end PagedQuery.Sorting
