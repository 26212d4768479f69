import PagedQuery.Sorting.Search

/-!
# Merging two runs

Two sorted lists as one, equal elements of the first one in front. Elements are taken one by one
from the front, or from the back if the first list is the longer one. When one list has won several
times in a row, it is searched for the place of the other list's next element, and all elements up
to there are taken at once; how many times are needed adapts to how well this has worked, from one
merge to the next. Every comparison asks whether an element of the second list is less than one of
the first.
-/

namespace PagedQuery.Sorting

variable {α ε : Type}

/-- The wins in a row that make searching worth while, at the start. -/
def leastStreak : Nat := 7

/-- A list, and the wins in a row that the next merge calls for. -/
abbrev Merged (ε α : Type) := Except ε (List α × Nat)

/-- Adds elements in front of a merged rest. -/
def Merged.after (taken : List α) (rest : Merged ε α) : Merged ε α :=
  rest.map fun (xs, streak) => (taken ++ xs, streak)

/-- How many elements from the front of a list are not greater than a later element. -/
def notGreater (less : α → α → Except ε Bool) (key : α) (xs : List α) (hint : Nat) : Except ε Nat :=
  boundary (probe (fun x => (less key x).map not) xs) xs.length hint

/-- How many elements from the front of a list are less than an earlier element. -/
def lessThan (less : α → α → Except ε Bool) (key : α) (xs : List α) (hint : Nat) : Except ε Nat :=
  boundary (probe (fun x => less x key) xs) xs.length hint

/-! ## From the front -/

/-- The merge of two lists of which the second is used up, or the first has only its greatest
element left. -/
def frontRest? : List α → List α → Option (List α)
  | xs, [] => some xs
  | [], ys => some ys
  | [x], ys => some (ys ++ [x])
  | _, _ => none

theorem frontRest?_none {xs ys : List α} (hr : frontRest? xs ys = none) :
    ∃ x xs' y ys', xs = x :: xs' ∧ ys = y :: ys' := by
  cases xs with
  | nil => cases ys <;> simp [frontRest?] at hr
  | cons x xs =>
    cases ys with
    | nil => simp [frontRest?] at hr
    | cons y ys => exact ⟨x, xs, y, ys, rfl, rfl⟩

mutual
/-- Takes elements one by one from the front; `won` and `won'` count wins in a row. -/
def mergeFront (less : α → α → Except ε Bool) :
    Nat → Nat → Nat → Nat → List α → List α → Merged ε α
  | 0, streak, _, _, xs, ys => .ok (xs ++ ys, streak)
  | fuel + 1, streak, won, won', xs, ys =>
    match frontRest? xs ys, xs, ys with
    | none, x :: xs', y :: ys' =>
      match less y x with
      | .error e => .error e
      | .ok true =>
        Merged.after [y]
          (if streak ≤ won' + 1 ∧ (frontRest? xs ys').isNone then
            searchFront less fuel (streak + 1) xs ys'
          else mergeFront less fuel streak 0 (won' + 1) xs ys')
      | .ok false =>
        Merged.after [x]
          (if streak ≤ won + 1 ∧ (frontRest? xs' ys).isNone then
            searchFront less fuel (streak + 1) xs' ys
          else mergeFront less fuel streak (won + 1) 0 xs' ys)
    | rest, xs, ys => .ok (rest.getD (xs ++ ys), streak)
/-- Takes elements from the front many at a time: from the first list, then from the second one. -/
def searchFront (less : α → α → Except ε Bool) : Nat → Nat → List α → List α → Merged ε α
  | 0, streak, xs, ys => .ok (xs ++ ys, streak)
  | _ + 1, streak, xs, [] => .ok (xs, streak)
  | fuel + 1, streak, xs, y :: ys =>
    let streak := if 1 < streak then streak - 1 else streak
    match notGreater less y xs 0 with
    | .error e => .error e
    | .ok count =>
      let front := xs.take count
      match xs.drop count, ys with
      | [], ys => .ok (front ++ y :: ys, streak)
      | [x], ys => .ok (front ++ y :: ys ++ [x], streak)
      | xs, [] => .ok (front ++ y :: xs, streak)
      | x :: xs, ys =>
        match lessThan less x ys 0 with
        | .error e => .error e
        | .ok count' =>
          let front := front ++ y :: ys.take count'
          match ys.drop count' with
          | [] => .ok (front ++ x :: xs, streak)
          | ys =>
            Merged.after (front ++ [x])
              (if (frontRest? xs ys).isNone ∧ (leastStreak ≤ count ∨ leastStreak ≤ count') then
                searchFront less fuel streak xs ys
              else
                mergeFront less fuel (if (frontRest? xs ys).isNone then streak + 1 else streak)
                  0 0 xs ys)
end

/-! ## From the back

Both lists stand in reverse order here, and so does their merge. -/

/-- The merge of two reversed lists of which the first is used up, or the second has only its least
element left. -/
def backRest? : List α → List α → Option (List α)
  | [], ys => some ys
  | xs, [] => some xs
  | xs, [y] => some (xs ++ [y])
  | _, _ => none

theorem backRest?_none {xs ys : List α} (hr : backRest? xs ys = none) :
    ∃ x xs' y ys', xs = x :: xs' ∧ ys = y :: ys' := by
  cases xs with
  | nil => simp [backRest?] at hr
  | cons x xs =>
    cases ys with
    | nil => simp [backRest?] at hr
    | cons y ys => exact ⟨x, xs, y, ys, rfl, rfl⟩

mutual
/-- Takes elements one by one from the back; `won` and `won'` count wins in a row. -/
def mergeBack (less : α → α → Except ε Bool) :
    Nat → Nat → Nat → Nat → List α → List α → Merged ε α
  | 0, streak, _, _, xs, ys => .ok (ys ++ xs, streak)
  | fuel + 1, streak, won, won', xs, ys =>
    match backRest? xs ys, xs, ys with
    | none, x :: xs', y :: ys' =>
      match less y x with
      | .error e => .error e
      | .ok true =>
        Merged.after [x]
          (if streak ≤ won + 1 ∧ (backRest? xs' ys).isNone then
            searchBack less fuel (streak + 1) xs' ys
          else mergeBack less fuel streak (won + 1) 0 xs' ys)
      | .ok false =>
        Merged.after [y]
          (if streak ≤ won' + 1 ∧ (backRest? xs ys').isNone then
            searchBack less fuel (streak + 1) xs ys'
          else mergeBack less fuel streak 0 (won' + 1) xs ys')
    | rest, xs, ys => .ok (rest.getD (ys ++ xs), streak)
/-- Takes elements from the back many at a time: from the first list, then from the second one. -/
def searchBack (less : α → α → Except ε Bool) : Nat → Nat → List α → List α → Merged ε α
  | 0, streak, xs, ys => .ok (ys ++ xs, streak)
  | _ + 1, streak, xs, [] => .ok (xs, streak)
  | fuel + 1, streak, xs, y :: ys =>
    let streak := if 1 < streak then streak - 1 else streak
    match notGreater less y xs.reverse (xs.length - 1) with
    | .error e => .error e
    | .ok kept =>
      let count := xs.length - kept
      let back := xs.take count
      match xs.drop count, ys with
      | [], ys => .ok (back ++ y :: ys, streak)
      | xs, [] => .ok (back ++ y :: xs, streak)
      | xs, [y'] => .ok (back ++ y :: xs ++ [y'], streak)
      | x :: xs, ys =>
        match lessThan less x ys.reverse (ys.length - 1) with
        | .error e => .error e
        | .ok kept' =>
          let count' := ys.length - kept'
          let back := back ++ y :: ys.take count'
          match ys.drop count' with
          | [] => .ok (back ++ x :: xs, streak)
          | [y'] => .ok (back ++ x :: xs ++ [y'], streak)
          | ys =>
            Merged.after (back ++ [x])
              (if (backRest? xs ys).isNone ∧ (leastStreak ≤ count ∨ leastStreak ≤ count') then
                searchBack less fuel streak xs ys
              else
                mergeBack less fuel (if (backRest? xs ys).isNone then streak + 1 else streak)
                  0 0 xs ys)
end

/-! ## Two runs -/

/-- The merge of two runs of which the first element of the second is the least and the last one of
the first is the greatest. -/
def mergeInner (less : α → α → Except ε Bool) (streak : Nat) (xs ys : List α) : Merged ε α :=
  let fuel := xs.length + ys.length
  if xs.length ≤ ys.length then
    match ys with
    | [] => .ok (xs, streak)
    | y :: ys => Merged.after [y] (mergeFront less fuel streak 0 0 xs ys)
  else
    match xs.reverse with
    | [] => .ok (ys, streak)
    | x :: xs =>
      (Merged.after [x] (mergeBack less fuel streak 0 0 xs ys.reverse)).map fun (zs, streak) =>
        (zs.reverse, streak)

/-- The merge of two runs. What is in its place already at both ends stays there. -/
def mergeRuns (less : α → α → Except ε Bool) (streak : Nat) (xs ys : List α) : Merged ε α :=
  match ys with
  | [] => .ok (xs, streak)
  | y :: _ =>
    match notGreater less y xs 0 with
    | .error e => .error e
    | .ok kept =>
      let inner := xs.drop kept
      match inner.getLast? with
      | none => .ok (xs ++ ys, streak)
      | some x =>
        match lessThan less x ys (ys.length - 1) with
        | .error e => .error e
        | .ok 0 => .ok (xs ++ ys, streak)
        | .ok count =>
          (mergeInner less streak inner (ys.take count)).map fun (zs, streak) =>
            (xs.take kept ++ zs ++ ys.drop count, streak)

end PagedQuery.Sorting
