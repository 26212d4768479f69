import PagedQuery.Fault

/-!
# Slices

Parts of lists between two positions, which count from the end when they are negative and stop at
the ends of the list.
-/

namespace PagedQuery

/-- A position within a list of a length: counted from the end if negative, and cut at the ends. -/
def clampIndex (length : Nat) (i : Int) : Nat :=
  if i < 0 then (i + length).toNat else min i.toNat length

/-- The elements from a position up to another one. -/
def slice {α : Type} (xs : List α) (start stop : Int) : List α :=
  let i := clampIndex xs.length start
  let j := clampIndex xs.length stop
  (xs.drop i).take (j - i)

/-- The element at a position. -/
def elementAt {α : Type} (xs : List α) (i : Int) : Except Fault α :=
  let i := if i < 0 then i + xs.length else i
  if i < 0 then .error .indexOutOfRange
  else
    match xs[i.toNat]? with
    | some x => .ok x
    | none => .error .indexOutOfRange

/-- A bound of a slice with a negative step: from -1, before the first element, to the last one. -/
def clampBackward (length : Nat) (i : Int) : Int :=
  if i < 0 then max (i + length) (-1) else min i (length - 1)

/-- Every `step`-th element from a position on; a negative step goes backward. -/
def steppedSlice {α : Type} (xs : List α) (start stop step : Option Int) :
    Except Fault (List α) :=
  let step := step.getD 1
  let n := xs.length
  if step = 0 then .error .zeroStep
  else if 0 < step then
    let i := (start.map (clampIndex n)).getD 0
    let j := (stop.map (clampIndex n)).getD n
    let part := (xs.drop i).take (j - i)
    .ok ((List.range part.length).filterMap fun k =>
      if k % step.toNat = 0 then part[k]? else none)
  else
    let i := (start.map (clampBackward n)).getD (n - 1)
    let j := (stop.map (clampBackward n)).getD (-1)
    let part := ((xs.drop (j + 1).toNat).take (i - j).toNat).reverse
    .ok ((List.range part.length).filterMap fun k =>
      if k % step.natAbs = 0 then part[k]? else none)

end PagedQuery
