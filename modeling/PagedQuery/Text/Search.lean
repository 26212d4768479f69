/-!
# Searching texts

Whether and where a text occurs in another one.
-/

namespace PagedQuery.Text

/-- Whether a text occurs in another one. -/
def occursIn (pattern : List Char) : List Char → Bool
  | [] => pattern.isEmpty
  | c :: rest => pattern.isPrefixOf (c :: rest) || occursIn pattern rest

/-- The first place at which a list occurs in another one. -/
def placeIn? {α : Type} [BEq α] (pattern : List α) : List α → Option Nat
  | [] => if pattern.isEmpty then some 0 else none
  | c :: rest =>
    if pattern.isPrefixOf (c :: rest) then some 0 else (placeIn? pattern rest).map (· + 1)

/-- The pieces between occurrences of a list that is not empty, at most `limit` of them. -/
def piecesAt {α : Type} [BEq α] (pattern : List α) : Nat → List α → List (List α)
  | 0, cs => [cs]
  | limit + 1, cs =>
    match placeIn? pattern cs with
    | some i => cs.take i :: piecesAt pattern limit (cs.drop (i + pattern.length))
    | none => [cs]

theorem placeIn?_isSome {pattern cs : List Char} :
    (placeIn? pattern cs).isSome = occursIn pattern cs := by
  induction cs with
  | nil => cases pattern <;> rfl
  | cons c rest ih =>
    simp only [placeIn?, occursIn]
    split <;> simp_all

theorem occursIn_iff {pattern cs : List Char} : occursIn pattern cs = true ↔ pattern <:+: cs := by
  induction cs with
  | nil => simp [occursIn]
  | cons c rest ih => simp [occursIn, List.infix_cons_iff, ih]

end PagedQuery.Text
