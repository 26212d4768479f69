import Mathlib.Tactic
import PagedQuery.Text.Split

/-!
# Splitting and joining

The pieces of a text are the only texts without the separator that make it up when they are joined,
and the text before the first separator is the only one without it.
-/

namespace PagedQuery.Text

variable {separator : Char} {cs : List Char}

theorem mem_split_iff {piece source : String} :
    piece ∈ split separator source ↔ piece.toList ∈ splitChars separator source.toList := by
  rw [split, List.mem_map]
  constructor
  · rintro ⟨cs, h, rfl⟩
    simpa using h
  · exact fun h => ⟨_, h, String.ofList_toList⟩

/-- Characters without the separator belong to the piece that follows them. -/
theorem splitChars_append_of_not_mem {start : List Char} (h : separator ∉ start) :
    splitChars separator (start ++ cs) = (splitChars separator cs).modifyHead (start ++ ·) := by
  induction start with
  | nil => cases hsplit : splitChars separator cs <;> simp [hsplit]
  | cons c start ih =>
    rw [List.mem_cons, not_or] at h
    rw [List.cons_append, splitChars, if_neg (Ne.symm h.1), ih h.2]
    cases hsplit : splitChars separator cs with
    | nil => exact (splitChars_ne_nil separator cs hsplit).elim
    | cons piece pieces => rfl

theorem intercalate_cons (separator : Char) (piece : List Char) {pieces : List (List Char)}
    (h : pieces ≠ []) :
    [separator].intercalate (piece :: pieces) =
      piece ++ separator :: [separator].intercalate pieces := by
  cases pieces with
  | nil => exact (h rfl).elim
  | cons next pieces => rw [List.intercalate_cons_cons, List.append_assoc, List.singleton_append]

theorem mem_intercalate {pieces : List (List Char)} {piece : List Char} {c : Char}
    (hp : piece ∈ pieces) (hc : c ∈ piece) : c ∈ [separator].intercalate pieces := by
  induction pieces with
  | nil => cases hp
  | cons first pieces ih =>
    cases pieces with
    | nil => simpa [List.intercalate, List.mem_singleton.mp hp] using hc
    | cons next pieces =>
      rw [intercalate_cons separator first (by simp), List.mem_append, List.mem_cons]
      rcases List.mem_cons.mp hp with rfl | hp
      · exact .inl hc
      · exact .inr (.inr (ih hp))

theorem splitChars_intercalate {pieces : List (List Char)} (hne : pieces ≠ [])
    (h : ∀ piece ∈ pieces, separator ∉ piece) :
    splitChars separator ([separator].intercalate pieces) = pieces := by
  induction pieces with
  | nil => exact (hne rfl).elim
  | cons piece pieces ih =>
    have hpiece : separator ∉ piece := h piece List.mem_cons_self
    cases pieces with
    | nil => simpa [List.intercalate] using splitChars_of_not_mem hpiece
    | cons next pieces =>
      rw [intercalate_cons separator piece (by simp), splitChars_append hpiece,
        ih (by simp) fun p hp => h p (List.mem_cons_of_mem piece hp)]

theorem intercalate_splitChars (separator : Char) (cs : List Char) :
    [separator].intercalate (splitChars separator cs) = cs := by
  induction cs with
  | nil => rfl
  | cons c rest ih =>
    rw [splitChars]
    split
    · next hc =>
      rw [intercalate_cons separator [] (splitChars_ne_nil separator rest), ih, hc, List.nil_append]
    · split
      · next hnil => exact (splitChars_ne_nil separator rest hnil).elim
      · next piece pieces hsplit =>
        rw [hsplit] at ih
        cases pieces with
        | nil => simpa [List.intercalate] using ih
        | cons next pieces =>
          rw [intercalate_cons separator _ (by simp)] at ih ⊢
          rw [List.cons_append, ih]

/-- The pieces are determined by holding no separator and making up the text. -/
theorem splitChars_eq_iff {pieces : List (List Char)} :
    splitChars separator cs = pieces ↔
      pieces ≠ [] ∧ (∀ piece ∈ pieces, separator ∉ piece) ∧
        [separator].intercalate pieces = cs := by
  constructor
  · rintro rfl
    exact ⟨splitChars_ne_nil separator cs, fun _ hp => not_mem_of_mem_splitChars hp,
      intercalate_splitChars separator cs⟩
  · rintro ⟨hne, hsep, rfl⟩
    exact splitChars_intercalate hne hsep

theorem cutAt?_eq_some_iff {before after : List Char} :
    cutAt? separator cs = some (before, after) ↔
      cs = before ++ separator :: after ∧ separator ∉ before := by
  constructor
  · intro h
    induction cs generalizing before after with
    | nil => simp [cutAt?] at h
    | cons c rest ih =>
      by_cases hc : c = separator
      · simp only [cutAt?, hc, if_true, Option.some.injEq, Prod.mk.injEq] at h
        obtain ⟨rfl, rfl⟩ := h
        simp [hc]
      · simp only [cutAt?, hc, if_false, Option.map_eq_some_iff] at h
        obtain ⟨⟨front, back⟩, hcut, heq⟩ := h
        obtain ⟨rfl, rfl⟩ := Prod.mk.inj heq
        obtain ⟨rfl, hfront⟩ := ih hcut
        simp [hfront, Ne.symm hc]
  · rintro ⟨rfl, h⟩
    exact cutAt?_append h after

end PagedQuery.Text
