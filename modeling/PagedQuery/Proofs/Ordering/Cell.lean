import PagedQuery.Proofs.Ordering.Magnitude
import PagedQuery.Table.Cell

/-!
# The order of cells

Missing cells come below numbers and numbers below texts. Numbers compare by their positions, so
that any two cells have an order and it is transitive.
-/

namespace PagedQuery

open PagedQuery.Number

namespace Cell

/-- Where a number lies; other cells lie below all numbers. -/
def position (c : Cell) : WithBot (WithBot (WithTop ℚ)) := c.number?.bind (·.position?)

def text? : Cell → Option String
  | .text s => some s
  | _ => none

theorem exists_position {c : Cell} {d : Decimal} (h : c.number? = some d) :
    ∃ p, d.position? = some p := by
  cases c with
  | null | text => cases h
  | integer n =>
    obtain rfl := Option.some.inj h
    exact ⟨_, rfl⟩
  | real x =>
    simp only [number?] at h
    cases hx : FloatParts.ofFloat x with
    | notANumber =>
      rw [hx] at h
      cases h
    | finite | infinite =>
      rw [hx] at h
      obtain rfl := Option.some.inj h
      exact ⟨_, rfl⟩

/-- The order of cells by rank, then by position, then by text. -/
def placed : Cell → Cell → Ordering :=
  compareLex (compareOn rank) (compareLex (compareOn position) (compareOn fun c => c.text?.getD ""))

instance : Std.TransCmp placed := by
  unfold placed
  infer_instance

theorem rank_of_number? {c : Cell} {d : Decimal} (h : c.number? = some d) :
    c.rank = 1 ∧ c.text? = none := by
  cases c with
  | null | text => cases h
  | integer n => exact ⟨rfl, rfl⟩
  | real x => exact ⟨by simp [rank, h], rfl⟩

theorem rank_eq_of_number?_eq_none {c : Cell} (h : c.number? = none) :
    c.rank = if c.text?.isSome then 2 else 0 := by
  cases c with
  | null | text => rfl
  | integer n => cases h
  | real x => simp [rank, h, text?]

theorem position_eq_bot {c : Cell} (h : c.number? = none) : c.position = ⊥ := by
  rw [position, h]
  rfl

theorem order_of_text? {a b : Cell} (h : a.text? = none ∨ b.text? = none) :
    order a b = match a.number?, b.number? with
      | some m, some n => (compareDecimals m n).getD .eq
      | _, _ => compare a.rank b.rank := by
  cases a with
  | text s =>
    cases b with
    | text t => rcases h with h | h <;> cases h
    | _ => rfl
  | _ => rfl

theorem placed_of_number? {a b : Cell} {m n : Decimal} (ha : a.number? = some m)
    (hb : b.number? = some n) : placed a b = (compareDecimals m n).getD .eq := by
  obtain ⟨p, hp⟩ := exists_position ha
  obtain ⟨q, hq⟩ := exists_position hb
  have hpos : compare a.position b.position = compare p q := by
    rw [position, position, ha, hb, Option.bind_some, Option.bind_some, hp, hq]
    exact compare_congr WithBot.coe_lt_coe WithBot.coe_lt_coe
  simp [placed, compareLex, compareOn, rank_of_number? ha, rank_of_number? hb, hpos,
    compareDecimals_eq hp hq]

/-- Where a cell is no number, and not both are texts, the ranks settle the order. -/
theorem placed_of_number?_eq_none {a b : Cell} (h : a.number? = none ∨ b.number? = none)
    (ht : a.text? = none ∨ b.text? = none) : placed a b = compare a.rank b.rank := by
  simp only [placed, compareLex, compareOn]
  cases ha : a.number? with
  | some m =>
    have hb := h.resolve_left (by simp [ha])
    rw [(rank_of_number? ha).1, rank_eq_of_number?_eq_none hb]
    split <;> rfl
  | none =>
    cases hb : b.number? with
    | some n =>
      rw [(rank_of_number? hb).1, rank_eq_of_number?_eq_none ha]
      split <;> rfl
    | none =>
      rw [rank_eq_of_number?_eq_none ha, rank_eq_of_number?_eq_none hb, position_eq_bot ha,
        position_eq_bot hb]
      cases hs : a.text? with
      | none => cases b.text? <;> rfl
      | some s =>
        rw [ht.resolve_left (by simp [hs])]
        rfl

theorem order_eq_placed : order = placed := by
  funext a b
  by_cases ht : a.text? = none ∨ b.text? = none
  · rw [order_of_text? ht]
    split
    · next ha hb => exact (placed_of_number? ha hb).symm
    · next hne =>
      refine (placed_of_number?_eq_none ?_ ht).symm
      by_contra h
      rw [not_or] at h
      obtain ⟨m, hm⟩ := Option.ne_none_iff_exists'.mp h.1
      obtain ⟨n, hn⟩ := Option.ne_none_iff_exists'.mp h.2
      exact hne m n hm hn
  · cases a with
    | text s =>
      cases b with
      | text t => rfl
      | _ => exact (ht (.inr rfl)).elim
    | _ => exact (ht (.inl rfl)).elim

instance : Std.TransCmp order := order_eq_placed ▸ inferInstance

end Cell

end PagedQuery
