import Mathlib.Tactic
import PagedQuery.Sorting

/-!
# Stable sorting as a specification

A list sorted by a total preorder whose equivalent elements stand as they stood is determined by
the list it came from. Merging two sorted lists gives the stably sorted form of their
concatenation, and blocks that belong at one end of a merge can be split off there.
-/

namespace PagedQuery.Sorting

variable {α ε : Type}

/-- Whether two elements are equal in an order. -/
def tied (le : α → α → Bool) (a b : α) : Bool := le a b && le b a

/-- Two lists that hold the same elements of every class of tied ones, in the same order. -/
def SameTies (le : α → α → Bool) (xs ys : List α) : Prop :=
  ∀ a, xs.filter (tied le a) = ys.filter (tied le a)

/-- A comparison that never fails on certain elements and tells there which of two comes strictly
before the other one in a total preorder. -/
structure Decides (less : α → α → Except ε Bool) (le : α → α → Bool) (S : α → Prop) : Prop where
  less_eq : ∀ {x y}, S x → S y → less x y = .ok (!le y x)
  trans : ∀ a b c, le a b → le b c → le a c
  total : ∀ a b, le a b || le b a

/-- Sorted lists of certain elements. -/
structure Ordered (le : α → α → Bool) (S : α → Prop) (xs : List α) : Prop where
  mem : ∀ x ∈ xs, S x
  sorted : xs.Pairwise fun a b => le a b

namespace SameTies

variable {le : α → α → Bool}

theorem refl (xs : List α) : SameTies le xs xs := fun _ => rfl

theorem symm {xs ys : List α} (h : SameTies le xs ys) : SameTies le ys xs := fun a => (h a).symm

theorem trans {xs ys zs : List α} (h : SameTies le xs ys) (h' : SameTies le ys zs) :
    SameTies le xs zs := fun a => (h a).trans (h' a)

theorem append {xs xs' ys ys' : List α} (h : SameTies le xs xs') (h' : SameTies le ys ys') :
    SameTies le (xs ++ ys) (xs' ++ ys') := by
  intro a
  rw [List.filter_append, List.filter_append, h a, h' a]

theorem mem (refl : ∀ a, le a a) {xs ys : List α} (h : SameTies le xs ys) {a : α} (ha : a ∈ xs) :
    a ∈ ys := by
  have haa : a ∈ xs.filter (tied le a) := List.mem_filter.mpr ⟨ha, by simp [tied, refl a]⟩
  rw [h a] at haa
  exact List.mem_of_mem_filter haa

end SameTies

namespace Ordered

variable {le : α → α → Bool} {S : α → Prop} {xs ys : List α}

theorem nil : Ordered le S [] := ⟨by simp, List.Pairwise.nil⟩

theorem sublist (h : Ordered le S ys) (hs : List.Sublist xs ys) : Ordered le S xs :=
  ⟨fun x hx => h.mem x (hs.subset hx), h.sorted.sublist hs⟩

theorem left (h : Ordered le S (xs ++ ys)) : Ordered le S xs :=
  h.sublist (List.sublist_append_left xs ys)

theorem right (h : Ordered le S (xs ++ ys)) : Ordered le S ys :=
  h.sublist (List.sublist_append_right xs ys)

theorem tail {x : α} (h : Ordered le S (x :: xs)) : Ordered le S xs :=
  h.sublist (List.sublist_cons_self x xs)

/-- In a list whose reverse is ordered, nothing stands above the first element. -/
theorem le_of_mem_reverse {x a : α} (h : Ordered le S (x :: xs).reverse) (ha : a ∈ xs) :
    le a x := by
  have hs := h.sorted
  rw [List.reverse_cons] at hs
  exact (List.pairwise_append.mp hs).2.2 a (List.mem_reverse.mpr ha) x (by simp)

end Ordered

namespace Decides

variable {less : α → α → Except ε Bool} {le : α → α → Bool} {S : α → Prop}
variable (h : Decides less le S)

include h

theorem refl (a : α) : le a a := by simpa using h.total a a

theorem le_of_not_le {a b : α} (hab : le a b = false) : le b a := by
  have ht := h.total a b
  simpa [hab] using ht

/-- What lies strictly above a bound lies strictly above all that the bound is above. -/
theorem not_le_of_le_of_not_le {a b c : α} (hbc : le b c) (hac : le a c = false) :
    le a b = false := by
  by_contra hab
  have hab' : le a b := by simpa using hab
  have := h.trans a b c hab' hbc
  simp [hac] at this

theorem not_le_of_not_le_of_le {a b c : α} (hab : le a b = false) (hac : le a c) :
    le c b = false := by
  by_contra hcb
  have hcb' : le c b := by simpa using hcb
  have := h.trans a c b hac hcb'
  simp [hab] at this

/-- Of two elements of which one lies strictly below the other one, at most one belongs to a
class. -/
theorem not_tied_of_not_le {a b c : α} (hbc : le b c = false) (hc : tied le a c) :
    tied le a b = false := by
  simp only [tied, Bool.and_eq_true] at hc
  have hba := h.not_le_of_le_of_not_le hc.1 hbc
  simp [tied, hba]

end Decides

/-! ## Blocks at the ends of a merge -/

section Blocks

variable {le : α → α → Bool}

theorem merge_cons_of_le {x : α} {xs ys : List α} (h : ∀ y ∈ ys, le x y) :
    (x :: xs).merge ys le = x :: xs.merge ys le := by
  cases ys with
  | nil => simp
  | cons y ys => exact List.cons_merge_cons_pos _ _ _ (h y (by simp))

theorem merge_cons_of_not_le {y : α} {xs ys : List α} (h : ∀ x ∈ xs, le x y = false) :
    xs.merge (y :: ys) le = y :: xs.merge ys le := by
  cases xs with
  | nil => simp
  | cons x xs => exact List.cons_merge_cons_neg _ _ _ (by simp [h x (by simp)])

theorem merge_append_of_le {front xs ys : List α} (h : ∀ a ∈ front, ∀ y ∈ ys, le a y) :
    (front ++ xs).merge ys le = front ++ xs.merge ys le := by
  induction front with
  | nil => rfl
  | cons a front ih =>
    rw [List.cons_append, merge_cons_of_le (h a (by simp)),
      ih fun b hb => h b (List.mem_cons_of_mem a hb), List.cons_append]

theorem merge_append_of_not_le {front xs ys : List α}
    (h : ∀ b ∈ front, ∀ x ∈ xs, le x b = false) :
    xs.merge (front ++ ys) le = front ++ xs.merge ys le := by
  induction front with
  | nil => rfl
  | cons b front ih =>
    rw [List.cons_append, merge_cons_of_not_le (h b (by simp)),
      ih fun c hc => h c (List.mem_cons_of_mem b hc), List.cons_append]

theorem merge_append_back_of_le {back xs ys : List α} (h : ∀ x ∈ xs, ∀ b ∈ back, le x b) :
    xs.merge (ys ++ back) le = xs.merge ys le ++ back := by
  induction xs generalizing ys with
  | nil => simp
  | cons x xs ihx =>
    have hx : ∀ b ∈ back, le x b := h x (by simp)
    have ihx : ∀ ys, xs.merge (ys ++ back) le = xs.merge ys le ++ back := fun ys =>
      ihx fun a ha => h a (List.mem_cons_of_mem x ha)
    induction ys with
    | nil =>
      cases back with
      | nil => simp
      | cons b back =>
        have ih := ihx []
        simp only [List.nil_append, List.merge_right] at ih ⊢
        rw [List.cons_merge_cons_pos _ _ _ (hx b (by simp)), ih, List.cons_append]
    | cons y ys ihy =>
      have ih := ihx (y :: ys)
      simp only [List.cons_append] at ih ⊢
      by_cases hxy : le x y
      · rw [List.cons_merge_cons_pos _ _ _ hxy, List.cons_merge_cons_pos _ _ _ hxy, ih,
          List.cons_append]
      · rw [List.cons_merge_cons_neg _ _ _ hxy, List.cons_merge_cons_neg _ _ _ hxy, ihy,
          List.cons_append]

theorem merge_append_back_of_not_le {back xs ys : List α}
    (h : ∀ b ∈ back, ∀ y ∈ ys, le b y = false) :
    (xs ++ back).merge ys le = xs.merge ys le ++ back := by
  induction ys generalizing xs with
  | nil => simp
  | cons y ys ihy =>
    have hy : ∀ b ∈ back, ¬ le b y := fun b hb => by simp [h b hb y (by simp)]
    have ihy : ∀ xs, (xs ++ back).merge ys le = xs.merge ys le ++ back := fun xs =>
      ihy fun b hb c hc => h b hb c (List.mem_cons_of_mem y hc)
    induction xs with
    | nil =>
      cases back with
      | nil => simp
      | cons b back =>
        have ih := ihy []
        simp only [List.nil_append, List.nil_merge] at ih ⊢
        rw [List.cons_merge_cons_neg _ _ _ (hy b (by simp)), ih, List.cons_append]
    | cons x xs ihx =>
      have ih := ihy (x :: xs)
      simp only [List.cons_append] at ih ⊢
      by_cases hxy : le x y
      · rw [List.cons_merge_cons_pos _ _ _ hxy, List.cons_merge_cons_pos _ _ _ hxy, ihx,
          List.cons_append]
      · rw [List.cons_merge_cons_neg _ _ _ hxy, List.cons_merge_cons_neg _ _ _ hxy, ih,
          List.cons_append]

end Blocks

/-! ## Merges of sorted lists -/

section Merges

variable {less : α → α → Except ε Bool} {le : α → α → Bool} {S : α → Prop}

theorem Ordered.merge (h : Decides less le S) {xs ys : List α} (hx : Ordered le S xs)
    (hy : Ordered le S ys) : Ordered le S (xs.merge ys le) := by
  constructor
  · intro z hz
    rcases List.mem_merge.mp hz with hz | hz
    · exact hx.mem z hz
    · exact hy.mem z hz
  · exact List.pairwise_merge h.trans h.total xs ys hx.sorted hy.sorted

/-- An element of the second list is taken before elements of the first one only where it lies
strictly below them, so that no class is mixed up. -/
theorem sameTies_merge (h : Decides less le S) {xs ys : List α} (hx : Ordered le S xs) :
    SameTies le (xs.merge ys le) (xs ++ ys) := by
  intro a
  induction xs generalizing ys with
  | nil => simp
  | cons x xs ihx =>
    induction ys with
    | nil => simp
    | cons y ys ihy =>
      by_cases hxy : le x y
      · rw [List.cons_merge_cons_pos _ _ _ hxy, List.cons_append, List.filter_cons,
          List.filter_cons, ihx hx.tail]
      · rw [List.cons_merge_cons_neg _ _ _ hxy, List.filter_cons, ihy]
        simp only [Bool.not_eq_true] at hxy
        split
        · next hy =>
          have hnone : (x :: xs).filter (tied le a) = [] := by
            rw [List.filter_eq_nil_iff]
            intro z hz
            have hzy : le z y = false := by
              rcases List.mem_cons.mp hz with rfl | hz
              · exact hxy
              · exact h.not_le_of_not_le_of_le hxy (List.rel_of_pairwise_cons hx.sorted hz)
            simp [h.not_tied_of_not_le hzy hy]
          simp only [List.filter_append, List.filter_cons_of_pos hy, hnone, List.nil_append]
        · next hy => simp only [List.filter_append, List.filter_cons_of_neg hy]

end Merges

/-! ## Uniqueness -/

/-- Sorted lists that agree on every class of tied elements are equal. -/
theorem SameTies.eq_of_sorted {le : α → α → Bool} (refl : ∀ a, le a a) {xs ys : List α}
    (hx : xs.Pairwise fun a b => le a b) (hy : ys.Pairwise fun a b => le a b)
    (h : SameTies le xs ys) : xs = ys := by
  have head_le : ∀ {z : α} {zs : List α}, (z :: zs).Pairwise (fun a b => le a b) →
      ∀ a ∈ z :: zs, le z a := by
    intro z zs hz a ha
    rcases List.mem_cons.mp ha with rfl | ha
    · exact refl a
    · exact List.rel_of_pairwise_cons hz ha
  induction xs generalizing ys with
  | nil =>
    cases ys with
    | nil => rfl
    | cons y ys => exact absurd (h.symm.mem refl (a := y) (by simp)) (by simp)
  | cons x xs ih =>
    cases ys with
    | nil => exact absurd (h.mem refl (a := x) (by simp)) (by simp)
    | cons y ys =>
      have hxy : tied le x y := by
        have h1 : le x y := head_le hx y (h.symm.mem refl (by simp))
        have h2 : le y x := head_le hy x (h.mem refl (by simp))
        simp [tied, h1, h2]
      have hclass := h x
      rw [List.filter_cons_of_pos (by simp [tied, refl x]), List.filter_cons_of_pos hxy] at hclass
      obtain ⟨rfl, -⟩ := List.cons.inj hclass
      have htail : SameTies le xs ys := by
        intro a
        have ha := h a
        rw [List.filter_cons, List.filter_cons] at ha
        split at ha
        · exact (List.cons.inj ha).2
        · exact ha
      exact congrArg (List.cons x) (ih hx.tail hy.tail htail)

end PagedQuery.Sorting
