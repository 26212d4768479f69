import Mathlib.Tactic
import PagedQuery.Proofs.Sorting.Sort

/-!
# Sorting by a comparison with three outcomes

A comparison that orders the elements of a list need not say anything sensible about others, and
may fail there. Sorting by it succeeds all the same, and yields the one stably sorted permutation.
-/

namespace PagedQuery.Sorting

variable {α ε : Type}

/-- Whether a comparison says that two elements are equal. -/
def ties (cmp : α → α → Except ε Ordering) (x y : α) : Bool :=
  match cmp x y with
  | .ok o => o == .eq
  | .error _ => false

/-- A comparison says that an element does not come after another one. -/
def NotAfter (cmp : α → α → Except ε Ordering) (x y : α) : Prop := ∃ o, cmp x y = .ok o ∧ o ≠ .gt

/-- A comparison that orders certain elements: it is total, antisymmetric and transitive on them. -/
structure Orders (cmp : α → α → Except ε Ordering) (S : α → Prop) : Prop where
  total : ∀ {x y}, S x → S y → ∃ o, cmp x y = .ok o
  swap : ∀ {x y o}, S x → S y → cmp x y = .ok o → cmp y x = .ok o.swap
  trans : ∀ {x y z}, S x → S y → S z → NotAfter cmp x y → NotAfter cmp y z → NotAfter cmp x z

/-- A permutation of a list that is sorted by a comparison and keeps equal elements in order. -/
structure StablySorted (cmp : α → α → Except ε Ordering) (xs ys : List α) : Prop where
  perm : ys.Perm xs
  sorted : ys.Pairwise (NotAfter cmp)
  stable : ∀ x ∈ xs, ys.filter (ties cmp x) = xs.filter (ties cmp x)

namespace Orders

variable {cmp : α → α → Except ε Ordering} {S : α → Prop} (h : Orders cmp S)

include h

theorem notAfter_or {x y : α} (hx : S x) (hy : S y) : NotAfter cmp x y ∨ NotAfter cmp y x := by
  obtain ⟨o, ho⟩ := h.total hx hy
  by_cases hgt : o = .gt
  · subst hgt
    exact .inr ⟨.lt, h.swap hx hy ho, by decide⟩
  · exact .inl ⟨o, ho, hgt⟩

theorem notAfter_iff {x y : α} {o : Ordering} (hx : S x) (hy : S y) (ho : cmp x y = .ok o) :
    NotAfter cmp y x ↔ o ≠ .lt := by
  have hswap := h.swap hx hy ho
  constructor
  · rintro ⟨o', ho', hne⟩ rfl
    rw [hswap] at ho'
    exact hne (Except.ok.inj ho').symm
  · intro hne
    refine ⟨o.swap, hswap, ?_⟩
    cases o with
    | lt => exact (hne rfl).elim
    | eq => decide
    | gt => decide

theorem ties_iff {x y : α} (hx : S x) (hy : S y) :
    ties cmp x y ↔ NotAfter cmp x y ∧ NotAfter cmp y x := by
  obtain ⟨o, ho⟩ := h.total hx hy
  have hxy : NotAfter cmp x y ↔ o ≠ .gt := by
    constructor
    · rintro ⟨o', ho', hne⟩
      rw [ho] at ho'
      cases ho'
      exact hne
    · exact fun hne => ⟨o, ho, hne⟩
  rw [hxy, h.notAfter_iff hx hy ho]
  simp only [ties, ho]
  cases o <;> decide

end Orders

open Classical in
/-- The order of a comparison, made total on all elements by putting others after those that it
orders. -/
noncomputable def extended (cmp : α → α → Except ε Ordering) (S : α → Prop) (x y : α) : Bool :=
  decide (¬ S y ∨ S x ∧ NotAfter cmp x y)

theorem extended_iff {cmp : α → α → Except ε Ordering} {S : α → Prop} {x y : α} (hx : S x)
    (hy : S y) : extended cmp S x y ↔ NotAfter cmp x y := by
  simp [extended, hx, hy]

theorem filter_tied_of_not {cmp : α → α → Except ε Ordering} {S : α → Prop} {x : α} {xs : List α}
    (hx : ¬ S x) (hxs : ∀ y ∈ xs, S y) : xs.filter (tied (extended cmp S) x) = [] := by
  refine List.filter_eq_nil_iff.mpr fun y hy => ?_
  simp [tied, extended, hx, hxs y hy]

namespace Orders

variable {cmp : α → α → Except ε Ordering} {S : α → Prop} (h : Orders cmp S)

include h

theorem decides : Decides (fun x y => (cmp x y).map (· == .lt)) (extended cmp S) S where
  less_eq := by
    intro x y hx hy
    obtain ⟨o, ho⟩ := h.total hx hy
    have hiff := (extended_iff hy hx).trans (h.notAfter_iff hx hy ho)
    rw [ho]
    simp only [Except.map, Except.ok.injEq]
    cases hle : extended cmp S y x with
    | true => simpa [hle] using hiff
    | false => simpa [hle] using hiff
  trans := by
    intro a b c hab hbc
    simp only [extended, decide_eq_true_eq] at hab hbc ⊢
    by_cases hc : S c
    · obtain ⟨hb, hbc⟩ := hbc.resolve_left (not_not_intro hc)
      obtain ⟨ha, hab⟩ := hab.resolve_left (not_not_intro hb)
      exact .inr ⟨ha, h.trans ha hb hc hab hbc⟩
    · exact .inl hc
  total := by
    intro a b
    simp only [extended, Bool.or_eq_true, decide_eq_true_eq]
    by_cases ha : S a
    · by_cases hb : S b
      · rcases h.notAfter_or ha hb with hab | hba
        · exact .inl (.inr ⟨ha, hab⟩)
        · exact .inr (.inr ⟨hb, hba⟩)
      · exact .inl (.inl hb)
    · exact .inr (.inl ha)

theorem tied_eq {x y : α} (hx : S x) (hy : S y) : tied (extended cmp S) x y = ties cmp x y := by
  rw [Bool.eq_iff_iff, h.ties_iff hx hy, ← extended_iff hx hy, ← extended_iff hy hx]
  simp [tied]

theorem filter_tied {x : α} {xs : List α} (hx : S x) (hxs : ∀ y ∈ xs, S y) :
    xs.filter (tied (extended cmp S) x) = xs.filter (ties cmp x) :=
  List.filter_congr fun y hy => h.tied_eq hx (hxs y hy)

end Orders

variable {cmp : α → α → Except ε Ordering} {xs ys zs : List α}

/-- Sorting a list by a comparison that orders its elements yields its stably sorted form. -/
theorem sort_stablySorted (h : Orders cmp (· ∈ xs)) :
    ∃ ys, sort (fun x y => (cmp x y).map (· == .lt)) xs = .ok ys ∧ StablySorted cmp xs ys := by
  obtain ⟨ys, hs, hord, hties⟩ := sort_ordered h.decides fun x hx => hx
  have hperm := sort_perm hs
  refine ⟨ys, hs, hperm, ?_, ?_⟩
  · refine hord.sorted.imp_of_mem fun ha hb hab => ?_
    exact (extended_iff (hord.mem _ ha) (hord.mem _ hb)).mp hab
  · intro x hx
    rw [← h.filter_tied hx hord.mem, ← h.filter_tied hx fun _ hy => hy]
    exact hties x

/-- There is one stably sorted form only. -/
theorem StablySorted.unique (h : Orders cmp (· ∈ xs)) (hy : StablySorted cmp xs ys)
    (hz : StablySorted cmp xs zs) : ys = zs := by
  have hmy : ∀ y ∈ ys, y ∈ xs := fun y hy' => hy.perm.subset hy'
  have hmz : ∀ z ∈ zs, z ∈ xs := fun z hz' => hz.perm.subset hz'
  have hsorted : ∀ {us : List α}, (∀ u ∈ us, u ∈ xs) → us.Pairwise (NotAfter cmp) →
      us.Pairwise fun a b => extended cmp (· ∈ xs) a b := by
    intro us hmem hs
    exact hs.imp_of_mem fun ha hb hab => (extended_iff (hmem _ ha) (hmem _ hb)).mpr hab
  refine SameTies.eq_of_sorted h.decides.refl (hsorted hmy hy.sorted) (hsorted hmz hz.sorted) ?_
  intro x
  by_cases hx : x ∈ xs
  · rw [h.filter_tied hx hmy, h.filter_tied hx hmz, hy.stable x hx, hz.stable x hx]
  · rw [filter_tied_of_not hx hmy, filter_tied_of_not hx hmz]

end PagedQuery.Sorting
