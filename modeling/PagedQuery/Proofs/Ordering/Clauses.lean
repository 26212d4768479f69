import Mathlib.Tactic
import PagedQuery.Proofs.Ordering.Kind
import PagedQuery.Proofs.Sorting.Comparator

/-!
# Ordering by several clauses

Where the values at every sort path are missing or of one kind, the sorts together order entities
lexicographically by the places of their values, turned round for descending sorts. Arranging
entities then yields the one stably sorted permutation of them.
-/

namespace PagedQuery

open PagedQuery.Sorting

namespace Kind

variable {k : Kind} {v : Value}

theorem isSequence_eq_false (h : k.Admits v) : v.isSequence = false := by
  rcases h with h | h
  · cases v with
    | null => rfl
    | _ => cases h
  · cases v with
    | list xs => cases k <;> cases h
    | tuple xs => cases k <;> cases h
    | _ => rfl

end Kind

namespace BoundSort

/-- The order of two entities by the places of their values among those of a kind. -/
def ranked (b : BoundSort) (k : Kind) (x y : Value) : Ordering :=
  let o := compare (k.rank (b.path.get x)) (k.rank (b.path.get y))
  if b.isDescending then o.swap else o

theorem order_eq {b : BoundSort} {k : Kind} {x y : Value} (hx : k.Admits (b.path.get x))
    (hy : k.Admits (b.path.get y)) : b.order x y = .ok (b.ranked k x y) := by
  simp only [order, ranked, Kind.isSequence_eq_false hx, Kind.order_eq hx hy, Bool.and_false,
    Bool.false_eq_true, if_false, Except.map]

instance (b : BoundSort) (k : Kind) : Std.TransCmp (b.ranked k) := by
  cases hb : b.isDescending with
  | false =>
    have hr : b.ranked k = compareOn fun x => k.rank (b.path.get x) := by
      funext x y
      simp [ranked, hb, compareOn]
    rw [hr]
    infer_instance
  | true =>
    have hr : b.ranked k = fun x y => compareOn (fun x => k.rank (b.path.get x)) y x := by
      funext x y
      simp only [ranked, hb, if_true, compareOn]
      exact Std.OrientedOrd.eq_swap.symm
    rw [hr]
    infer_instance

end BoundSort

/-- The order of the first clause that tells two entities apart. -/
def lexicographic (kind : BoundSort → Kind) : List BoundSort → Value → Value → Ordering
  | [], _, _ => .eq
  | b :: bs, x, y => (b.ranked (kind b) x y).then (lexicographic kind bs x y)

instance (kind : BoundSort → Kind) (sorts : List BoundSort) :
    Std.TransCmp (lexicographic kind sorts) := by
  induction sorts with
  | nil => exact { eq_swap := rfl, isLE_trans := fun _ _ => rfl }
  | cons b bs ih =>
    have hl : lexicographic kind (b :: bs) =
        compareLex (b.ranked (kind b)) (lexicographic kind bs) := rfl
    rw [hl]
    infer_instance

/-- Two entities tie if no clause tells them apart. -/
theorem ranked_eq_of_tie {kind : BoundSort → Kind} {sorts : List BoundSort} {x y : Value}
    (h : lexicographic kind sorts x y = .eq) : ∀ b ∈ sorts, b.ranked (kind b) x y = .eq := by
  induction sorts with
  | nil => simp
  | cons c cs ih =>
    obtain ⟨hc, hcs⟩ := Ordering.then_eq_eq.mp h
    intro b hb
    rcases List.mem_cons.mp hb with rfl | hb
    · exact hc
    · exact ih hcs b hb

/-- An entity has at every sort path no value or one of the kind for that sort. -/
def Sortable (kind : BoundSort → Kind) (sorts : List BoundSort) (x : Value) : Prop :=
  ∀ b ∈ sorts, (kind b).Admits (b.path.get x)

instance (kind : BoundSort → Kind) (sorts : List BoundSort) (x : Value) :
    Decidable (Sortable kind sorts x) :=
  inferInstanceAs (Decidable (∀ b ∈ sorts, (kind b).Admits (b.path.get x)))

section

variable {kind : BoundSort → Kind} {sorts : List BoundSort} {items : List Value}

theorem orderBy_eq_lexicographic {x y : Value} (hx : Sortable kind sorts x)
    (hy : Sortable kind sorts y) : orderBy sorts x y = .ok (lexicographic kind sorts x y) := by
  induction sorts with
  | nil => rfl
  | cons b bs ih =>
    have ih := ih (fun c hc => hx c (List.mem_cons_of_mem b hc)) fun c hc =>
      hy c (List.mem_cons_of_mem b hc)
    rw [orderBy, BoundSort.order_eq (hx b List.mem_cons_self) (hy b List.mem_cons_self)]
    unfold lexicographic
    cases b.ranked (kind b) x y with
    | lt => rfl
    | eq => exact ih
    | gt => rfl

/-- A comparison that agrees with a lawful one on certain elements orders them. -/
theorem orders_of_eq {cmp : Value → Value → Except Fault Ordering} {c : Value → Value → Ordering}
    [Std.TransCmp c] {S : Value → Prop} (h : ∀ x y, S x → S y → cmp x y = .ok (c x y)) :
    Orders cmp S where
  total := fun hx hy => ⟨_, h _ _ hx hy⟩
  swap := by
    intro x y o hx hy ho
    have hs : c y x = (c x y).swap := Std.OrientedCmp.eq_swap
    rw [h x y hx hy] at ho
    rw [h y x hy hx, hs, Except.ok.inj ho]
  trans := by
    intro x y z hx hy hz ⟨o, ho, hne⟩ ⟨o', ho', hne'⟩
    rw [h x y hx hy] at ho
    rw [h y z hy hz] at ho'
    have hxy : (c x y).isLE := by
      rw [Except.ok.inj ho]
      cases o <;> first | rfl | exact (hne rfl).elim
    have hyz : (c y z).isLE := by
      rw [Except.ok.inj ho']
      cases o' <;> first | rfl | exact (hne' rfl).elim
    refine ⟨_, h x z hx hz, ?_⟩
    intro hgt
    have hxz := Std.TransCmp.isLE_trans hxy hyz
    rw [hgt] at hxz
    cases hxz

/-- Where the sorts order the entities, arranging them succeeds and sorts them stably. -/
theorem arrange_stablySorted (h : Orders (orderBy sorts) (· ∈ items)) :
    ∃ ys, arrange sorts items = .ok ys ∧ StablySorted (orderBy sorts) items ys := by
  cases sorts with
  | nil =>
    refine ⟨items, rfl, .refl items, ?_, fun _ _ => rfl⟩
    exact List.pairwise_of_forall fun _ _ => ⟨.eq, rfl, by decide⟩
  | cons b bs => exact sort_stablySorted h

/-- Arranging loses and repeats no entity, whatever the sorts are. -/
theorem arrange_perm {ys : List Value} (h : arrange sorts items = .ok ys) : ys.Perm items := by
  unfold arrange at h
  split at h
  · cases h
    exact .refl _
  · exact sort_perm h

/-- Where the sorts tell all entities apart there is one way to arrange them, however they stood. -/
theorem arrange_eq_mergeSort {items' : List Value} (h : ∀ x ∈ items, Sortable kind sorts x)
    (hties : ∀ x ∈ items, ∀ y ∈ items, lexicographic kind sorts x y = .eq → x = y)
    (hperm : items'.Perm items) :
    arrange sorts items =
      .ok (items'.mergeSort fun x y => (lexicographic kind sorts x y).isLE) := by
  have heq : ∀ x y, x ∈ items → y ∈ items →
      orderBy sorts x y = .ok (lexicographic kind sorts x y) := fun x y hx hy =>
    orderBy_eq_lexicographic (h x hx) (h y hy)
  obtain ⟨ys, hys, hstable⟩ := arrange_stablySorted (orders_of_eq heq)
  have hsorted : ys.Pairwise fun x y => (lexicographic kind sorts x y).isLE := by
    refine hstable.sorted.imp_of_mem fun {x y} hx hy ⟨o, ho, hne⟩ => ?_
    rw [heq x y (hstable.perm.mem_iff.mp hx) (hstable.perm.mem_iff.mp hy)] at ho
    rw [Except.ok.inj ho]
    cases o <;> first | rfl | exact (hne rfl).elim
  have hle : ∀ x y z, (lexicographic kind sorts x y).isLE → (lexicographic kind sorts y z).isLE →
      (lexicographic kind sorts x z).isLE := fun _ _ _ => Std.TransCmp.isLE_trans
  have htotal : ∀ x y,
      (lexicographic kind sorts x y).isLE || (lexicographic kind sorts y x).isLE := by
    intro x y
    have hswap : lexicographic kind sorts y x = (lexicographic kind sorts x y).swap :=
      Std.OrientedCmp.eq_swap
    rw [hswap]
    cases lexicographic kind sorts x y <;> rfl
  have hperm' :=
    (List.mergeSort_perm items' fun x y => (lexicographic kind sorts x y).isLE).trans hperm
  rw [hys]
  refine congrArg _ (List.Perm.eq_of_pairwise (fun x y hx hy hxy hyx => ?_) hsorted
    (List.pairwise_mergeSort hle htotal items') (hstable.perm.trans hperm'.symm))
  exact hties x (hstable.perm.mem_iff.mp hx) y (hperm'.mem_iff.mp hy)
    (Std.OrientedCmp.isLE_antisymm hxy hyx)

end

/-- Where the values at every sort path are missing or of one kind, the sorts order the entities,
lexicographically, and arranging yields their only stably sorted permutation. -/
theorem arrange_of_sortable (kind : BoundSort → Kind) (sorts : List BoundSort)
    (items : List Value) (h : ∀ x ∈ items, Sortable kind sorts x) :
    Orders (orderBy sorts) (· ∈ items) ∧
      (∀ x ∈ items, ∀ y ∈ items, orderBy sorts x y = .ok (lexicographic kind sorts x y)) ∧
      ∃ ys, arrange sorts items = .ok ys ∧ StablySorted (orderBy sorts) items ys ∧
        ∀ zs, StablySorted (orderBy sorts) items zs → zs = ys := by
  have heq : ∀ x y, x ∈ items → y ∈ items →
      orderBy sorts x y = .ok (lexicographic kind sorts x y) := fun x y hx hy =>
    orderBy_eq_lexicographic (h x hx) (h y hy)
  have hord : Orders (orderBy sorts) (· ∈ items) := orders_of_eq heq
  obtain ⟨ys, hys, hstable⟩ := arrange_stablySorted hord
  exact ⟨hord, fun x hx y hy => heq x y hx hy, ys, hys, hstable,
    fun zs hzs => hzs.unique hord hstable⟩

/-- A concert with a price, or without one, at a moment on which its doors open. -/
def concert (identity : ℕ) (price : Value) (opens : Time.DateTime) : Value :=
  .entity "Concert" {} identity
    [("price", price), ("doors", .entity "Doors" {} 0 [("opens", .dateTime opens)])]

/-- The highest price first, then by the moment on which the doors open. -/
def concertSorts : List BoundSort :=
  [⟨⟨"Price", .descending⟩, ⟨.entity "Concert", [⟨"price", .scalar .decimal, false, false⟩]⟩, 0⟩,
   ⟨⟨"Doors.Opens", .ascending⟩,
    ⟨.entity "Concert", [⟨"doors", .entity "Doors", false, true⟩,
      ⟨"opens", .scalar .dateTime, false, false⟩]⟩, 1⟩]

/-- Moments with and without offsets, prices of several representations and none. -/
def concerts : List Value :=
  [concert 1 (.int 30) ⟨⟨2024, 5, 1⟩, ⟨20, 0, 0, 0, none⟩⟩,
   concert 2 .null ⟨⟨2024, 5, 1⟩, ⟨20, 0, 0, 0, some 7200000000⟩⟩,
   concert 3 (.decimal (.finite false 300 (-1))) ⟨⟨2024, 5, 1⟩, ⟨19, 0, 0, 0, some 0⟩⟩]

def concertKind (b : BoundSort) : Kind := if b.position = 0 then .number else .moment

theorem arrange_concerts :
    (∀ x ∈ concerts, Sortable concertKind concertSorts x) ∧
      ∃ ys, arrange concertSorts concerts = .ok ys ∧
        StablySorted (orderBy concertSorts) concerts ys := by
  have h : ∀ x ∈ concerts, Sortable concertKind concertSorts x := by decide
  obtain ⟨ys, hys, hs, -⟩ := (arrange_of_sortable concertKind concertSorts concerts h).2.2
  exact ⟨h, ys, hys, hs⟩

end PagedQuery
