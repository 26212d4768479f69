import PagedQuery.Proofs.Sorting.Comparator
import PagedQuery.Source.Memory

/-!
# Selections and orderings of sources in memory

Every call that filters or orders a source adds one test or one comparison to it. Tests of tests
stop at the same filter as one test of all filters, and comparisons of comparisons find the same
sort that tells two entities apart. So a source depends on its calls only through their filters and
sorts.
-/

namespace PagedQuery

open PagedQuery.Sorting

section AllHold

variable {α : Type} {test : α → Except Fault Bool}

theorem allHold_append (as bs : List α) :
    allHold test (as ++ bs) =
      match allHold test as with
      | .ok true => allHold test bs
      | r => r := by
  induction as with
  | nil => rfl
  | cons a as ih =>
    rw [List.cons_append, allHold, allHold]
    split
    · exact ih
    · next hne =>
      split
      · next h => exact (hne h).elim
      · rfl

/-- Testing groups one after the other stops where testing all their elements does. -/
theorem allHold_flatten (groups : List (List α)) :
    allHold (allHold test) groups = allHold test groups.flatten := by
  induction groups with
  | nil => rfl
  | cons group groups ih =>
    rw [List.flatten_cons, allHold_append, ← ih]
    rfl

theorem allHold_of_forall {holds : α → Bool} {as : List α} (h : ∀ a ∈ as, test a = .ok (holds a)) :
    allHold test as = .ok (as.all holds) := by
  induction as with
  | nil => rfl
  | cons a as ih =>
    rw [allHold, h a List.mem_cons_self, List.all_cons]
    cases holds a with
    | true => exact ih fun b hb => h b (List.mem_cons_of_mem a hb)
    | false => rfl

end AllHold

/-- Later sorts only break the ties of earlier ones. -/
theorem orderBy_append (sorts later : List BoundSort) (x y : Value) :
    orderBy (sorts ++ later) x y =
      match orderBy sorts x y with
      | .ok .eq => orderBy later x y
      | r => r := by
  induction sorts with
  | nil => rfl
  | cons b bs ih =>
    rw [List.cons_append, orderBy, orderBy]
    split
    · exact ih
    · next hne =>
      split
      · next h => exact (hne h).elim
      · rfl

/-- Sorting by a comparison that tells nothing apart changes nothing. -/
theorem sort_of_ties {α ε : Type} (xs : List α) :
    sort (fun _ _ => (.ok false : Except ε Bool)) xs = .ok xs := by
  let cmp : α → α → Except ε Ordering := fun _ _ => .ok .eq
  have hord : Orders cmp (· ∈ xs) :=
    { total := fun _ _ => ⟨.eq, rfl⟩
      swap := fun _ _ h => Except.ok.inj h ▸ rfl
      trans := fun _ _ _ _ _ => ⟨.eq, rfl, by decide⟩ }
  obtain ⟨ys, hys, hstable⟩ := sort_stablySorted hord
  have hxs : StablySorted cmp xs xs :=
    { perm := .refl xs
      sorted := List.pairwise_of_forall fun _ _ => ⟨.eq, rfl, by decide⟩
      stable := fun _ _ => rfl }
  calc sort (fun _ _ => .ok false) xs = .ok ys := hys
    _ = .ok xs := by rw [hxs.unique hord hstable]

namespace MemorySource

theorem keep_of_forall {α : Type} {test : α → Except Fault Bool} {holds : α → Bool} {xs : List α}
    (h : ∀ x ∈ xs, test x = .ok (holds x)) : keep test xs = .ok (xs.filter holds) := by
  induction xs with
  | nil => rfl
  | cons x xs ih =>
    rw [keep, h x List.mem_cons_self, ih fun y hy => h y (List.mem_cons_of_mem x hy),
      List.filter_cons]
    rfl

variable (s : MemorySource)

@[simp] theorem filteredBy_filters (filters : List BoundFilter) :
    (s.filteredBy filters).filters = s.filters ++ filters := by
  cases filters <;> simp [filteredBy, MemorySource.filters]

@[simp] theorem filteredBy_sorts (filters : List BoundFilter) :
    (s.filteredBy filters).sorts = s.sorts := by
  cases filters <;> rfl

@[simp] theorem filteredBy_schema (filters : List BoundFilter) :
    (s.filteredBy filters).schema = s.schema := by
  cases filters <;> rfl

@[simp] theorem filteredBy_root (filters : List BoundFilter) :
    (s.filteredBy filters).root = s.root := by
  cases filters <;> rfl

@[simp] theorem filteredBy_items (filters : List BoundFilter) :
    (s.filteredBy filters).items = s.items := by
  cases filters <;> rfl

@[simp] theorem orderedBy_filters (sorts : List BoundSort) :
    (s.orderedBy sorts).filters = s.filters := by
  cases sorts <;> rfl

@[simp] theorem orderedBy_sorts (sorts : List BoundSort) :
    (s.orderedBy sorts).sorts = s.sorts ++ sorts := by
  cases sorts <;> simp [orderedBy, MemorySource.sorts]

@[simp] theorem orderedBy_schema (sorts : List BoundSort) :
    (s.orderedBy sorts).schema = s.schema := by
  cases sorts <;> rfl

@[simp] theorem orderedBy_root (sorts : List BoundSort) :
    (s.orderedBy sorts).root = s.root := by
  cases sorts <;> rfl

@[simp] theorem orderedBy_items (sorts : List BoundSort) :
    (s.orderedBy sorts).items = s.items := by
  cases sorts <;> rfl

theorem matching_eq_keep : s.matching = keep (s.schema.satisfies s.filters) s.items := by
  have h : s.selects = s.schema.satisfies s.filters := funext fun _ => allHold_flatten s.selections
  rw [matching, h]

theorem orderByAll_eq (orderings : List (List BoundSort)) :
    orderByAll orderings = orderBy orderings.flatten := by
  funext x y
  induction orderings with
  | nil => rfl
  | cons sorts rest ih =>
    rw [List.flatten_cons, orderBy_append, ← ih]
    rfl

theorem arranged_eq (entities : List Value) : s.arranged entities = arrange s.sorts entities := by
  rw [arranged, arrange, orderByAll_eq]
  change (if s.orderings.isEmpty then _ else
    sort (fun x y => (orderBy s.sorts x y).map (· == .lt)) entities) = _
  by_cases hs : s.sorts.isEmpty
  · -- Orderings without a sort tell nothing apart.
    have hnil : s.sorts = [] := List.isEmpty_iff.mp hs
    have hsort :
        sort (fun x y => (orderBy s.sorts x y).map (· == .lt)) entities = .ok entities := by
      rw [hnil]
      exact sort_of_ties entities
    rw [hsort, if_pos hs, ite_self]
  · have ho : ¬ s.orderings.isEmpty := by
      intro h
      rw [sorts, List.isEmpty_iff.mp h] at hs
      exact hs rfl
    rw [if_neg ho, if_neg hs]

theorem count_eq :
    s.count = (do return (← keep (s.schema.satisfies s.filters) s.items).length) := by
  rw [count, matching_eq_keep]

theorem fetch_eq (offset limit : Int) :
    s.fetch offset limit = (do
      let ordered ← arrange s.sorts (← keep (s.schema.satisfies s.filters) s.items)
      return slice ordered offset (offset + limit)) := by
  rw [fetch, matching_eq_keep]
  simp only [arranged_eq]

end MemorySource

end PagedQuery
