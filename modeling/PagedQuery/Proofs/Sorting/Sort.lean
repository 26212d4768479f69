import PagedQuery.Proofs.Sorting.Merge
import PagedQuery.Proofs.Sorting.Rearrangement
import PagedQuery.Proofs.Sorting.Runs

/-!
# The whole sort

What cutting off one run and merging two runs preserve, the sort preserves, in whatever order it
merges: with any comparison, the elements, or the failure of the comparison of two of them; with one
that decides a total preorder, their order within every class of tied elements as well, and then no
comparison fails and the result is sorted.
-/

namespace PagedQuery.Sorting

variable {α ε : Type}

/-- The elements of runs, of which the last one comes first, as they stand in the list. -/
def inOrder : List (Run α) → List α
  | [] => []
  | run :: runs => inOrder runs ++ run.elements

/-- A property of runs and a relation between lists that cutting off a run and merging two runs
preserve, on lists of certain elements. -/
structure Preserved (less : α → α → Except ε Bool) (mayFail : ε → Prop) (S : α → Prop)
    (Good : List α → Prop) (R : List α → List α → Prop) : Prop where
  nil : Good []
  refl : ∀ xs, R xs xs
  trans : ∀ {xs ys zs}, R xs ys → R ys zs → R xs zs
  append : ∀ {xs xs' ys ys'}, R xs xs' → R ys ys' → R (xs ++ ys) (xs' ++ ys')
  merge : ∀ {xs ys}, Good xs → Good ys → ∀ streak,
    Delivers mayFail (fun r => Good r.1 ∧ R r.1 (xs ++ ys)) (mergeRuns less streak xs ys)
  run : ∀ {xs}, (∀ x ∈ xs, S x) → ∀ least,
    Delivers mayFail (fun r => Good r.1 ∧ R (r.1 ++ r.2) xs ∧ ∀ x ∈ r.2, S x)
      (nextRun less least xs)

/-- Runs with a property whose elements are related to a list. -/
def Cover (Good : List α → Prop) (R : List α → List α → Prop) (runs : List (Run α))
    (xs : List α) : Prop :=
  (∀ run ∈ runs, Good run.elements) ∧ R (inOrder runs) xs

/-- The depth of the border after the last run plays no part. -/
theorem Cover.withDepth {Good : List α → Prop} {R : List α → List α → Prop} {run : Run α}
    {runs : List (Run α)} {xs : List α} (h : Cover Good R (run :: runs) xs) (depth : ℕ) :
    Cover Good R ({ run with depth } :: runs) xs := by
  refine ⟨?_, h.2⟩
  intro r hr
  rcases List.mem_cons.mp hr with rfl | hr
  · exact h.1 run (by simp)
  · exact h.1 r (by simp [hr])

namespace Preserved

variable {less : α → α → Except ε Bool} {mayFail : ε → Prop} {S : α → Prop}
variable {Good : List α → Prop} {R : List α → List α → Prop} (h : Preserved less mayFail S Good R)

include h

theorem merge_delivers {earlier later : Run α} (he : Good earlier.elements)
    (hl : Good later.elements) (streak : ℕ) :
    Delivers mayFail
      (fun r => Good r.1.elements ∧ R r.1.elements (earlier.elements ++ later.elements))
      (Sorting.merge less streak earlier later) :=
  Delivers.map (h.merge he hl streak)

/-- Merging two neighbouring runs covers the same list. -/
theorem cover_merge (front : List (Run α)) {back : List (Run α)} {earlier later run : Run α}
    {xs : List α} (hc : Cover Good R (front ++ later :: earlier :: back) xs)
    (hg : Good run.elements) (hr : R run.elements (earlier.elements ++ later.elements)) :
    Cover Good R (front ++ run :: back) xs := by
  refine ⟨?_, h.trans ?_ hc.2⟩
  · intro r hmem
    simp only [List.mem_append, List.mem_cons] at hmem
    rcases hmem with hmem | rfl | hmem
    · exact hc.1 r (by simp [hmem])
    · exact hg
    · exact hc.1 r (by simp [hmem])
  · clear hc
    induction front with
    | nil =>
      simp only [List.nil_append, inOrder, List.append_assoc]
      exact h.append (h.refl _) hr
    | cons r front ih => exact h.append ih (h.refl _)

theorem settle_delivers {runs : List (Run α)} {xs : List α} (hc : Cover Good R runs xs)
    (depth streak : ℕ) :
    Delivers mayFail (fun p => Cover Good R p.runs xs) (settle less depth streak runs) := by
  match runs with
  | [] =>
    rw [settle]
    exact hc
  | [run] =>
    rw [settle]
    exact hc.withDepth depth
  | later :: earlier :: runs =>
    rw [settle]
    split
    · rcases (h.merge_delivers (hc.1 earlier (by simp)) (hc.1 later (by simp)) streak).error_or_ok
        with ⟨e, hr, he⟩ | ⟨r, hr, hg, hR⟩
      · rw [hr]
        exact he
      · rw [hr]
        exact settle_delivers (h.cover_merge [] hc hg hR) depth r.2
    · exact hc.withDepth depth
termination_by runs.length

theorem add_delivers {p : Progress α} {xs elements : List α} (hc : Cover Good R p.runs xs)
    (hg : Good elements) (n : ℕ) :
    Delivers mayFail (fun p' => Cover Good R p'.runs (xs ++ elements)) (p.add less n elements) := by
  unfold Progress.add
  split
  · next hnil =>
    rw [hnil] at hc
    refine ⟨by simpa using hg, ?_⟩
    exact h.append hc.2 (h.refl elements)
  · dsimp only
    generalize borderDepth _ _ _ _ = depth
    refine Delivers.map ((h.settle_delivers hc depth p.streak).mono ?_)
    intro p' hc'
    refine ⟨?_, h.append hc'.2 (h.refl elements)⟩
    intro r hr
    rcases List.mem_cons.mp hr with rfl | hr
    · exact hg
    · exact hc'.1 r hr

/-- Every run takes something, so that the fuel lasts to the end of the list. -/
theorem addRuns_delivers {fuel : ℕ} {p : Progress α} {xs rest : List α}
    (hc : Cover Good R p.runs xs) (hS : ∀ x ∈ rest, S x) (hf : rest.length < fuel) (n : ℕ) :
    Delivers mayFail (fun p' => Cover Good R p'.runs (xs ++ rest)) (addRuns less n fuel p rest) := by
  induction fuel generalizing p xs rest with
  | zero => omega
  | succ fuel ih =>
    cases rest with
    | nil =>
      rw [addRuns, List.append_nil]
      exact hc
    | cons x rest =>
      rw [addRuns]
      swap
      · simp
      rcases (h.run hS (leastRun n)).error_or_ok with ⟨e, hr, he⟩ | ⟨r, hr, hg, hR, hS'⟩
      · rw [hr]
        exact he
      rw [hr]
      dsimp only
      rcases (h.add_delivers hc hg n).error_or_ok with ⟨e, hp, he⟩ | ⟨p', hp, hc'⟩
      · rw [hp]
        exact he
      rw [hp]
      have hlen : r.2.length < (x :: rest).length := nextRun_length_lt hr
      refine (ih hc' hS' (by omega)).mono fun p'' hc'' => ⟨hc''.1, h.trans hc''.2 ?_⟩
      rw [List.append_assoc]
      exact h.append (h.refl xs) hR

theorem collapse_delivers {runs : List (Run α)} {xs : List α} (hc : Cover Good R runs xs)
    (streak : ℕ) :
    Delivers mayFail (fun ys => Good ys ∧ R ys xs) (collapse less streak runs) := by
  match runs with
  | [] =>
    rw [collapse]
    exact ⟨h.nil, hc.2⟩
  | [run] =>
    rw [collapse]
    exact ⟨hc.1 run (by simp), hc.2⟩
  | [later, earlier] =>
    rw [collapse]
    have hm := h.merge_delivers (hc.1 earlier (by simp)) (hc.1 later (by simp)) streak
    exact Delivers.map (hm.mono fun r hr => ⟨hr.1, h.trans hr.2 hc.2⟩)
  | last :: later :: earlier :: runs =>
    rw [collapse]
    split
    · rcases (h.merge_delivers (hc.1 earlier (by simp)) (hc.1 later (by simp)) streak).error_or_ok
        with ⟨e, hr, he⟩ | ⟨r, hr, hg, hR⟩
      · rw [hr]
        exact he
      · rw [hr]
        exact collapse_delivers (h.cover_merge [last] hc hg hR) r.2
    · rcases (h.merge_delivers (hc.1 later (by simp)) (hc.1 last (by simp)) streak).error_or_ok
        with ⟨e, hr, he⟩ | ⟨r, hr, hg, hR⟩
      · rw [hr]
        exact he
      · rw [hr]
        exact collapse_delivers (h.cover_merge [] hc hg hR) r.2
termination_by runs.length

theorem sort_delivers {xs : List α} (hS : ∀ x ∈ xs, S x) :
    Delivers mayFail (fun ys => Good ys ∧ R ys xs) (sort less xs) := by
  have hempty : Cover Good R ({} : Progress α).runs [] := ⟨by simp, h.refl []⟩
  unfold sort
  rcases (h.addRuns_delivers hempty hS (Nat.lt_succ_self _) xs.length).error_or_ok with
    ⟨e, hr, he⟩ | ⟨p, hr, hc⟩
  · rw [hr]
    exact he
  · rw [hr]
    exact h.collapse_delivers hc p.streak

end Preserved

/-! ## Rearrangement and stability -/

section Results

variable {less : α → α → Except ε Bool} {le : α → α → Bool} {S : α → Prop}

theorem preserved_rearranged {mayFail : ε → Prop}
    (hless : ∀ x y, S x → S y → FailsOnly mayFail (less x y)) :
    Preserved less mayFail S (fun xs => ∀ x ∈ xs, S x) List.Perm where
  nil := by simp
  refl := List.Perm.refl
  trans := List.Perm.trans
  append := List.Perm.append
  merge := by
    intro xs ys hxs hys streak
    refine (mergeRuns_rearranges hless streak hxs hys).mono fun r hperm => ⟨fun z hz => ?_, hperm⟩
    exact List.forall_mem_append.mpr ⟨hxs, hys⟩ z (hperm.mem_iff.mp hz)
  run := by
    intro xs hxs least
    refine (nextRun_rearranges hless hxs least).mono fun r hr => ?_
    have hmem : ∀ z ∈ r.1 ++ r.2, S z := fun z hz => hxs z (hr.1.mem_iff.mp hz)
    exact ⟨fun z hz => hmem z (List.mem_append_left r.2 hz), hr.1,
      fun z hz => hmem z (List.mem_append_right r.1 hz)⟩

theorem preserved_ordered (h : Decides less le S) :
    Preserved less (fun _ => False) S (Ordered le S) (SameTies le) where
  nil := Ordered.nil
  refl := SameTies.refl
  trans := SameTies.trans
  append := SameTies.append
  merge := by
    intro xs ys hx hy streak
    obtain ⟨streak', hm⟩ := mergeRuns_yields h streak hx hy
    rw [hm]
    exact ⟨Ordered.merge h hx hy, sameTies_merge h hx⟩
  run := by
    intro xs hS least
    obtain ⟨run, rest, hr, hrun, hties⟩ := nextRun_spec h least hS
    rw [hr]
    exact ⟨hrun, hties, fun x hx => hS x (hties.mem h.refl (List.mem_append_right run hx))⟩

/-- A sort that does not fail loses nothing and repeats nothing, whatever the comparison answers. -/
theorem sort_perm {xs ys : List α} (h : sort less xs = .ok ys) : ys.Perm xs := by
  have hless : ∀ x y, True → True → FailsOnly (fun _ => True) (less x y) := fun x y _ _ =>
    .any (less x y)
  have hsort := (preserved_rearranged hless).sort_delivers fun x (_ : x ∈ xs) => trivial
  rw [h] at hsort
  exact hsort.2

/-- If a sort fails, comparing two elements of the list fails in the same way. -/
theorem sort_eq_error {xs : List α} {e : ε} (h : sort less xs = .error e) :
    ∃ x ∈ xs, ∃ y ∈ xs, less x y = .error e := by
  have hless : ∀ x y, x ∈ xs → y ∈ xs →
      FailsOnly (fun e => ∃ x ∈ xs, ∃ y ∈ xs, less x y = .error e) (less x y) := by
    intro x y hx hy
    cases hr : less x y with
    | error e => exact .error ⟨x, hx, y, hy, hr⟩
    | ok b => exact .ok b
  have hsort := (preserved_rearranged hless).sort_delivers fun _ hx => hx
  rw [h] at hsort
  exact hsort

/-- With a comparison that decides a total preorder, sorting succeeds, and the result is the stably
sorted form of the list. -/
theorem sort_ordered (h : Decides less le S) {xs : List α} (hS : ∀ x ∈ xs, S x) :
    ∃ ys, sort less xs = .ok ys ∧ Ordered le S ys ∧ SameTies le ys xs := by
  have hd := (preserved_ordered h).sort_delivers hS
  cases hr : sort less xs with
  | error e =>
    rw [hr] at hd
    exact hd.elim
  | ok ys =>
    rw [hr] at hd
    exact ⟨ys, rfl, hd⟩

end Results

end PagedQuery.Sorting
