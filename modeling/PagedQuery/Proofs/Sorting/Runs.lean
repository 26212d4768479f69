import PagedQuery.Proofs.Sorting.Search

/-!
# Cutting a list into runs

Each run is a sorted form of the elements that it was cut from. An ascending stretch is one already,
a strictly descending one has no tied elements and may be turned round, and an insertion is a merge
with a list of one element.
-/

namespace PagedQuery.Sorting

variable {α ε : Type} {less : α → α → Except ε Bool} {le : α → α → Bool} {S : α → Prop}

theorem ascending_spec (h : Decides less le S) {last : α} {xs : List α} (hl : S last)
    (hx : ∀ x ∈ xs, S x) :
    ∃ run rest, ascending less last xs = .ok (run, rest) ∧ xs = run ++ rest ∧
      (last :: run).Pairwise fun a b => le a b := by
  induction xs generalizing last with
  | nil => exact ⟨[], [], rfl, rfl, List.pairwise_singleton ..⟩
  | cons x xs ih =>
    have hxS : S x := hx x (by simp)
    rw [ascending, h.less_eq hxS hl]
    cases hlx : le last x
    · exact ⟨[], x :: xs, rfl, rfl, List.pairwise_singleton ..⟩
    · obtain ⟨run, rest, hr, rfl, hs⟩ := ih hxS fun y hy => hx y (List.mem_cons_of_mem x hy)
      refine ⟨x :: run, rest, by rw [hr]; rfl, rfl, List.pairwise_cons.mpr ⟨?_, hs⟩⟩
      intro y hy
      rcases List.mem_cons.mp hy with rfl | hy
      · exact hlx
      · exact h.trans last x y hlx (List.rel_of_pairwise_cons hs hy)

theorem descending_spec (h : Decides less le S) {last : α} {xs : List α} (hl : S last)
    (hx : ∀ x ∈ xs, S x) :
    ∃ run rest, descending less last xs = .ok (run, rest) ∧ xs = run ++ rest ∧
      (last :: run).Pairwise fun a b => le a b = false := by
  induction xs generalizing last with
  | nil => exact ⟨[], [], rfl, rfl, List.pairwise_singleton ..⟩
  | cons x xs ih =>
    have hxS : S x := hx x (by simp)
    rw [descending, h.less_eq hxS hl]
    cases hlx : le last x
    · obtain ⟨run, rest, hr, rfl, hs⟩ := ih hxS fun y hy => hx y (List.mem_cons_of_mem x hy)
      refine ⟨x :: run, rest, by rw [hr]; rfl, rfl, List.pairwise_cons.mpr ⟨?_, hs⟩⟩
      intro y hy
      rcases List.mem_cons.mp hy with rfl | hy
      · exact hlx
      · exact h.not_le_of_le_of_not_le (h.le_of_not_le (List.rel_of_pairwise_cons hs hy)) hlx
    · exact ⟨[], x :: xs, rfl, rfl, List.pairwise_singleton ..⟩

/-- A strictly descending list holds at most one element of each class. -/
theorem sameTies_reverse (h : Decides less le S) {xs : List α}
    (hx : xs.Pairwise fun a b => le a b = false) : SameTies le xs.reverse xs := by
  intro a
  induction xs with
  | nil => rfl
  | cons x xs ih =>
    rw [List.reverse_cons, List.filter_append, ih hx.tail]
    cases hxa : tied le a x
    · rw [List.filter_cons_of_neg (by simp [hxa]), List.filter_cons_of_neg (by simp [hxa]),
        List.filter_nil, List.append_nil]
    · have hnone : xs.filter (tied le a) = [] := by
        rw [List.filter_eq_nil_iff]
        intro y hy hya
        have := h.not_tied_of_not_le (List.rel_of_pairwise_cons hx hy) hya
        simp [hxa] at this
      simp only [hnone, List.filter_cons_of_pos hxa, List.filter_nil, List.nil_append]

/-- The first run is a sorted form of the elements before the rest. -/
theorem firstRun_spec (h : Decides less le S) {xs : List α} (hx : ∀ x ∈ xs, S x) :
    ∃ run rest, firstRun less xs = .ok (run, rest) ∧ Ordered le S run ∧
      SameTies le (run ++ rest) xs := by
  match xs, hx with
  | [], _ => exact ⟨[], [], rfl, Ordered.nil, SameTies.refl _⟩
  | [x], hx => exact ⟨[x], [], rfl, ⟨hx, List.pairwise_singleton ..⟩, SameTies.refl _⟩
  | x :: y :: xs, hx =>
    have hxS : S x := hx x (by simp)
    have hyS : S y := hx y (by simp)
    have htail : ∀ z ∈ xs, S z := fun z hz => hx z (by simp [hz])
    rw [firstRun, h.less_eq hyS hxS]
    cases hxy : le x y
    · obtain ⟨run, rest, hr, rfl, hs⟩ := descending_spec h hyS htail
      have hdown : (x :: y :: run).Pairwise fun a b => le a b = false := by
        refine List.pairwise_cons.mpr ⟨?_, hs⟩
        intro z hz
        rcases List.mem_cons.mp hz with rfl | hz
        · exact hxy
        · exact h.not_le_of_le_of_not_le (h.le_of_not_le (List.rel_of_pairwise_cons hs hz)) hxy
      refine ⟨(x :: y :: run).reverse, rest, by simp [hr, bind, Except.bind, pure, Except.pure],
        ⟨?_, ?_⟩, ?_⟩
      · intro z hz
        exact hx z (List.mem_append_left rest (List.mem_reverse.mp hz))
      · exact List.pairwise_reverse.mpr (hdown.imp fun hab => h.le_of_not_le hab)
      · exact (sameTies_reverse h hdown).append (SameTies.refl rest)
    · obtain ⟨run, rest, hr, rfl, hs⟩ := ascending_spec h hyS htail
      have hup : (x :: y :: run).Pairwise fun a b => le a b := by
        refine List.pairwise_cons.mpr ⟨?_, hs⟩
        intro z hz
        rcases List.mem_cons.mp hz with rfl | hz
        · exact hxy
        · exact h.trans x y z hxy (List.rel_of_pairwise_cons hs hz)
      refine ⟨x :: y :: run, rest, by simp [hr, bind, Except.bind, pure, Except.pure],
        ⟨?_, hup⟩, SameTies.refl _⟩
      intro z hz
      exact hx z (List.mem_append_left rest hz)

/-- An insertion is a merge with one element more. -/
theorem insert_eq (h : Decides less le S) {x : α} {xs : List α} (hx : S x)
    (hxs : Ordered le S xs) : insert less x xs = .ok (xs.merge [x] le) := by
  obtain ⟨front, rest, rfl, hf, hr⟩ :=
    exists_cut (fun a => le a x) hxs.sorted fun a b hab hb => h.trans a b x hab hb
  have hprobe : ∀ i, probe (fun y => (less x y).map not) (front ++ rest) i =
      .ok (decide (i < front.length)) := by
    refine probe_append ?_ ?_
    · intro a ha
      simp [h.less_eq hx (hxs.mem a (by simp [ha])), Except.map, hf a ha]
    · intro b hb
      simp [h.less_eq hx (hxs.mem b (by simp [hb])), Except.map, hr b hb]
  have hmerge : (front ++ rest).merge [x] le = front ++ x :: rest := by
    rw [merge_append_of_le (by simpa using hf), merge_cons_of_not_le hr, List.merge_right]
  rw [insert, bisect_eq hprobe (Nat.zero_le _) (by simp), hmerge]
  simp

theorem insertAll_spec (h : Decides less le S) {sorted xs : List α} (hs : Ordered le S sorted)
    (hx : ∀ x ∈ xs, S x) :
    ∃ run, insertAll less sorted xs = .ok run ∧ Ordered le S run ∧
      SameTies le run (sorted ++ xs) := by
  induction xs generalizing sorted with
  | nil => exact ⟨sorted, rfl, hs, by rw [List.append_nil]; exact SameTies.refl sorted⟩
  | cons x xs ih =>
    have hone : Ordered le S [x] :=
      ⟨fun y hy => hx y (by simp [List.mem_singleton.mp hy]), List.pairwise_singleton ..⟩
    obtain ⟨run, hr, hrun, hties⟩ :=
      ih (Ordered.merge h hs hone) fun y hy => hx y (List.mem_cons_of_mem x hy)
    refine ⟨run, by rw [insertAll, insert_eq h (hx x (by simp)) hs]; exact hr, hrun, ?_⟩
    have hmerge : SameTies le (sorted.merge [x] le ++ xs) (sorted ++ [x] ++ xs) :=
      (sameTies_merge h hs).append (SameTies.refl xs)
    rw [List.append_assoc, List.singleton_append] at hmerge
    exact hties.trans hmerge

/-- The next run is a sorted form of the elements before the rest. -/
theorem nextRun_spec (h : Decides less le S) (least : ℕ) {xs : List α} (hx : ∀ x ∈ xs, S x) :
    ∃ run rest, nextRun less least xs = .ok (run, rest) ∧ Ordered le S run ∧
      SameTies le (run ++ rest) xs := by
  obtain ⟨first, rest, hr, hfirst, hties⟩ := firstRun_spec h hx
  have hrest : ∀ x ∈ rest, S x := fun x hxr =>
    hx x (hties.mem h.refl (List.mem_append_right first hxr))
  obtain ⟨run, hi, hrun, hties'⟩ := insertAll_spec h hfirst fun x hxr =>
    hrest x (List.mem_of_mem_take (i := least - first.length) hxr)
  refine ⟨run, rest.drop (least - first.length), by simp [nextRun, hr, hi], hrun, ?_⟩
  have happend := hties'.append (SameTies.refl (rest.drop (least - first.length)))
  rw [List.append_assoc, List.take_append_drop] at happend
  exact happend.trans hties

end PagedQuery.Sorting
