import PagedQuery.Proofs.Sorting.Search
import PagedQuery.Proofs.Sorting.Steps

/-!
# Merging two runs

The adaptive merge of two sorted lists, one element or a block of elements at a time, from the front
or from the back, is their stable merge. Neither the streak that a merge starts with nor the wins
that it has counted change the elements of its result.
-/

namespace PagedQuery.Sorting

variable {α ε : Type}

/-- The result of a merge that does not fail, whatever streak it ends with. -/
def Merged.Yields (r : Merged ε α) (zs : List α) : Prop := ∃ streak, r = .ok (zs, streak)

theorem Merged.Yields.after {r : Merged ε α} {zs : List α} (h : r.Yields zs) (taken : List α) :
    (Merged.after taken r).Yields (taken ++ zs) := by
  obtain ⟨streak, rfl⟩ := h
  exact ⟨streak, rfl⟩

theorem Merged.yields_ok (zs : List α) (streak : ℕ) : Merged.Yields (ε := ε) (.ok (zs, streak)) zs :=
  ⟨streak, rfl⟩

variable {less : α → α → Except ε Bool} {le : α → α → Bool} {S : α → Prop}

/-! ## The merge in reverse order -/

/-- The stable merge of two lists in reverse order, in reverse order. -/
def backMerge (le : α → α → Bool) (xs ys : List α) : List α :=
  (xs.reverse.merge ys.reverse le).reverse

@[simp] theorem backMerge_nil_left (ys : List α) : backMerge le [] ys = ys := by simp [backMerge]

@[simp] theorem backMerge_nil_right (xs : List α) : backMerge le xs [] = xs := by simp [backMerge]

theorem backMerge_append_of_not_le (back : List α) {xs ys : List α}
    (h : ∀ b ∈ back, ∀ y ∈ ys, le b y = false) :
    backMerge le (back ++ xs) ys = back ++ backMerge le xs ys := by
  rw [backMerge, List.reverse_append, merge_append_back_of_not_le (by simpa using h),
    List.reverse_append, List.reverse_reverse, backMerge]

theorem backMerge_append_of_le (back : List α) {xs ys : List α} (h : ∀ x ∈ xs, ∀ b ∈ back, le x b) :
    backMerge le xs (back ++ ys) = back ++ backMerge le xs ys := by
  rw [backMerge, List.reverse_append, merge_append_back_of_le (by simpa using h),
    List.reverse_append, List.reverse_reverse, backMerge]

/-! ## What a side yields -/

namespace Side

/-- The stable merge of two lists, which the back yields in reverse order. -/
def merged (le : α → α → Bool) : Side → List α → List α → List α
  | front => fun xs ys => xs.merge ys le
  | back => backMerge le

/-- Lists as a side merges them: sorted, for the back in reverse order. -/
def Sorted (le : α → α → Bool) (S : α → Prop) : Side → List α → Prop
  | front, xs => Ordered le S xs
  | back, xs => Ordered le S xs.reverse

/-- Whether an element of the first list is taken before one of the second. -/
def leads (le : α → α → Bool) : Side → α → α → Bool
  | front, x, y => le x y
  | back, x, y => !le x y

/-- The first list, or for the back the second one, ends beyond the whole other list. -/
def EndsBeyond (le : α → α → Bool) : Side → List α → List α → Prop
  | front, xs, ys => ∀ x ∈ xs.getLast?, ∀ y ∈ ys, le x y = false
  | back, xs, ys => ∀ y ∈ ys.getLast?, ∀ x ∈ xs, le x y = false

variable {side : Side} {xs ys : List α}

@[simp] theorem merged_nil_left (side : Side) (ys : List α) : side.merged le [] ys = ys := by
  cases side <;> simp [merged]

@[simp] theorem merged_nil_right (side : Side) (xs : List α) : side.merged le xs [] = xs := by
  cases side <;> simp [merged]

theorem merged_append_first {block : List α}
    (h : ∀ a ∈ block, ∀ y ∈ ys, side.leads le a y) :
    side.merged le (block ++ xs) ys = block ++ side.merged le xs ys := by
  cases side with
  | front => exact merge_append_of_le h
  | back => exact backMerge_append_of_not_le block (by simpa [leads] using h)

theorem merged_append_second {block : List α}
    (h : ∀ b ∈ block, ∀ x ∈ xs, side.leads le x b = false) :
    side.merged le xs (block ++ ys) = block ++ side.merged le xs ys := by
  cases side with
  | front => exact merge_append_of_not_le h
  | back =>
    refine backMerge_append_of_le block fun x hx b hb => ?_
    simpa [leads] using h b hb x hx

theorem merged_cons_first {x : α} (h : ∀ y ∈ ys, side.leads le x y) :
    side.merged le (x :: xs) ys = [x] ++ side.merged le xs ys := by
  rw [← List.singleton_append]
  refine merged_append_first fun a ha y hy => ?_
  rw [List.mem_singleton.mp ha]
  exact h y hy

theorem merged_cons_second {y : α} (h : ∀ x ∈ xs, side.leads le x y = false) :
    side.merged le xs (y :: ys) = [y] ++ side.merged le xs ys := by
  rw [← List.singleton_append]
  refine merged_append_second fun b hb x hx => ?_
  rw [List.mem_singleton.mp hb]
  exact h x hx

theorem Sorted.mem (h : side.Sorted le S xs) {x : α} (hx : x ∈ xs) : S x := by
  cases side with
  | front => exact Ordered.mem h x hx
  | back => exact Ordered.mem h x (List.mem_reverse.mpr hx)

theorem Sorted.right (h : side.Sorted le S (xs ++ ys)) : side.Sorted le S ys := by
  cases side with
  | front => exact Ordered.right h
  | back =>
    rw [Sorted, List.reverse_append] at h
    exact h.left

theorem EndsBeyond.right {block block' : List α}
    (h : side.EndsBeyond le (block ++ xs) (block' ++ ys)) : side.EndsBeyond le xs ys := by
  cases side with
  | front =>
    intro x hx y hy
    exact h x (by simp [List.getLast?_append, Option.mem_def.mp hx]) y (by simp [hy])
  | back =>
    intro y hy x hx
    exact h y (by simp [List.getLast?_append, Option.mem_def.mp hy]) x (by simp [hx])

/-- Two lists as a side merges them, and steps enough. -/
structure Ready (side : Side) (le : α → α → Bool) (S : α → Prop) (fuel : ℕ) (xs ys : List α) :
    Prop where
  first : side.Sorted le S xs
  second : side.Sorted le S ys
  last : side.EndsBeyond le xs ys
  enough : xs.length + ys.length ≤ fuel

namespace Ready

variable {fuel : ℕ}

/-- What is left of both lists when something has been taken of them. -/
theorem drop {fuel' : ℕ} (block block' : List α)
    (h : side.Ready le S fuel (block ++ xs) (block' ++ ys))
    (hf : fuel ≤ fuel' + block.length + block'.length) : side.Ready le S fuel' xs ys where
  first := h.first.right
  second := h.second.right
  last := h.last.right
  enough := by
    have hn := h.enough
    simp only [List.length_append] at hn
    omega

theorem eq_nil (h : side.Ready le S 0 xs ys) : xs = [] ∧ ys = [] := by
  have hn := h.enough
  exact ⟨List.length_eq_zero_iff.mp (by omega), List.length_eq_zero_iff.mp (by omega)⟩

theorem merged_front_singleton {x : α} (h : front.Ready le S fuel [x] ys) :
    front.merged le [x] ys = ys ++ [x] := by
  have hx : ∀ y ∈ ys, ∀ b ∈ [x], front.leads le b y = false := by
    intro y hy b hb
    rw [List.mem_singleton.mp hb]
    exact h.last x rfl y hy
  have htake : front.merged le [x] (ys ++ []) = ys ++ front.merged le [x] [] :=
    merged_append_second hx
  simpa using htake

theorem merged_back_singleton {y : α} (h : back.Ready le S fuel xs [y]) :
    back.merged le xs [y] = xs ++ [y] := by
  have hy : ∀ a ∈ xs, ∀ b ∈ [y], back.leads le a b := by
    intro a ha b hb
    rw [List.mem_singleton.mp hb]
    simp [leads, h.last y rfl a ha]
  have htake : back.merged le (xs ++ []) [y] = xs ++ back.merged le [] [y] :=
    merged_append_first hy
  simpa using htake

theorem rest?_eq {zs : List α} (h : side.Ready le S fuel xs ys) (hr : side.rest? xs ys = some zs) :
    zs = side.merged le xs ys := by
  cases side with
  | front =>
    change frontRest? xs ys = some zs at hr
    unfold frontRest? at hr
    split at hr
    · simpa using hr.symm
    · simpa using hr.symm
    · rw [h.merged_front_singleton]
      exact (Option.some.inj hr).symm
    · cases hr
  | back =>
    change backRest? xs ys = some zs at hr
    unfold backRest? at hr
    split at hr
    · simpa using hr.symm
    · simpa using hr.symm
    · rw [h.merged_back_singleton]
      exact (Option.some.inj hr).symm
    · cases hr

end Ready

section Decided

variable (h : Decides less le S) (side : Side) {x y z : α}

include h

/-- What is taken before the next element of the second list is taken before all of it. -/
theorem leads_of_mem_cons {side : Side} (hs : side.Sorted le S (y :: ys)) (hxy : side.leads le x y)
    (hz : z ∈ y :: ys) : side.leads le x z := by
  rcases List.mem_cons.mp hz with rfl | hz
  · exact hxy
  cases side with
  | front => exact h.trans x y z hxy (List.rel_of_pairwise_cons hs.sorted hz)
  | back =>
    simp only [leads, Bool.not_eq_true'] at hxy ⊢
    exact h.not_le_of_le_of_not_le (Ordered.le_of_mem_reverse hs hz) hxy

/-- What is taken before the next element of the first list is taken before all of it. -/
theorem not_leads_of_mem_cons {side : Side} (hs : side.Sorted le S (x :: xs))
    (hxy : side.leads le x y = false) (hz : z ∈ x :: xs) : side.leads le z y = false := by
  rcases List.mem_cons.mp hz with rfl | hz
  · exact hxy
  cases side with
  | front => exact h.not_le_of_not_le_of_le hxy (List.rel_of_pairwise_cons hs.sorted hz)
  | back =>
    simp only [leads, Bool.not_eq_false'] at hxy ⊢
    exact h.trans z x y (Ordered.le_of_mem_reverse hs hz) hxy

/-- The answer of a comparison tells which of two elements is taken. -/
theorem leads_eq (hx : S x) (hy : S y) {lower : Bool} (hless : less y x = .ok lower) :
    side.leads le x y = (lower == side.takesFirst) := by
  rw [h.less_eq hy hx] at hless
  rw [← Except.ok.inj hless]
  cases side with
  | front => simp [leads, takesFirst]
  | back => simp [leads, takesFirst]

/-- The elements of the first list that are taken before an element of the second one stand at the
front. -/
theorem countFirst_spec (hy : S y) (hx : side.Sorted le S xs) :
    ∃ block rest, xs = block ++ rest ∧ side.countFirst less y xs = .ok block.length ∧
      (∀ a ∈ block, side.leads le a y) ∧ ∀ a ∈ rest, side.leads le a y = false := by
  cases side with
  | front => exact notGreater_spec h hy hx 0
  | back =>
    obtain ⟨rest, block, hs, hcount, hrest, hblock⟩ := notGreater_spec h hy hx (xs.length - 1)
    have hxs : xs = block.reverse ++ rest.reverse := by
      rw [← List.reverse_append, ← hs, List.reverse_reverse]
    have hlen : xs.length - rest.length = block.length := by simp [hxs]
    exact ⟨block.reverse, rest.reverse, hxs, by simp [countFirst, hcount, Except.map, hlen],
      by simpa [leads] using hblock, by simpa [leads] using hrest⟩

/-- The elements of the second list that are taken before an element of the first one stand at the
front. -/
theorem countSecond_spec (hx : S x) (hy : side.Sorted le S ys) :
    ∃ block rest, ys = block ++ rest ∧ side.countSecond less x ys = .ok block.length ∧
      (∀ b ∈ block, side.leads le x b = false) ∧ ∀ b ∈ rest, side.leads le x b := by
  cases side with
  | front => exact lessThan_spec h hx hy 0
  | back =>
    obtain ⟨rest, block, hs, hcount, hrest, hblock⟩ := lessThan_spec h hx hy (ys.length - 1)
    have hys : ys = block.reverse ++ rest.reverse := by
      rw [← List.reverse_append, ← hs, List.reverse_reverse]
    have hlen : ys.length - rest.length = block.length := by simp [hys]
    exact ⟨block.reverse, rest.reverse, hys, by simp [countSecond, hcount, Except.map, hlen],
      by simpa [leads] using hblock, by simpa [leads] using hrest⟩

end Decided

end Side

/-! ## Steps that yield the merge

Whatever a step takes belongs at the front of the merge, and both lists are ready for what
follows. -/

section Steps

variable (h : Decides less le S) {side : Side} {fuel : ℕ} {xs ys : List α} {r : Merged ε α}

include h

section Step

variable (ih : ∀ {xs ys : List α} {r : Merged ε α}, side.Ready le S fuel xs ys →
  GoesOn side less fuel xs ys r → r.Yields (side.merged le xs ys))
include ih

theorem TakesOne.yields (hr : side.Ready le S (fuel + 1) xs ys)
    (ht : TakesOne side less fuel xs ys r) : r.Yields (side.merged le xs ys) := by
  cases ht with
  | rest hrest streak =>
    rw [← hr.rest?_eq hrest]
    exact Merged.yields_ok _ streak
  | @fails x y e xs ys hfails =>
    rw [h.less_eq (hr.second.mem (by simp)) (hr.first.mem (by simp))] at hfails
    cases hfails
  | @first x y xs ys r hless hg =>
    have hlead : side.leads le x y := by
      simp [side.leads_eq h (hr.first.mem (by simp)) (hr.second.mem (by simp)) hless]
    have hn : side.Ready le S fuel xs (y :: ys) := hr.drop [x] [] le_rfl
    rw [Side.merged_cons_first fun z hz => Side.leads_of_mem_cons h hr.second hlead hz]
    exact (ih hn hg).after [x]
  | @second x y xs ys r hless hg =>
    have hlead : side.leads le x y = false := by
      simp [side.leads_eq h (hr.first.mem (by simp)) (hr.second.mem (by simp)) hless]
    have hn : side.Ready le S fuel (x :: xs) ys := hr.drop [] [y] le_rfl
    rw [Side.merged_cons_second fun z hz => Side.not_leads_of_mem_cons h hr.first hlead hz]
    exact (ih hn hg).after [y]

theorem TakesSecond.yields (hr : side.Ready le S fuel xs ys)
    (ht : TakesSecond side less fuel xs ys r) : r.Yields (side.merged le xs ys) := by
  cases ht with
  | rest hrest streak =>
    rw [← hr.rest?_eq hrest]
    exact Merged.yields_ok _ streak
  | @fails x ys e xs hfails =>
    have hx : S x := hr.first.mem (by simp)
    obtain ⟨_, _, _, hcount, _⟩ := side.countSecond_spec h hx hr.second
    rw [hcount] at hfails
    cases hfails
  | @block x xs ys count r hcount hg =>
    have hx : S x := hr.first.mem (by simp)
    obtain ⟨block, rest, rfl, hlength, hbefore, hafter⟩ := side.countSecond_spec h hx hr.second
    obtain rfl : block.length = count := Except.ok.inj (hlength.symm.trans hcount)
    rw [List.drop_left] at hg
    have htake : side.merged le (x :: xs) (block ++ rest) =
        block ++ [x] ++ side.merged le xs rest := by
      have hblock : ∀ b ∈ block, ∀ z ∈ x :: xs, side.leads le z b = false := fun b hb z hz =>
        Side.not_leads_of_mem_cons h hr.first (hbefore b hb) hz
      rw [Side.merged_append_second hblock, Side.merged_cons_first hafter, List.append_assoc]
    have hn : side.Ready le S fuel xs rest := hr.drop [x] block (by omega)
    rw [htake, List.take_left]
    exact (ih hn hg).after _

theorem TakesFirst.yields (hr : side.Ready le S (fuel + 1) xs ys)
    (ht : TakesFirst side less fuel xs ys r) : r.Yields (side.merged le xs ys) := by
  cases ht with
  | used xs streak =>
    rw [Side.merged_nil_right]
    exact Merged.yields_ok xs streak
  | @fails y xs e ys hfails =>
    have hy : S y := hr.second.mem (by simp)
    obtain ⟨_, _, _, hcount, _⟩ := side.countFirst_spec h hy hr.first
    rw [hcount] at hfails
    cases hfails
  | @block y xs ys count r hcount ht =>
    have hy : S y := hr.second.mem (by simp)
    obtain ⟨block, rest, rfl, hlength, hbefore, hafter⟩ := side.countFirst_spec h hy hr.first
    obtain rfl : block.length = count := Except.ok.inj (hlength.symm.trans hcount)
    rw [List.drop_left] at ht
    have htake : side.merged le (block ++ rest) (y :: ys) =
        block ++ [y] ++ side.merged le rest ys := by
      have hblock : ∀ a ∈ block, ∀ z ∈ y :: ys, side.leads le a z := fun a ha z hz =>
        Side.leads_of_mem_cons h hr.second (hbefore a ha) hz
      rw [Side.merged_append_first hblock, Side.merged_cons_second hafter, List.append_assoc]
    have hn : side.Ready le S fuel rest ys := hr.drop block [y] (by simp)
    rw [htake, List.take_left]
    exact (ht.yields h ih hn).after _

end Step

/-- However a merge goes on with steps enough, it yields the stable merge. -/
theorem GoesOn.yields (hr : side.Ready le S fuel xs ys) (hg : GoesOn side less fuel xs ys r) :
    r.Yields (side.merged le xs ys) := by
  induction fuel generalizing xs ys r with
  | zero =>
    obtain ⟨rfl, rfl⟩ := hr.eq_nil
    obtain ⟨zs, streak, rfl, hperm⟩ := hg.exists_perm
    rw [hperm.eq_nil, Side.merged_nil_left]
    exact Merged.yields_ok [] streak
  | succ fuel ih =>
    cases hg with
    | rest hrest streak =>
      rw [← hr.rest?_eq hrest]
      exact Merged.yields_ok _ streak
    | merge streak won won' => exact (side.merge_takesOne streak won won' xs ys).yields h ih hr
    | search streak => exact (side.search_takesFirst streak xs ys).yields h ih hr

end Steps

/-! ## Two runs -/

section Runs

variable (h : Decides less le S)

include h

/-- From the front, if the second run starts below the whole first one. -/
theorem mergeFront_yields (streak : ℕ) {fuel : ℕ} {y : α} {xs ys : List α} (hx : Ordered le S xs)
    (hy : Ordered le S (y :: ys)) (hfirst : ∀ x ∈ xs, le x y = false)
    (hlast : ∀ x ∈ xs.getLast?, ∀ z ∈ ys, le x z = false)
    (enough : xs.length + ys.length ≤ fuel) :
    (Merged.after [y] (mergeFront less fuel streak 0 0 xs ys)).Yields (xs.merge (y :: ys) le) := by
  have hr : Side.front.Ready le S fuel xs ys := ⟨hx, hy.tail, hlast, enough⟩
  have hm : (mergeFront less fuel streak 0 0 xs ys).Yields (xs.merge ys le) :=
    GoesOn.yields h hr (.merge streak 0 0)
  rw [merge_cons_of_not_le hfirst]
  exact hm.after [y]

/-- From the back, if the first run ends above the whole second one. -/
theorem mergeBack_yields (streak : ℕ) {fuel : ℕ} {x : α} {xs ys : List α}
    (hx : Ordered le S (xs ++ [x])) (hy : Ordered le S ys) (hlast : ∀ y ∈ ys, le x y = false)
    (hfirst : ∀ y ∈ ys.head?, ∀ z ∈ xs, le z y = false) (enough : xs.length + ys.length ≤ fuel) :
    (Merged.after [x] (mergeBack less fuel streak 0 0 xs.reverse ys.reverse)).Yields
      ((xs ++ [x]).merge ys le).reverse := by
  have hr : Side.back.Ready le S fuel xs.reverse ys.reverse := by
    refine ⟨by simpa [Side.Sorted] using hx.left, by simpa [Side.Sorted] using hy, ?_,
      by simpa using enough⟩
    intro y hys z hz
    exact hfirst y (by simpa using hys) z (List.mem_reverse.mp hz)
  have hm : (mergeBack less fuel streak 0 0 xs.reverse ys.reverse).Yields
      (backMerge le xs.reverse ys.reverse) := GoesOn.yields h hr (.merge streak 0 0)
  have hback : ∀ b ∈ [x], ∀ y ∈ ys, le b y = false := by
    intro b hb y hys
    rw [List.mem_singleton.mp hb]
    exact hlast y hys
  rw [merge_append_back_of_not_le hback, List.reverse_append, List.reverse_singleton]
  rw [backMerge, List.reverse_reverse, List.reverse_reverse] at hm
  exact hm.after [x]

/-- Two runs of which the second one starts below the whole first one, which ends above the whole
second one. -/
theorem mergeInner_yields (streak : ℕ) {xs ys : List α} (hx : Ordered le S xs)
    (hy : Ordered le S ys) (hfirst : ∀ y ∈ ys.head?, ∀ x ∈ xs, le x y = false)
    (hlast : ∀ x ∈ xs.getLast?, ∀ y ∈ ys, le x y = false) :
    (mergeInner less streak xs ys).Yields (xs.merge ys le) := by
  unfold mergeInner
  dsimp only
  split
  · cases ys with
    | nil =>
      rw [List.merge_right]
      exact Merged.yields_ok xs streak
    | cons y ys =>
      exact mergeFront_yields h streak hx hy (hfirst y rfl)
        (fun x hxs z hz => hlast x hxs z (List.mem_cons_of_mem y hz)) (by simp)
  · cases hrev : xs.reverse with
    | nil =>
      rw [List.reverse_eq_nil_iff.mp hrev, List.nil_merge]
      exact Merged.yields_ok ys streak
    | cons x back =>
      obtain rfl : xs = back.reverse ++ [x] := by
        rw [← List.reverse_reverse xs, hrev, List.reverse_cons]
      have hn : back.reverse.length + ys.length ≤ (back.reverse ++ [x]).length + ys.length := by
        simp
      obtain ⟨streak', hm⟩ := mergeBack_yields h streak hx hy (hlast x (by simp))
        (fun y hys z hz => hfirst y hys z (List.mem_append_left [x] hz)) hn
      refine ⟨streak', ?_⟩
      rw [List.reverse_reverse] at hm
      simp only [hm, Except.map, List.reverse_reverse]

/-- What is not less than the last element of a run follows on it. -/
theorem merge_append_of_le_getLast {xs front rest : List α} {x : α} (hx : Ordered le S xs)
    (hlast : xs.getLast? = some x) (hrest : ∀ b ∈ rest, le x b) :
    xs.merge (front ++ rest) le = xs.merge front le ++ rest := by
  obtain ⟨before, rfl⟩ := List.getLast?_eq_some_iff.mp hlast
  have hle : ∀ a ∈ before ++ [x], le a x := by
    intro a ha
    rcases List.mem_append.mp ha with ha | ha
    · exact (List.pairwise_append.mp hx.sorted).2.2 a ha x (by simp)
    · rw [List.mem_singleton.mp ha]
      exact h.refl x
  exact merge_append_back_of_le fun a ha b hb => h.trans a x b (hle a ha) (hrest b hb)

/-- The merge of two sorted runs. -/
theorem mergeRuns_yields (streak : ℕ) {xs ys : List α} (hx : Ordered le S xs)
    (hy : Ordered le S ys) : (mergeRuns less streak xs ys).Yields (xs.merge ys le) := by
  cases ys with
  | nil =>
    rw [List.merge_right]
    exact Merged.yields_ok xs streak
  | cons y ys =>
    obtain ⟨kept, inner, rfl, hkept, hle, hinner⟩ := notGreater_spec h (hy.mem y (by simp)) hx 0
    have hkeep : ∀ a ∈ kept, ∀ z ∈ y :: ys, le a z := by
      intro a ha z hz
      rcases List.mem_cons.mp hz with rfl | hz
      · exact hle a ha
      · exact h.trans a y z (hle a ha) (List.rel_of_pairwise_cons hy.sorted hz)
    rw [merge_append_of_le hkeep]
    simp only [mergeRuns, hkept, List.drop_left, List.take_left]
    cases hlast : inner.getLast? with
    | none =>
      rw [List.getLast?_eq_none_iff.mp hlast, List.nil_merge, List.append_nil]
      exact Merged.yields_ok _ _
    | some x =>
      have hxi : x ∈ inner := List.mem_of_getLast? hlast
      obtain ⟨taken, rest, hys, hcount, htaken, hrest⟩ :=
        lessThan_spec h (hx.right.mem x hxi) hy ((y :: ys).length - 1)
      simp only [hcount]
      cases taken with
      | nil =>
        -- The first element of the second run lies below the last one of the first run.
        rw [List.nil_append] at hys
        have hy' := hrest y (by simp [← hys])
        simp [hinner x hxi] at hy'
      | cons t taken =>
        obtain rfl : t = y := (List.cons.inj hys).1.symm
        rw [hys] at hy ⊢
        have hfirst : ∀ b ∈ (t :: taken).head?, ∀ a ∈ inner, le a b = false := by
          intro b hb a ha
          obtain rfl : t = b := by simpa using hb
          exact hinner a ha
        have hlast' : ∀ a ∈ inner.getLast?, ∀ b ∈ t :: taken, le a b = false := by
          intro a ha b hb
          obtain rfl : x = a := by simpa [hlast] using ha
          exact htaken b hb
        obtain ⟨streak', hm⟩ := mergeInner_yields h streak hx.right hy.left hfirst hlast'
        refine ⟨streak', ?_⟩
        rw [merge_append_of_le_getLast h hx.right hlast hrest]
        simp only [List.length_cons, List.take_succ_cons, List.cons_append, List.take_left,
          List.drop_succ_cons, List.drop_left, hm, Except.map, List.append_assoc]

end Runs

end PagedQuery.Sorting
