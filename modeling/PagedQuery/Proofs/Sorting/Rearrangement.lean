import PagedQuery.Proofs.Sorting.Search
import PagedQuery.Proofs.Sorting.Steps

/-!
# Sorting rearranges

Whatever a comparison answers, runs and merges hold the elements of the lists that they come from,
none lost and none repeated. Only these elements are compared, and if a comparison fails, its
failure is all that comes out: searching, merging and cutting off runs bring in neither elements nor
failures of their own.
-/

namespace PagedQuery.Sorting

variable {α ε : Type} {mayFail : ε → Prop}

/-- A merge that yields the elements of a list, or fails in a way that is allowed. -/
def Merged.Rearranges (mayFail : ε → Prop) (r : Merged ε α) (zs : List α) : Prop :=
  Delivers mayFail (fun v => v.1.Perm zs) r

namespace Merged.Rearranges

variable {r : Merged ε α} {zs us : List α}

theorem after (taken : List α) (h : r.Rearranges mayFail zs) (hp : (taken ++ zs).Perm us) :
    (r.after taken).Rearranges mayFail us :=
  Delivers.map (h.mono fun _ hv => (hv.append_left taken).trans hp)

theorem map (f : List α → List α) (h : r.Rearranges mayFail zs)
    (hf : ∀ vs, vs.Perm zs → (f vs).Perm us) :
    Merged.Rearranges mayFail (Except.map (fun (vs, streak) => (f vs, streak)) r) us :=
  Delivers.map (h.mono fun v hv => hf v.1 hv)

end Merged.Rearranges

/-- A block and an element of another list, taken before what is left of both. -/
theorem take_append_perm (count : ℕ) (y : α) (xs ys : List α) :
    (xs.take count ++ [y] ++ (xs.drop count ++ ys)).Perm (xs ++ y :: ys) := by
  have hxs : xs.take count ++ (xs.drop count ++ ys) = xs ++ ys := by
    rw [← List.append_assoc, List.take_append_drop]
  rw [List.append_assoc, List.singleton_append]
  calc
    List.Perm (xs.take count ++ y :: (xs.drop count ++ ys))
      (y :: (xs.take count ++ (xs.drop count ++ ys))) := List.perm_middle
    List.Perm _ (y :: (xs ++ ys)) := .of_eq (congrArg (List.cons y) hxs)
    List.Perm _ (xs ++ y :: ys) := List.perm_middle.symm

section Comparisons

variable {less : α → α → Except ε Bool} {S : α → Prop}
variable (hless : ∀ x y, S x → S y → FailsOnly mayFail (less x y))
include hless

/-! ## Merging -/

theorem Side.countFirst_failsOnly (side : Side) {y : α} {xs : List α} (hy : S y)
    (hxs : ∀ x ∈ xs, S x) : FailsOnly mayFail (side.countFirst less y xs) := by
  cases side with
  | front => exact notGreater_failsOnly hless hy hxs 0
  | back => exact (notGreater_failsOnly hless hy (by simpa using hxs) _).map

theorem Side.countSecond_failsOnly (side : Side) {x : α} {ys : List α} (hx : S x)
    (hys : ∀ y ∈ ys, S y) : FailsOnly mayFail (side.countSecond less x ys) := by
  cases side with
  | front => exact lessThan_failsOnly hless hx hys 0
  | back => exact (lessThan_failsOnly hless hx (by simpa using hys) _).map

variable {side : Side} {fuel : ℕ}

section Step

variable (ih : ∀ {xs ys : List α} {r : Merged ε α}, (∀ x ∈ xs, S x) → (∀ y ∈ ys, S y) →
  GoesOn side less fuel xs ys r → r.Rearranges mayFail (xs ++ ys))
include ih

theorem TakesOne.rearranges {xs ys : List α} {r : Merged ε α} (hxs : ∀ x ∈ xs, S x)
    (hys : ∀ y ∈ ys, S y) (h : TakesOne side less fuel xs ys r) :
    r.Rearranges mayFail (xs ++ ys) := by
  cases h with
  | rest h streak => exact Side.rest?_perm h
  | @fails x y e xs ys h =>
    have hfails := hless y x (hys y (by simp)) (hxs x (by simp))
    rwa [h] at hfails
  | @first x y xs ys r h hr =>
    exact (ih (List.forall_mem_of_forall_mem_cons hxs) hys hr).after [x] (.refl _)
  | @second x y xs ys r h hr =>
    exact (ih hxs (List.forall_mem_of_forall_mem_cons hys) hr).after [y]
      (take_append_perm 0 y (x :: xs) ys)

theorem TakesSecond.rearranges {xs ys : List α} {r : Merged ε α} (hxs : ∀ x ∈ xs, S x)
    (hys : ∀ y ∈ ys, S y) (h : TakesSecond side less fuel xs ys r) :
    r.Rearranges mayFail (xs ++ ys) := by
  cases h with
  | rest h streak => exact Side.rest?_perm h
  | @fails x ys e xs h =>
    have hfails := side.countSecond_failsOnly hless (hxs x (by simp)) hys
    rwa [h] at hfails
  | @block x xs ys count r h hr =>
    have hrest : ∀ y ∈ ys.drop count, S y := fun y hy => hys y (List.mem_of_mem_drop hy)
    have hperm : (ys.take count ++ [x] ++ (xs ++ ys.drop count)).Perm (x :: xs ++ ys) :=
      calc
        List.Perm _ (ys.take count ++ [x] ++ (ys.drop count ++ xs)) :=
          List.perm_append_comm.append_left _
        List.Perm _ (ys ++ x :: xs) := take_append_perm count x ys xs
        List.Perm _ (x :: xs ++ ys) := List.perm_append_comm
    exact (ih (List.forall_mem_of_forall_mem_cons hxs) hrest hr).after _ hperm

theorem TakesFirst.rearranges {xs ys : List α} {r : Merged ε α} (hxs : ∀ x ∈ xs, S x)
    (hys : ∀ y ∈ ys, S y) (h : TakesFirst side less fuel xs ys r) :
    r.Rearranges mayFail (xs ++ ys) := by
  cases h with
  | used xs streak => exact .of_eq (List.append_nil xs).symm
  | @fails y xs e ys h =>
    have hfails := side.countFirst_failsOnly hless (hys y (by simp)) hxs
    rwa [h] at hfails
  | @block y xs ys count r h hr =>
    have hrest : ∀ x ∈ xs.drop count, S x := fun x hx => hxs x (List.mem_of_mem_drop hx)
    exact (hr.rearranges hless ih hrest (List.forall_mem_of_forall_mem_cons hys)).after _
      (take_append_perm count y xs ys)

end Step

/-- However a merge goes on. -/
theorem GoesOn.rearranges {xs ys : List α} {r : Merged ε α} (hxs : ∀ x ∈ xs, S x)
    (hys : ∀ y ∈ ys, S y) (h : GoesOn side less fuel xs ys r) :
    r.Rearranges mayFail (xs ++ ys) := by
  induction fuel generalizing xs ys r with
  | zero =>
    obtain ⟨zs, streak, rfl, hperm⟩ := h.exists_perm
    exact hperm
  | succ fuel ih =>
    cases h with
    | rest h streak => exact Side.rest?_perm h
    | merge streak won won' =>
      exact (side.merge_takesOne streak won won' xs ys).rearranges hless ih hxs hys
    | search streak => exact (side.search_takesFirst streak xs ys).rearranges hless ih hxs hys

theorem mergeInner_rearranges (streak : ℕ) {xs ys : List α} (hxs : ∀ x ∈ xs, S x)
    (hys : ∀ y ∈ ys, S y) : (mergeInner less streak xs ys).Rearranges mayFail (xs ++ ys) := by
  unfold mergeInner
  dsimp only
  split
  · cases ys with
    | nil => exact .of_eq (List.append_nil xs).symm
    | cons y ys =>
      have hm : GoesOn .front less (xs.length + (y :: ys).length) xs ys _ := .merge streak 0 0
      exact (hm.rearranges hless hxs (List.forall_mem_of_forall_mem_cons hys)).after [y]
        (take_append_perm 0 y xs ys)
  · cases hrev : xs.reverse with
    | nil =>
      rw [List.reverse_eq_nil_iff.mp hrev]
      exact .refl ys
    | cons x back =>
      have hback : ∀ z ∈ back, S z := fun z hz =>
        hxs z (List.mem_reverse.mp (hrev ▸ List.mem_cons_of_mem x hz))
      have hperm : (x :: back ++ ys.reverse).Perm (xs ++ ys) := by
        rw [← hrev]
        exact xs.reverse_perm.append ys.reverse_perm
      have hm : GoesOn .back less (xs.length + ys.length) back ys.reverse _ := .merge streak 0 0
      exact ((hm.rearranges hless hback (by simpa using hys)).after [x] hperm).map List.reverse
        fun vs hvs => vs.reverse_perm.trans hvs

theorem mergeRuns_rearranges (streak : ℕ) {xs ys : List α} (hxs : ∀ x ∈ xs, S x)
    (hys : ∀ y ∈ ys, S y) : (mergeRuns less streak xs ys).Rearranges mayFail (xs ++ ys) := by
  cases ys with
  | nil => exact .of_eq (List.append_nil xs).symm
  | cons y ys =>
    rw [mergeRuns]
    rcases (notGreater_failsOnly hless (hys y (by simp)) hxs 0).error_or_ok with
      ⟨e, hkept, he⟩ | ⟨kept, hkept, -⟩
    · rw [hkept]
      exact he
    rw [hkept]
    dsimp only
    have hinner : ∀ x ∈ xs.drop kept, S x := fun x hx => hxs x (List.mem_of_mem_drop hx)
    cases hlast : (xs.drop kept).getLast? with
    | none => exact .refl _
    | some x =>
      have hx : S x := hinner x (List.mem_of_getLast? hlast)
      dsimp only
      rcases (lessThan_failsOnly hless hx hys ((y :: ys).length - 1)).error_or_ok with
        ⟨e, hcount, he⟩ | ⟨count, hcount, -⟩
      · rw [hcount]
        exact he
      rw [hcount]
      cases count with
      | zero => exact .refl _
      | succ count =>
        refine (mergeInner_rearranges hless streak hinner fun z hz => hys z
          (List.mem_of_mem_take hz)).map
          (fun zs => xs.take kept ++ zs ++ (y :: ys).drop (count + 1)) fun vs hvs => ?_
        have hsplit : xs.take kept ++ (xs.drop kept ++ (y :: ys).take (count + 1)) ++
            (y :: ys).drop (count + 1) = xs ++ y :: ys := by
          rw [← List.append_assoc, List.take_append_drop, List.append_assoc,
            List.take_append_drop]
        exact ((hvs.append_left (xs.take kept)).append_right _).trans (.of_eq hsplit)

/-! ## Runs -/

theorem ascending_append {last : α} {xs : List α} (hlast : S last) (hxs : ∀ x ∈ xs, S x) :
    Delivers mayFail (fun r => xs = r.1 ++ r.2) (ascending less last xs) := by
  induction xs generalizing last with
  | nil => rfl
  | cons x xs ih =>
    obtain ⟨hx, hxs⟩ := List.forall_mem_cons.mp hxs
    rw [ascending]
    refine (hless x last hx hlast).bind fun lower _ => ?_
    split
    · rfl
    · exact (ih hx hxs).bind fun r hr => congrArg (List.cons x) hr

theorem descending_append {last : α} {xs : List α} (hlast : S last) (hxs : ∀ x ∈ xs, S x) :
    Delivers mayFail (fun r => xs = r.1 ++ r.2) (descending less last xs) := by
  induction xs generalizing last with
  | nil => rfl
  | cons x xs ih =>
    obtain ⟨hx, hxs⟩ := List.forall_mem_cons.mp hxs
    rw [descending]
    refine (hless x last hx hlast).bind fun lower _ => ?_
    split
    · exact (ih hx hxs).bind fun r hr => congrArg (List.cons x) hr
    · rfl

/-- The first run takes something from every list that holds anything. -/
theorem firstRun_rearranges {xs : List α} (hxs : ∀ x ∈ xs, S x) :
    Delivers mayFail (fun r => (r.1 ++ r.2).Perm xs ∧ (xs ≠ [] → r.1 ≠ [])) (firstRun less xs) := by
  match xs with
  | [] => exact ⟨.refl _, id⟩
  | [x] => exact ⟨.refl _, fun _ => by simp⟩
  | x :: y :: rest =>
    obtain ⟨hx, hxs⟩ := List.forall_mem_cons.mp hxs
    obtain ⟨hy, hrest⟩ := List.forall_mem_cons.mp hxs
    rw [firstRun]
    refine (hless y x hy hx).bind fun lower _ => ?_
    split
    · refine (descending_append hless hy hrest).bind fun r hr => ?_
      rw [hr]
      exact ⟨(List.reverse_perm _).append_right _, fun _ => by simp⟩
    · refine (ascending_append hless hy hrest).bind fun r hr => ?_
      rw [hr]
      exact ⟨.refl _, fun _ => by simp⟩

theorem insert_rearranges {x : α} {xs : List α} (hx : S x) (hxs : ∀ y ∈ xs, S y) :
    Delivers mayFail (fun ys => ys.Perm (x :: xs)) (insert less x xs) := by
  have hprobe : ∀ i, FailsOnly mayFail (probe (fun y => (less x y).map not) xs i) :=
    probe_failsOnly fun y hy => (hless x y hx (hxs y hy)).map
  unfold insert
  rcases (bisect_failsOnly hprobe 0 xs.length).error_or_ok with ⟨e, hi, he⟩ | ⟨i, hi, -⟩
  · rw [hi]
    exact he
  · rw [hi]
    have hperm : (xs.take i ++ x :: xs.drop i).Perm (x :: (xs.take i ++ xs.drop i)) :=
      List.perm_middle
    rwa [List.take_append_drop] at hperm

theorem insertAll_rearranges {sorted xs : List α} (hsorted : ∀ x ∈ sorted, S x)
    (hxs : ∀ x ∈ xs, S x) :
    Delivers mayFail (fun ys => ys.Perm (sorted ++ xs)) (insertAll less sorted xs) := by
  induction xs generalizing sorted with
  | nil => exact .of_eq (List.append_nil sorted).symm
  | cons x xs ih =>
    obtain ⟨hx, hxs⟩ := List.forall_mem_cons.mp hxs
    rw [insertAll]
    rcases (insert_rearranges hless hx hsorted).error_or_ok with ⟨e, hi, he⟩ | ⟨mid, hi, hmid⟩
    · rw [hi]
      exact he
    · rw [hi]
      have hS : ∀ z ∈ mid, S z := fun z hz =>
        List.forall_mem_cons.mpr ⟨hx, hsorted⟩ z (hmid.mem_iff.mp hz)
      exact (ih hS hxs).mono fun ys hys =>
        hys.trans ((hmid.append_right xs).trans List.perm_middle.symm)

theorem nextRun_rearranges {xs : List α} (hxs : ∀ x ∈ xs, S x) (least : ℕ) :
    Delivers mayFail (fun r => (r.1 ++ r.2).Perm xs ∧ (xs ≠ [] → r.2.length < xs.length))
      (nextRun less least xs) := by
  unfold nextRun
  rcases (firstRun_rearranges hless hxs).error_or_ok with ⟨e, hf, he⟩ | ⟨⟨first, rest⟩, hf, hp, hne⟩
  · rw [hf]
    exact he
  rw [hf]
  dsimp only at hp hne ⊢
  have hmem : ∀ z ∈ first ++ rest, S z := fun z hz => hxs z (hp.mem_iff.mp hz)
  have hfirst : ∀ z ∈ first, S z := fun z hz => hmem z (List.mem_append_left rest hz)
  have hmore : ∀ z ∈ rest.take (least - first.length), S z := fun z hz =>
    hmem z (List.mem_append_right first (List.mem_of_mem_take hz))
  rcases (insertAll_rearranges hless hfirst hmore).error_or_ok with ⟨e, hi, he⟩ | ⟨run, hi, hrun⟩
  · rw [hi]
    exact he
  rw [hi]
  have hperm : (run ++ rest.drop (least - first.length)).Perm xs := by
    have hp' := hrun.append_right (rest.drop (least - first.length))
    rw [List.append_assoc, List.take_append_drop] at hp'
    exact hp'.trans hp
  refine ⟨hperm, fun hx => ?_⟩
  have hpos := List.length_pos_iff.mpr (hne hx)
  have hlen := hp.length_eq
  simp only [List.length_append, List.length_drop] at hlen ⊢
  omega

end Comparisons

/-- Cutting off runs comes to an end. -/
theorem nextRun_length_lt {less : α → α → Except ε Bool} {least : ℕ} {x : α} {xs : List α}
    {r : List α × List α} (h : nextRun less least (x :: xs) = .ok r) :
    r.2.length < (x :: xs).length := by
  have hrun := nextRun_rearranges (S := fun _ => True) (fun x y _ _ => .any (less x y))
    (fun z (_ : z ∈ x :: xs) => trivial) least
  rw [h] at hrun
  exact hrun.2 (by simp)

end PagedQuery.Sorting
