import PagedQuery.Proofs.Sorting.Stable

/-!
# Boundaries found by searching

A test that is true exactly below a position leads halving, growing steps and the search from a
hint to that position. In a sorted list the elements not greater than a key, and those less than
it, are cut off at the front. Whatever a test answers, a search fails only where one of its probes
does.
-/

namespace PagedQuery.Sorting

variable {α β γ ε : Type}

theorem bisect_eq {below : ℕ → Except ε Bool} {low high k : ℕ}
    (hb : ∀ i, below i = .ok (decide (i < k))) (hl : low ≤ k) (hh : k ≤ high) :
    bisect below low high = .ok k := by
  induction hn : high - low using Nat.strong_induction_on generalizing low high with
  | h n ih =>
    rw [bisect]
    split
    · next hlt =>
      by_cases hmid : low + (high - low) / 2 < k
      · simp only [hb, hmid, decide_true]
        exact ih (high - (low + (high - low) / 2 + 1)) (by omega) (by omega) hh rfl
      · simp only [hb, hmid, decide_false]
        exact ih (low + (high - low) / 2 - low) (by omega) hl (by omega) rfl
    · exact congrArg Except.ok (by omega)

/-- Growing steps end with the boundary between the last two of them. -/
theorem stride_spec {test : ℕ → Except ε Bool} {limit k : ℕ} (last next : ℕ)
    (ht : ∀ i < limit, test i = .ok (decide (i < k))) (hl : last < k) (hk : k ≤ limit) :
    ∃ last' next', stride test limit last next = .ok (last', next') ∧
      last' < k ∧ k ≤ next' ∧ next' ≤ limit := by
  induction hn : limit - next using Nat.strong_induction_on generalizing last next with
  | h n ih =>
    rw [stride]
    split
    · next hlt =>
      by_cases hnext : next < k
      · simp only [ht next hlt, hnext, decide_true]
        exact ih (limit - (2 * next + 1)) (by omega) next (2 * next + 1) hnext rfl
      · simp only [ht next hlt, hnext, decide_false]
        exact ⟨last, next, rfl, hl, by omega, by omega⟩
    · exact ⟨last, limit, rfl, hl, hk, le_rfl⟩

theorem boundary_eq {below : ℕ → Except ε Bool} {n hint k : ℕ}
    (hb : ∀ i, below i = .ok (decide (i < k))) (hk : k ≤ n) :
    boundary below n hint = .ok k := by
  rw [boundary]
  by_cases hint_lt : hint < k
  · -- The boundary lies after the hint: steps go forward from it.
    have ht : ∀ i < n - hint, below (hint + i) = .ok (decide (i < k - hint)) := by
      intro i _
      rw [hb]
      congr 2
      simp only [eq_iff_iff]
      omega
    obtain ⟨last, next, hs, hlast, hnext, _⟩ :=
      stride_spec 0 1 ht (by omega) (by omega)
    simp only [hb hint, hint_lt, decide_true, hs]
    exact bisect_eq hb (by omega) (by omega)
  · -- It lies at the hint or before it: steps go backward.
    have ht : ∀ i < hint + 1,
        (below (hint - i)).map not = .ok (decide (i < hint + 1 - k)) := by
      intro i _
      rw [hb]
      simp only [Except.map, Except.ok.injEq, ← decide_not]
      congr 1
      simp only [eq_iff_iff]
      omega
    obtain ⟨last, next, hs, hlast, hnext, _⟩ :=
      stride_spec 0 1 ht (by omega) (by omega)
    simp only [hb hint, hint_lt, decide_false, hs]
    exact bisect_eq hb (by omega) (by omega)

/-- A test that holds of the front of a list and fails on the rest changes at the border. -/
theorem probe_append {test : α → Except ε Bool} {front rest : List α}
    (hf : ∀ a ∈ front, test a = .ok true) (hr : ∀ b ∈ rest, test b = .ok false) (i : ℕ) :
    probe test (front ++ rest) i = .ok (decide (i < front.length)) := by
  unfold probe
  by_cases hi : i < front.length
  · rw [List.getElem?_append_left hi, List.getElem?_eq_getElem hi]
    simp [hf _ (List.getElem_mem hi), hi]
  · rw [List.getElem?_append_right (by omega)]
    cases he : rest[i - front.length]? with
    | none => simp [hi]
    | some b => simp [hr b (List.mem_of_getElem? he), hi]

/-- A list cut where a test first fails. -/
theorem exists_cut (p : α → Bool) {R : α → α → Prop} {xs : List α} (hx : xs.Pairwise R)
    (hp : ∀ a b, R a b → p b → p a) :
    ∃ front rest, xs = front ++ rest ∧ (∀ a ∈ front, p a) ∧ ∀ b ∈ rest, p b = false := by
  refine ⟨xs.takeWhile p, xs.dropWhile p, (List.takeWhile_append_dropWhile ..).symm,
    List.all_eq_true.mp List.all_takeWhile, ?_⟩
  have hrest : (xs.dropWhile p).Pairwise R := hx.sublist (List.dropWhile_sublist p)
  cases hd : xs.dropWhile p with
  | nil => simp
  | cons c rest =>
    rw [hd] at hrest
    have hc : p c = false := by
      have := List.head?_dropWhile_not p xs
      rwa [hd] at this
    intro b hb
    rcases List.mem_cons.mp hb with rfl | hb
    · exact hc
    · by_contra hpb
      have := hp c b (List.rel_of_pairwise_cons hrest hb) (by simpa using hpb)
      simp [hc] at this

section Cuts

variable {less : α → α → Except ε Bool} {le : α → α → Bool} {S : α → Prop}

/-- The elements that are not greater than a later element stand at the front. -/
theorem notGreater_spec (h : Decides less le S) {key : α} (hkey : S key) {xs : List α}
    (hx : Ordered le S xs) (hint : ℕ) :
    ∃ front rest, xs = front ++ rest ∧ notGreater less key xs hint = .ok front.length ∧
      (∀ a ∈ front, le a key) ∧ ∀ b ∈ rest, le b key = false := by
  obtain ⟨front, rest, rfl, hf, hr⟩ :=
    exists_cut (fun a => le a key) hx.sorted fun a b hab hb => h.trans a b key hab hb
  refine ⟨front, rest, rfl, ?_, hf, hr⟩
  refine boundary_eq (probe_append ?_ ?_) (by simp)
  · intro a ha
    simp [h.less_eq hkey (hx.mem a (by simp [ha])), Except.map, hf a ha]
  · intro b hb
    simp [h.less_eq hkey (hx.mem b (by simp [hb])), Except.map, hr b hb]

/-- The elements that are less than an earlier element stand at the front. -/
theorem lessThan_spec (h : Decides less le S) {key : α} (hkey : S key) {xs : List α}
    (hx : Ordered le S xs) (hint : ℕ) :
    ∃ front rest, xs = front ++ rest ∧ lessThan less key xs hint = .ok front.length ∧
      (∀ a ∈ front, le key a = false) ∧ ∀ b ∈ rest, le key b := by
  obtain ⟨front, rest, rfl, hf, hr⟩ :=
    exists_cut (fun a => !le key a) hx.sorted fun a b hab hb => by
      simp only [Bool.not_eq_true'] at hb ⊢
      exact h.not_le_of_le_of_not_le hab hb
  simp only [Bool.not_eq_true', Bool.not_eq_false'] at hf hr
  refine ⟨front, rest, rfl, ?_, hf, hr⟩
  refine boundary_eq (probe_append ?_ ?_) (by simp)
  · intro a ha
    simp [h.less_eq (hx.mem a (by simp [ha])) hkey, hf a ha]
  · intro b hb
    simp [h.less_eq (hx.mem b (by simp [hb])) hkey, hr b hb]

end Cuts

/-! ## Failures -/

/-- A result with a property, or a failure that is allowed. -/
def Delivers (mayFail : ε → Prop) (P : β → Prop) : Except ε β → Prop
  | .ok v => P v
  | .error e => mayFail e

/-- A result that fails in the given ways only. -/
def FailsOnly (mayFail : ε → Prop) (r : Except ε β) : Prop := Delivers mayFail (fun _ => True) r

variable {mayFail : ε → Prop}

namespace Delivers

variable {P : β → Prop} {r : Except ε β}

theorem error_or_ok (h : Delivers mayFail P r) :
    (∃ e, r = .error e ∧ mayFail e) ∨ ∃ v, r = .ok v ∧ P v := by
  cases r with
  | error e => exact .inl ⟨e, rfl, h⟩
  | ok v => exact .inr ⟨v, rfl, h⟩

theorem mono {Q : β → Prop} (h : Delivers mayFail P r) (hPQ : ∀ v, P v → Q v) :
    Delivers mayFail Q r := by
  cases r with
  | error e => exact h
  | ok v => exact hPQ v h

theorem map {Q : γ → Prop} {f : β → γ} (h : Delivers mayFail (fun v => Q (f v)) r) :
    Delivers mayFail Q (r.map f) := by
  cases r with
  | error e => exact h
  | ok v => exact h

theorem bind {Q : γ → Prop} {f : β → Except ε γ} (h : Delivers mayFail P r)
    (hf : ∀ v, P v → Delivers mayFail Q (f v)) : Delivers mayFail Q (r >>= f) := by
  cases r with
  | error e => exact h
  | ok v => exact hf v h

end Delivers

namespace FailsOnly

theorem ok (v : β) : FailsOnly mayFail (.ok v : Except ε β) := trivial

theorem error {e : ε} (h : mayFail e) : FailsOnly mayFail (.error e : Except ε β) := h

theorem map {r : Except ε β} {f : β → γ} (h : FailsOnly mayFail r) : FailsOnly mayFail (r.map f) :=
  Delivers.map h

theorem any (r : Except ε β) : FailsOnly (fun _ => True) r := by
  cases r with
  | error e => exact error trivial
  | ok v => exact ok v

end FailsOnly

theorem probe_failsOnly {test : α → Except ε Bool} {xs : List α}
    (h : ∀ x ∈ xs, FailsOnly mayFail (test x)) (i : ℕ) : FailsOnly mayFail (probe test xs i) := by
  unfold probe
  split
  · next x hx => exact h x (List.mem_of_getElem? hx)
  · exact .ok false

theorem bisect_failsOnly {below : ℕ → Except ε Bool} (h : ∀ i, FailsOnly mayFail (below i))
    (low high : ℕ) : FailsOnly mayFail (bisect below low high) := by
  fun_induction bisect below low high with
  | case1 low high _ middle e he =>
    have hmiddle := h middle
    rwa [he] at hmiddle
  | case2 low high _ middle _ ih => exact ih
  | case3 low high _ middle _ ih => exact ih
  | case4 low high _ => exact .ok low

theorem stride_failsOnly {test : ℕ → Except ε Bool} (h : ∀ i, FailsOnly mayFail (test i))
    (limit last next : ℕ) : FailsOnly mayFail (stride test limit last next) := by
  fun_induction stride test limit last next with
  | case1 last next _ e he =>
    have hnext := h next
    rwa [he] at hnext
  | case2 last next _ _ ih => exact ih
  | case3 last next _ _ => exact .ok (last, next)
  | case4 last next _ => exact .ok (last, limit)

theorem boundary_failsOnly {below : ℕ → Except ε Bool} (h : ∀ i, FailsOnly mayFail (below i))
    (n hint : ℕ) : FailsOnly mayFail (boundary below n hint) := by
  unfold boundary
  rcases (h hint).error_or_ok with ⟨e, hbelow, he⟩ | ⟨forward, hbelow, -⟩
  · rw [hbelow]
    exact .error he
  · rw [hbelow]
    cases forward with
    | true =>
      have hstride := stride_failsOnly (fun i => h (hint + i)) (n - hint) 0 1
      dsimp only
      rcases hstride.error_or_ok with ⟨e, hs, he⟩ | ⟨steps, hs, -⟩
      · rw [hs]
        exact .error he
      · rw [hs]
        exact bisect_failsOnly h _ _
    | false =>
      have hstride := stride_failsOnly (fun i => (h (hint - i)).map (f := not)) (hint + 1) 0 1
      dsimp only
      rcases hstride.error_or_ok with ⟨e, hs, he⟩ | ⟨steps, hs, -⟩
      · rw [hs]
        exact .error he
      · rw [hs]
        exact bisect_failsOnly h _ _

section Comparisons

variable {less : α → α → Except ε Bool} {S : α → Prop}
variable (hless : ∀ x y, S x → S y → FailsOnly mayFail (less x y))
include hless

theorem notGreater_failsOnly {key : α} {xs : List α} (hkey : S key) (hxs : ∀ x ∈ xs, S x)
    (hint : ℕ) : FailsOnly mayFail (notGreater less key xs hint) :=
  boundary_failsOnly (probe_failsOnly fun x hx => (hless key x hkey (hxs x hx)).map) _ _

theorem lessThan_failsOnly {key : α} {xs : List α} (hkey : S key) (hxs : ∀ x ∈ xs, S x)
    (hint : ℕ) : FailsOnly mayFail (lessThan less key xs hint) :=
  boundary_failsOnly (probe_failsOnly fun x hx => hless x key (hxs x hx) hkey) _ _

end Comparisons

end PagedQuery.Sorting
