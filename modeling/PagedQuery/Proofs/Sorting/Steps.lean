import Mathlib.Tactic
import PagedQuery.Sorting

/-!
# The steps of a merge

A merge takes elements from the front of both lists or, with both in reverse order, from the back.
The two sides differ in what is left when no comparison is needed any more and in the answer for
which an element of the first list is taken. What one step of a merge can do is stated once for
both, so that what merges preserve is shown without opening them again.
-/

namespace PagedQuery.Sorting

variable {α ε : Type}

theorem frontRest?_perm {xs ys zs : List α} (h : frontRest? xs ys = some zs) :
    zs.Perm (xs ++ ys) := by
  unfold frontRest? at h
  split at h
  · rw [← Option.some.inj h, List.append_nil]
  · exact .of_eq (Option.some.inj h).symm
  · rw [← Option.some.inj h]
    exact List.perm_append_comm
  · simp at h

theorem backRest?_perm {xs ys zs : List α} (h : backRest? xs ys = some zs) :
    zs.Perm (xs ++ ys) := by
  unfold backRest? at h
  split at h
  · exact .of_eq (Option.some.inj h).symm
  · rw [← Option.some.inj h, List.append_nil]
  · exact .of_eq (Option.some.inj h).symm
  · simp at h

/-- The end of both lists from which a merge takes elements. -/
inductive Side
  | front
  | back

namespace Side

/-- The merge of two lists between which no comparison is needed any more. -/
def rest? : Side → List α → List α → Option (List α)
  | front => frontRest?
  | back => backRest?

/-- The answer, to whether an element of the second list is less than one of the first, for which
the latter is taken. -/
def takesFirst : Side → Bool
  | front => false
  | back => true

/-- Takes elements one by one. -/
def merge (less : α → α → Except ε Bool) :
    Side → ℕ → ℕ → ℕ → ℕ → List α → List α → Merged ε α
  | front => mergeFront less
  | back => mergeBack less

/-- Takes elements many at a time. -/
def search (less : α → α → Except ε Bool) : Side → ℕ → ℕ → List α → List α → Merged ε α
  | front => searchFront less
  | back => searchBack less

/-- How many elements of the first list are taken before an element of the second one. -/
def countFirst (less : α → α → Except ε Bool) : Side → α → List α → Except ε ℕ
  | front => fun y xs => notGreater less y xs 0
  | back => fun y xs =>
    (notGreater less y xs.reverse (xs.length - 1)).map fun kept => xs.length - kept

/-- How many elements of the second list are taken before an element of the first one. -/
def countSecond (less : α → α → Except ε Bool) : Side → α → List α → Except ε ℕ
  | front => fun x ys => lessThan less x ys 0
  | back => fun x ys =>
    (lessThan less x ys.reverse (ys.length - 1)).map fun kept => ys.length - kept

theorem rest?_perm {side : Side} {xs ys zs : List α} (h : side.rest? xs ys = some zs) :
    zs.Perm (xs ++ ys) := by
  cases side with
  | front => exact frontRest?_perm h
  | back => exact backRest?_perm h

@[simp] theorem rest?_nil_left (side : Side) (ys : List α) : side.rest? [] ys = some ys := by
  cases side with
  | front => cases ys <;> rfl
  | back => rfl

@[simp] theorem rest?_nil_right (side : Side) (xs : List α) : side.rest? xs [] = some xs := by
  cases side with
  | front => rfl
  | back => cases xs <;> rfl

@[simp] theorem rest?_front_singleton (x : α) (ys : List α) :
    front.rest? [x] ys = some (ys ++ [x]) := by
  cases ys <;> rfl

@[simp] theorem rest?_back_singleton (xs : List α) (y : α) :
    back.rest? xs [y] = some (xs ++ [y]) := by
  cases xs <;> rfl

end Side

@[simp] theorem Merged.after_ok (taken xs : List α) (streak : ℕ) :
    Merged.after taken (.ok (xs, streak) : Merged ε α) = .ok (taken ++ xs, streak) := rfl

@[simp] theorem Merged.after_error (taken : List α) (e : ε) :
    Merged.after taken (.error e : Merged ε α) = .error e := rfl

theorem Merged.after_after (taken taken' : List α) (r : Merged ε α) :
    Merged.after taken (Merged.after taken' r) = Merged.after (taken ++ taken') r := by
  cases r with
  | error e => rfl
  | ok r => simp [Merged.after, Except.map]

section Steps

variable (side : Side) (less : α → α → Except ε Bool) (fuel : ℕ)

/-- How a merge goes on: with what is left over, one by one, or many at a time. -/
inductive GoesOn (xs ys : List α) : Merged ε α → Prop
  | rest {zs : List α} (h : side.rest? xs ys = some zs) (streak : ℕ) :
    GoesOn xs ys (.ok (zs, streak))
  | merge (streak won won' : ℕ) : GoesOn xs ys (side.merge less fuel streak won won' xs ys)
  | search (streak : ℕ) : GoesOn xs ys (side.search less fuel streak xs ys)

/-- What a merge does that takes elements one by one: it takes one of the two next elements. -/
inductive TakesOne : List α → List α → Merged ε α → Prop
  | rest {xs ys zs : List α} (h : side.rest? xs ys = some zs) (streak : ℕ) :
    TakesOne xs ys (.ok (zs, streak))
  | fails {x y : α} {e : ε} (xs ys : List α) (h : less y x = .error e) :
    TakesOne (x :: xs) (y :: ys) (.error e)
  | first {x y : α} {xs ys : List α} {r : Merged ε α} (h : less y x = .ok side.takesFirst)
    (hr : GoesOn side less fuel xs (y :: ys) r) : TakesOne (x :: xs) (y :: ys) (r.after [x])
  | second {x y : α} {xs ys : List α} {r : Merged ε α} (h : less y x = .ok (!side.takesFirst))
    (hr : GoesOn side less fuel (x :: xs) ys r) : TakesOne (x :: xs) (y :: ys) (r.after [y])

/-- What a search does in the second list: it takes a block and the element of the first list that
follows it. -/
inductive TakesSecond : List α → List α → Merged ε α → Prop
  | rest {xs ys zs : List α} (h : side.rest? xs ys = some zs) (streak : ℕ) :
    TakesSecond xs ys (.ok (zs, streak))
  | fails {x : α} {ys : List α} {e : ε} (xs : List α) (h : side.countSecond less x ys = .error e) :
    TakesSecond (x :: xs) ys (.error e)
  | block {x : α} {xs ys : List α} {count : ℕ} {r : Merged ε α}
    (h : side.countSecond less x ys = .ok count)
    (hr : GoesOn side less fuel xs (ys.drop count) r) :
    TakesSecond (x :: xs) ys (r.after (ys.take count ++ [x]))

/-- What a search does: it takes a block of the first list and the element of the second one that
follows it, and goes on in the second list. -/
inductive TakesFirst : List α → List α → Merged ε α → Prop
  | used (xs : List α) (streak : ℕ) : TakesFirst xs [] (.ok (xs, streak))
  | fails {y : α} {xs : List α} {e : ε} (ys : List α) (h : side.countFirst less y xs = .error e) :
    TakesFirst xs (y :: ys) (.error e)
  | block {y : α} {xs ys : List α} {count : ℕ} {r : Merged ε α}
    (h : side.countFirst less y xs = .ok count)
    (hr : TakesSecond side less fuel (xs.drop count) ys r) :
    TakesFirst xs (y :: ys) (r.after (xs.take count ++ [y]))

end Steps

variable (less : α → α → Except ε Bool) (fuel : ℕ)

theorem goesOn_ite {side : Side} {p : Prop} [Decidable p] {streak streak' won won' : ℕ}
    {xs ys : List α} :
    GoesOn side less fuel xs ys (if p then side.search less fuel streak xs ys
      else side.merge less fuel streak' won won' xs ys) := by
  split
  · exact .search streak
  · exact .merge streak' won won'

theorem mergeFront_takesOne (streak won won' : ℕ) (xs ys : List α) :
    TakesOne .front less fuel xs ys (mergeFront less (fuel + 1) streak won won' xs ys) := by
  cases hrest : frontRest? xs ys with
  | some zs =>
    simp only [mergeFront, hrest]
    refine .rest ?_ streak
    exact hrest
  | none =>
    obtain ⟨x, xs, y, ys, rfl, rfl⟩ := frontRest?_none hrest
    simp only [mergeFront, hrest]
    cases h : less y x with
    | error e => exact .fails xs ys h
    | ok lower =>
      cases lower with
      | true => exact .second h (goesOn_ite less fuel)
      | false => exact .first h (goesOn_ite less fuel)

theorem mergeBack_takesOne (streak won won' : ℕ) (xs ys : List α) :
    TakesOne .back less fuel xs ys (mergeBack less (fuel + 1) streak won won' xs ys) := by
  cases hrest : backRest? xs ys with
  | some zs =>
    simp only [mergeBack, hrest]
    refine .rest ?_ streak
    exact hrest
  | none =>
    obtain ⟨x, xs, y, ys, rfl, rfl⟩ := backRest?_none hrest
    simp only [mergeBack, hrest]
    cases h : less y x with
    | error e => exact .fails xs ys h
    | ok lower =>
      cases lower with
      | true => exact .first h (goesOn_ite less fuel)
      | false => exact .second h (goesOn_ite less fuel)

theorem searchFront_takesFirst (streak : ℕ) (xs ys : List α) :
    TakesFirst .front less fuel xs ys (searchFront less (fuel + 1) streak xs ys) := by
  cases ys with
  | nil =>
    simp only [searchFront]
    exact .used xs streak
  | cons y ys =>
    simp only [searchFront]
    cases h : notGreater less y xs 0 with
    | error e => exact .fails ys h
    | ok count =>
      have hblock : ∀ r, TakesSecond .front less fuel (xs.drop count) ys r →
          TakesFirst .front less fuel xs (y :: ys) (Merged.after (xs.take count ++ [y]) r) :=
        fun r hr => .block h hr
      dsimp only
      generalize (if 1 < streak then streak - 1 else streak) = streak
      generalize xs.take count = front at hblock ⊢
      generalize xs.drop count = rest at hblock ⊢
      rcases rest with _ | ⟨x, _ | ⟨x', rest⟩⟩
      · simpa using hblock _ (.rest (Side.rest?_nil_left _ ys) streak)
      · simpa using hblock _ (.rest (Side.rest?_front_singleton x ys) streak)
      · cases ys with
        | nil => simpa using hblock _ (.rest (Side.rest?_nil_right _ _) streak)
        | cons y' ys =>
          simp only []
          generalize y' :: ys = zs at hblock ⊢
          cases h' : lessThan less x zs 0 with
          | error e => simpa using hblock _ (.fails (x' :: rest) h')
          | ok count' =>
            have hblock' : ∀ r, GoesOn .front less fuel (x' :: rest) (zs.drop count') r →
                TakesFirst .front less fuel xs (y :: zs)
                  (Merged.after (front ++ y :: zs.take count' ++ [x]) r) := by
              intro r hr
              have := hblock _ (.block h' hr)
              simpa [Merged.after_after] using this
            dsimp only
            split
            · next hused =>
              rw [hused] at hblock'
              simpa using hblock' _ (.rest (Side.rest?_nil_right _ _) streak)
            · exact hblock' _ (goesOn_ite less fuel)

theorem searchBack_takesFirst (streak : ℕ) (xs ys : List α) :
    TakesFirst .back less fuel xs ys (searchBack less (fuel + 1) streak xs ys) := by
  cases ys with
  | nil =>
    simp only [searchBack]
    exact .used xs streak
  | cons y ys =>
    have hcount : Side.back.countFirst less y xs =
        (notGreater less y xs.reverse (xs.length - 1)).map fun kept => xs.length - kept := rfl
    simp only [searchBack]
    cases h : notGreater less y xs.reverse (xs.length - 1) with
    | error e =>
      rw [h] at hcount
      exact .fails ys hcount
    | ok kept =>
      rw [h] at hcount
      have hblock : ∀ r, TakesSecond .back less fuel (xs.drop (xs.length - kept)) ys r →
          TakesFirst .back less fuel xs (y :: ys)
            (Merged.after (xs.take (xs.length - kept) ++ [y]) r) := fun r hr => .block hcount hr
      dsimp only
      generalize (if 1 < streak then streak - 1 else streak) = streak
      generalize xs.length - kept = count at hblock ⊢
      generalize xs.take count = back at hblock ⊢
      generalize xs.drop count = rest at hblock ⊢
      rcases rest with _ | ⟨x, rest⟩
      · simpa using hblock _ (.rest (Side.rest?_nil_left _ ys) streak)
      rcases ys with _ | ⟨y', _ | ⟨y'', ys⟩⟩
      · simpa using hblock _ (.rest (Side.rest?_nil_right _ _) streak)
      · simpa using hblock _ (.rest (Side.rest?_back_singleton _ y') streak)
      · simp only []
        generalize y' :: y'' :: ys = zs at hblock ⊢
        have hcount' : Side.back.countSecond less x zs =
            (lessThan less x zs.reverse (zs.length - 1)).map fun kept => zs.length - kept := rfl
        cases h' : lessThan less x zs.reverse (zs.length - 1) with
        | error e =>
          rw [h'] at hcount'
          simpa using hblock _ (.fails rest hcount')
        | ok kept' =>
          rw [h'] at hcount'
          have hblock' : ∀ r, GoesOn .back less fuel rest (zs.drop (zs.length - kept')) r →
              TakesFirst .back less fuel xs (y :: zs)
                (Merged.after (back ++ y :: zs.take (zs.length - kept') ++ [x]) r) := by
            intro r hr
            have hr' := hblock _ (.block hcount' hr)
            simpa [Merged.after_after] using hr'
          dsimp only
          split
          · next hused =>
            rw [hused] at hblock'
            simpa using hblock' _ (.rest (Side.rest?_nil_right _ _) streak)
          · next z hused =>
            rw [hused] at hblock'
            simpa using hblock' _ (.rest (Side.rest?_back_singleton _ z) streak)
          · exact hblock' _ (goesOn_ite less fuel)

variable {less fuel}

theorem Side.merge_takesOne (side : Side) (streak won won' : ℕ) (xs ys : List α) :
    TakesOne side less fuel xs ys (side.merge less (fuel + 1) streak won won' xs ys) := by
  cases side with
  | front => exact mergeFront_takesOne less fuel streak won won' xs ys
  | back => exact mergeBack_takesOne less fuel streak won won' xs ys

theorem Side.search_takesFirst (side : Side) (streak : ℕ) (xs ys : List α) :
    TakesFirst side less fuel xs ys (side.search less (fuel + 1) streak xs ys) := by
  cases side with
  | front => exact searchFront_takesFirst less fuel streak xs ys
  | back => exact searchBack_takesFirst less fuel streak xs ys

/-- Without steps to make, both lists are put together as they stand. -/
theorem GoesOn.exists_perm {side : Side} {xs ys : List α} {r : Merged ε α}
    (h : GoesOn side less 0 xs ys r) : ∃ zs streak, r = .ok (zs, streak) ∧ zs.Perm (xs ++ ys) := by
  cases h with
  | rest h streak => exact ⟨_, streak, rfl, Side.rest?_perm h⟩
  | merge streak won won' =>
    cases side with
    | front => exact ⟨xs ++ ys, streak, rfl, .refl _⟩
    | back => exact ⟨ys ++ xs, streak, rfl, List.perm_append_comm⟩
  | search streak =>
    cases side with
    | front => exact ⟨xs ++ ys, streak, rfl, .refl _⟩
    | back => exact ⟨ys ++ xs, streak, rfl, List.perm_append_comm⟩

end PagedQuery.Sorting
