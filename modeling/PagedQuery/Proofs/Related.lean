import Mathlib.Data.List.Forall2
import Mathlib.Tactic
import PagedQuery.Proofs.Entries
import PagedQuery.Schema.Discovery

/-!
# Related outcomes and entries

A computation in steps gives a result if each of its steps does, and otherwise fails at the first
one that fails. Two computations on related data fail for one reason or give related results, one
after the other as for each element of a list. Entries of the same keys with related values stay so
as entries are put among them, and what is found under a key in the one is related to what is found
in the other.
-/

namespace PagedQuery

/-- A computation in two steps gives a result through one of the first step. -/
theorem exists_of_bind_eq_ok {ε α β : Type} {r : Except ε α} {f : α → Except ε β} {b : β}
    (h : r.bind f = .ok b) : ∃ a, r = .ok a ∧ f a = .ok b := by
  cases r with
  | error e => cases h
  | ok a => exact ⟨a, rfl, h⟩

theorem exists_of_map_eq_ok {ε α β : Type} {r : Except ε α} {f : α → β} {b : β}
    (h : r.map f = .ok b) : ∃ a, r = .ok a ∧ f a = b := by
  cases r with
  | error e => cases h
  | ok a => exact ⟨a, rfl, Except.ok.inj h⟩

theorem exists_of_toOption_map_eq_some {ε α β : Type} {r : Except ε α} {f : α → β} {b : β}
    (h : r.toOption.map f = some b) : ∃ a, r = .ok a ∧ f a = b := by
  cases r with
  | error e => cases h
  | ok a => exact ⟨a, rfl, Option.some.inj h⟩

theorem map_eq_error_iff {ε α β : Type} {r : Except ε α} {f : α → β} {e : ε} :
    r.map f = .error e ↔ r = .error e := by
  cases r <;> simp [Except.map]

/-- A computation in two steps fails in one of them. -/
theorem bind_eq_error_iff {ε α β : Type} {r : Except ε α} {f : α → Except ε β} {e : ε} :
    r.bind f = .error e ↔ r = .error e ∨ ∃ a, r = .ok a ∧ f a = .error e := by
  cases r <;> simp [Except.bind]

/-- The first element of a list at which a computation fails, fails with an error. -/
def FailsFirst {ε α β : Type} (f : α → Except ε β) (xs : List α) (e : ε) : Prop :=
  ∃ earlier x later, xs = earlier ++ x :: later ∧ (∀ y ∈ earlier, ∃ b, f y = .ok b) ∧
    f x = .error e

theorem not_failsFirst_nil {ε α β : Type} {f : α → Except ε β} {e : ε} : ¬FailsFirst f [] e := by
  rintro ⟨earlier, x, later, hnil, -⟩
  simp at hnil

theorem failsFirst_cons_iff {ε α β : Type} {f : α → Except ε β} {x : α} {xs : List α} {e : ε} :
    FailsFirst f (x :: xs) e ↔ f x = .error e ∨ (∃ b, f x = .ok b) ∧ FailsFirst f xs e := by
  constructor
  · rintro ⟨earlier, y, later, hxs, hok, hy⟩
    cases earlier with
    | nil =>
      cases hxs
      exact .inl hy
    | cons z earlier =>
      cases hxs
      obtain ⟨hx, hok⟩ := List.forall_mem_cons.mp hok
      exact .inr ⟨hx, earlier, y, later, rfl, hok, hy⟩
  · rintro (hx | ⟨hx, earlier, y, later, rfl, hok, hy⟩)
    · exact ⟨[], x, xs, rfl, by simp, hx⟩
    · exact ⟨x :: earlier, y, later, rfl, List.forall_mem_cons.mpr ⟨hx, hok⟩, hy⟩

/-- Steps over a list fail at the first element that fails, if that does not depend on the steps
before it. -/
theorem foldlM_eq_error_iff {ε α β γ : Type} {step : β → α → Except ε β} {f : α → Except ε γ}
    {next : β → α → γ → β} (hstep : ∀ b x, step b x = (f x).map (next b x)) {xs : List α} {b : β}
    {e : ε} : xs.foldlM step b = .error e ↔ FailsFirst f xs e := by
  induction xs generalizing b with
  | nil => exact iff_of_false (by simp [pure, Except.pure]) not_failsFirst_nil
  | cons x xs ih =>
    rw [List.foldlM_cons, hstep, failsFirst_cons_iff]
    cases f x with
    | error e' => simp [bind, Except.bind, Except.map]
    | ok c => simpa [bind, Except.bind, Except.map] using ih

theorem mapM_cons_eq_ok_iff {ε α β : Type} {f : α → Except ε β} {x : α} {xs : List α}
    {ys : List β} : (x :: xs).mapM f = .ok ys ↔
      ∃ y rest, f x = .ok y ∧ xs.mapM f = .ok rest ∧ ys = y :: rest := by
  rw [List.mapM_cons]
  constructor
  · intro h
    obtain ⟨y, hy, h⟩ := exists_of_bind_eq_ok h
    obtain ⟨rest, hrest, h⟩ := exists_of_bind_eq_ok h
    exact ⟨y, rest, hy, hrest, (Except.ok.inj h).symm⟩
  · rintro ⟨y, rest, hy, hrest, rfl⟩
    rw [hy, hrest]
    rfl

theorem forall₂_of_mapM_eq_ok {ε α β : Type} {f : α → Except ε β} {xs : List α} {ys : List β}
    (h : xs.mapM f = .ok ys) : List.Forall₂ (fun x y => f x = .ok y) xs ys := by
  induction xs generalizing ys with
  | nil => exact Except.ok.inj h ▸ .nil
  | cons x xs ih =>
    obtain ⟨y, rest, hy, hrest, rfl⟩ := mapM_cons_eq_ok_iff.mp h
    exact .cons hy (ih hrest)

theorem mem_iff_of_mapM_eq_ok {ε α β : Type} {f : α → Except ε β} {xs : List α} {ys : List β}
    (h : xs.mapM f = .ok ys) (y : β) : y ∈ ys ↔ ∃ x ∈ xs, f x = .ok y := by
  have hrel := forall₂_of_mapM_eq_ok h
  clear h
  induction hrel with
  | nil => simp
  | cons hxy _ ih => simp [hxy, ih, eq_comm]

/-- Two computations fail for one reason, or give results that are related. -/
inductive OutcomeRel {ε α β : Type} (R : α → β → Prop) : Except ε α → Except ε β → Prop
  | ok {a : α} {b : β} (h : R a b) : OutcomeRel R (.ok a) (.ok b)
  | error (e : ε) : OutcomeRel R (.error e) (.error e)

section Related

variable {ε α β γ δ : Type} {R : α → β → Prop} {S : γ → δ → Prop}

theorem OutcomeRel.imp {R' : α → β → Prop} {r : Except ε α} {r' : Except ε β}
    (h : OutcomeRel R r r') (himp : ∀ a b, r = .ok a → R a b → R' a b) : OutcomeRel R' r r' := by
  cases h with
  | ok hab => exact .ok (himp _ _ rfl hab)
  | error e => exact .error e

theorem OutcomeRel.bind {r : Except ε α} {r' : Except ε β} {f : α → Except ε γ}
    {g : β → Except ε δ} (h : OutcomeRel R r r')
    (hf : ∀ a b, R a b → OutcomeRel S (f a) (g b)) : OutcomeRel S (r.bind f) (r'.bind g) := by
  cases h with
  | ok hab => exact hf _ _ hab
  | error e => exact .error e

theorem OutcomeRel.map {r : Except ε α} {r' : Except ε β} {f : α → γ} {g : β → δ}
    (h : OutcomeRel R r r') (hf : ∀ a b, R a b → S (f a) (g b)) :
    OutcomeRel S (r.map f) (r'.map g) := by
  cases h with
  | ok hab => exact .ok (hf _ _ hab)
  | error e => exact .error e

theorem OutcomeRel.mapM {f : α → Except ε γ} {g : β → Except ε δ} {xs : List α} {ys : List β}
    (h : List.Forall₂ R xs ys) (hf : ∀ a b, R a b → OutcomeRel S (f a) (g b)) :
    OutcomeRel (List.Forall₂ S) (xs.mapM f) (ys.mapM g) := by
  induction h with
  | nil => exact .ok .nil
  | cons head tail ih =>
    rw [List.mapM_cons, List.mapM_cons]
    exact (hf _ _ head).bind fun _ _ hab => ih.map fun _ _ hrest => .cons hab hrest

/-- Entries of one key, with related values. -/
structure EntryRel (R : α → β → Prop) (e : String × α) (e' : String × β) : Prop where
  key_eq : e.1 = e'.1
  value : R e.2 e'.2

variable {entries : List (String × α)} {entries' : List (String × β)} {v : α} {w : β}

theorem rel_keys (h : List.Forall₂ (EntryRel R) entries entries') :
    entries'.map (·.1) = entries.map (·.1) := by
  induction h with
  | nil => rfl
  | cons head tail ih => rw [List.map_cons, List.map_cons, head.key_eq, ih]

theorem rel_putEntry (h : List.Forall₂ (EntryRel R) entries entries') (key : String) (hv : R v w) :
    List.Forall₂ (EntryRel R) (putEntry key v entries) (putEntry key w entries') := by
  induction h with
  | nil => exact .cons ⟨rfl, hv⟩ .nil
  | @cons e e' entries entries' head tail ih =>
    rw [putEntry, putEntry, head.key_eq]
    split
    · exact .cons ⟨rfl, hv⟩ tail
    · exact .cons ⟨rfl, head.value⟩ ih

theorem rel_putEntries {later : List (String × α)} {later' : List (String × β)}
    (hlater : List.Forall₂ (EntryRel R) later later')
    (h : List.Forall₂ (EntryRel R) entries entries') :
    List.Forall₂ (EntryRel R) (putEntries later entries) (putEntries later' entries') := by
  refine List.rel_foldl ?_ h hlater
  intro seen seen' hseen e e' he
  dsimp only
  rw [he.key_eq]
  exact rel_putEntry hseen _ he.value

theorem rel_lookup? (h : List.Forall₂ (EntryRel R) entries entries') (key : String) :
    Option.Rel R (lookup? key entries) (lookup? key entries') := by
  induction h with
  | nil => exact .none
  | @cons e e' entries entries' head tail ih =>
    rw [lookup?, lookup?, head.key_eq]
    split
    · exact .some head.value
    · exact ih

theorem rel_putNew (h : List.Forall₂ (EntryRel R) entries entries') (key : String) (hv : R v w) :
    List.Forall₂ (EntryRel R) (putNew key v entries) (putNew key w entries') := by
  have hfound : (lookup? key entries').isSome = (lookup? key entries).isSome := by
    have hrel := rel_lookup? h key
    revert hrel
    generalize lookup? key entries = found, lookup? key entries' = found'
    rintro (_ | _) <;> rfl
  rw [putNew, putNew, hfound]
  split
  · exact h
  · exact List.rel_append h (.cons ⟨rfl, hv⟩ .nil)

end Related

end PagedQuery
