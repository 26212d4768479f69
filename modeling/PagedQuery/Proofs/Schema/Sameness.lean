import Mathlib.Tactic
import PagedQuery.Schema.FieldType

/-!
# The same type

Types are the same up to the order of the members of their unions and the way in which these are
written. That is an equivalence, so that a cache keeps one converter for all ways to write a type.
-/

namespace PagedQuery.FieldType

variable {t u v : FieldType} {ts us : List FieldType}

/-! ## Parts of types -/

/-- Whether a type has no types as its parts. -/
def isAtom : FieldType → Bool
  | .union .. | .generic .. | .classWide _ => false
  | _ => true

section Induction

variable {P : FieldType → Prop}

mutual
/-- What holds of types without parts, and of types whose parts it holds of, holds of all types. -/
@[elab_as_elim]
theorem induction_parts (union : ∀ a ts, (∀ t ∈ ts, P t) → P (.union a ts))
    (generic : ∀ a c ts, (∀ t ∈ ts, P t) → P (.generic a c ts))
    (classWide : ∀ t, P t → P (.classWide t)) (atom : ∀ t, t.isAtom → P t) : ∀ t, P t
  | .union a ts => union a ts (forall_parts union generic classWide atom ts)
  | .generic a c ts => generic a c ts (forall_parts union generic classWide atom ts)
  | .classWide t => classWide t (induction_parts union generic classWide atom t)
  | .scalar _ | .any | .object | .nothing | .isbn | .wrapped | .code | .enumeration _ | .entity _
  | .plain _ | .bare _ | .forward _ | .expression _ | .missing | .foreign _ | .thing _ => atom _ rfl
theorem forall_parts (union : ∀ a ts, (∀ t ∈ ts, P t) → P (.union a ts))
    (generic : ∀ a c ts, (∀ t ∈ ts, P t) → P (.generic a c ts))
    (classWide : ∀ t, P t → P (.classWide t)) (atom : ∀ t, t.isAtom → P t) :
    ∀ ts : List FieldType, ∀ t ∈ ts, P t
  | [] => fun _ h => absurd h List.not_mem_nil
  | t :: ts => List.forall_mem_cons.mpr ⟨induction_parts union generic classWide atom t,
      forall_parts union generic classWide atom ts⟩
end

end Induction

theorem eachIn_iff : eachIn ts us ↔ ∀ t ∈ ts, ∃ u ∈ us, same t u := by
  induction ts with
  | nil => simp [eachIn]
  | cons t ts ih => simp [eachIn, ih]

theorem inSome_iff : inSome ts u ↔ ∃ t ∈ ts, same t u := by
  induction ts with
  | nil => simp [inSome]
  | cons t ts ih => simp [inSome, ih]

theorem sameAll_iff : sameAll ts us ↔ List.Forall₂ (fun t u => same t u) ts us := by
  induction ts generalizing us with
  | nil => cases us <;> simp [sameAll]
  | cons t ts ih => cases us <;> simp [sameAll, ih]

/-- Two unions are the same if each member of one is a member of the other. -/
theorem same_union_iff {a b : Bool} : same (.union a ts) (.union b us) ↔
    (∀ t ∈ ts, ∃ u ∈ us, same t u) ∧ ∀ u ∈ us, ∃ t ∈ ts, same t u := by
  simp only [same, Bool.and_eq_true, eachIn_iff, List.all_eq_true, inSome_iff]

theorem same_generic_iff {a b : Bool} {c d : Container} :
    same (.generic a c ts) (.generic b d us) ↔
      a = b ∧ c = d ∧ List.Forall₂ (fun t u => same t u) ts us := by
  simp only [same, Bool.and_eq_true, beq_iff_eq, sameAll_iff, and_assoc]

theorem same_classWide_iff : same (.classWide t) (.classWide u) ↔ same t u := by
  simp only [same]

/-- Two types that are the same have the same parts, or are equal for want of parts. -/
theorem same_cases (h : same t u) :
    (∃ a b ts us, t = .union a ts ∧ u = .union b us) ∨
    (∃ a b c d ts us, t = .generic a c ts ∧ u = .generic b d us) ∨
    (∃ t' u', t = .classWide t' ∧ u = .classWide u') ∨ t = u := by
  unfold same at h
  split at h
  · exact .inl ⟨_, _, _, _, rfl, rfl⟩
  · exact .inr (.inl ⟨_, _, _, _, _, _, rfl, rfl⟩)
  · exact .inr (.inr (.inl ⟨_, _, rfl, rfl⟩))
  · exact .inr (.inr (.inr (eq_of_beq h)))

theorem exists_of_same_union {a : Bool} (h : same (.union a ts) u) :
    ∃ b us, u = .union b us ∧ (∀ t ∈ ts, ∃ u ∈ us, same t u) ∧ ∀ u ∈ us, ∃ t ∈ ts, same t u := by
  rcases same_cases h with ⟨_, b, _, us, -, rfl⟩ | ⟨_, _, _, _, _, _, heq, -⟩ | ⟨_, _, heq, -⟩ | rfl
  · exact ⟨b, us, rfl, same_union_iff.mp h⟩
  · cases heq
  · cases heq
  · exact ⟨a, ts, rfl, same_union_iff.mp h⟩

theorem exists_of_same_generic {a : Bool} {c : Container} (h : same (.generic a c ts) u) :
    ∃ us, u = .generic a c us ∧ List.Forall₂ (fun t u => same t u) ts us := by
  rcases same_cases h with ⟨_, _, _, _, heq, -⟩ | ⟨_, _, _, _, _, us, -, rfl⟩ | ⟨_, _, heq, -⟩ | rfl
  · cases heq
  · obtain ⟨rfl, rfl, hparts⟩ := same_generic_iff.mp h
    exact ⟨us, rfl, hparts⟩
  · cases heq
  · exact ⟨ts, rfl, (same_generic_iff.mp h).2.2⟩

theorem exists_of_same_classWide (h : same (.classWide t) u) :
    ∃ u', u = .classWide u' ∧ same t u' := by
  rcases same_cases h with ⟨_, _, _, _, heq, -⟩ | ⟨_, _, _, _, _, _, heq, -⟩ | ⟨_, u', -, rfl⟩ | rfl
  · cases heq
  · cases heq
  · exact ⟨u', rfl, same_classWide_iff.mp h⟩
  · exact ⟨t, rfl, same_classWide_iff.mp h⟩

theorem eq_of_same_of_isAtom (ht : t.isAtom) (h : same t u) : t = u := by
  rcases same_cases h with ⟨_, _, _, _, rfl, -⟩ | ⟨_, _, _, _, _, _, rfl, -⟩ | ⟨_, _, rfl, -⟩ | h
  · cases ht
  · cases ht
  · cases ht
  · exact h

/-! ## An equivalence -/

theorem same_refl (t : FieldType) : same t t := by
  induction t using induction_parts with
  | union a ts ih =>
    exact same_union_iff.mpr ⟨fun t ht => ⟨t, ht, ih t ht⟩, fun t ht => ⟨t, ht, ih t ht⟩⟩
  | generic a c ts ih => exact same_generic_iff.mpr ⟨rfl, rfl, List.forall₂_same.mpr ih⟩
  | classWide t ih => exact same_classWide_iff.mpr ih
  | atom t ht =>
    unfold same
    split
    · cases ht
    · cases ht
    · cases ht
    · exact beq_self_eq_true _

theorem same_symm (h : same t u) : same u t := by
  induction t using induction_parts generalizing u with
  | union a ts ih =>
    obtain ⟨b, us, rfl, hts, hus⟩ := exists_of_same_union h
    refine same_union_iff.mpr ⟨fun u hu => ?_, fun t ht => ?_⟩
    · obtain ⟨t, ht, hsame⟩ := hus u hu
      exact ⟨t, ht, ih t ht hsame⟩
    · obtain ⟨u, hu, hsame⟩ := hts t ht
      exact ⟨u, hu, ih t ht hsame⟩
  | generic a c ts ih =>
    obtain ⟨us, rfl, hparts⟩ := exists_of_same_generic h
    refine same_generic_iff.mpr ⟨rfl, rfl, ?_⟩
    clear h
    induction hparts with
    | nil => exact .nil
    | cons hsame _ ihs =>
      obtain ⟨ht, hts⟩ := List.forall_mem_cons.mp ih
      exact .cons (ht hsame) (ihs hts)
  | classWide t ih =>
    obtain ⟨u, rfl, hsame⟩ := exists_of_same_classWide h
    exact same_classWide_iff.mpr (ih hsame)
  | atom t ht =>
    obtain rfl := eq_of_same_of_isAtom ht h
    exact same_refl _

theorem same_trans (h : same t u) (h' : same u v) : same t v := by
  induction t using induction_parts generalizing u v with
  | union a ts ih =>
    obtain ⟨b, us, rfl, hts, hus⟩ := exists_of_same_union h
    obtain ⟨c, vs, rfl, hus', hvs⟩ := exists_of_same_union h'
    refine same_union_iff.mpr ⟨fun t ht => ?_, fun v hv => ?_⟩
    · obtain ⟨u, hu, htu⟩ := hts t ht
      obtain ⟨v, hv, huv⟩ := hus' u hu
      exact ⟨v, hv, ih t ht htu huv⟩
    · obtain ⟨u, hu, huv⟩ := hvs v hv
      obtain ⟨t, ht, htu⟩ := hus u hu
      exact ⟨t, ht, ih t ht htu huv⟩
  | generic a c ts ih =>
    obtain ⟨us, rfl, hparts⟩ := exists_of_same_generic h
    obtain ⟨vs, rfl, hparts'⟩ := exists_of_same_generic h'
    refine same_generic_iff.mpr ⟨rfl, rfl, ?_⟩
    clear h h'
    induction hparts generalizing vs with
    | nil =>
      cases hparts'
      exact .nil
    | cons htu _ ihs =>
      obtain ⟨ht, hts⟩ := List.forall_mem_cons.mp ih
      cases hparts' with
      | cons huv hrest => exact .cons (ht htu huv) (ihs hts _ hrest)
  | classWide t ih =>
    obtain ⟨u, rfl, htu⟩ := exists_of_same_classWide h
    obtain ⟨v, rfl, huv⟩ := exists_of_same_classWide h'
    exact same_classWide_iff.mpr (ih htu huv)
  | atom t ht =>
    obtain rfl := eq_of_same_of_isAtom ht h
    exact h'

end PagedQuery.FieldType
