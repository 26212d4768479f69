import PagedQuery.Proofs.Related
import PagedQuery.Proofs.Schema.Sameness

/-!
# Alternatives of a type

A union stands for its members and any other type for itself. Unions are built flat: no member is a
union or the same as another. So a type that may be missing has the alternatives of the type and
that of the missing value, and it is described as the type is.
-/

namespace PagedQuery.FieldType

variable {t u o : FieldType} {ts us seen : List FieldType}

/-! ## Flat types -/

def isUnion : FieldType → Bool
  | .union .. => true
  | _ => false

/-- The types that a type stands for. -/
def alternatives : FieldType → List FieldType
  | .union _ members => members
  | t => [t]

/-- Types of which none is a union or the same as another. -/
structure Apart (ts : List FieldType) : Prop where
  not_union : ∀ t ∈ ts, t.isUnion = false
  pairwise : ts.Pairwise fun t u => ¬ same t u

/-- A type whose alternatives are apart, and several if it is a union. -/
structure IsFlat (t : FieldType) : Prop where
  apart : Apart t.alternatives
  two_le : t.isUnion → 2 ≤ t.alternatives.length

theorem alternatives_of_not_union (h : t.isUnion = false) : t.alternatives = [t] := by
  cases t with
  | union => cases h
  | _ => rfl

theorem apart_singleton (h : t.isUnion = false) : Apart [t] where
  not_union := List.forall_mem_singleton.mpr h
  pairwise := List.pairwise_singleton _ _

theorem isFlat_of_not_union (h : t.isUnion = false) : t.IsFlat where
  apart := alternatives_of_not_union h ▸ apart_singleton h
  two_le hunion := absurd (h ▸ hunion) Bool.false_ne_true

theorem IsFlat.alternatives_ne_nil (h : t.IsFlat) : t.alternatives ≠ [] := by
  cases hunion : t.isUnion with
  | true =>
    have htwo := h.two_le hunion
    exact List.ne_nil_of_length_pos (by omega)
  | false =>
    rw [alternatives_of_not_union hunion]
    exact List.cons_ne_nil _ _

/-! ## Flattening -/

theorem inSome_of_mem (h : t ∈ ts) : inSome ts t := inSome_iff.mpr ⟨t, h, same_refl t⟩

theorem inSome_insertType (seen : List FieldType) (t : FieldType) :
    inSome (insertType seen t) t := by
  rw [insertType]
  split
  · assumption
  · exact inSome_of_mem (by simp)

theorem subset_insertType (seen : List FieldType) (t : FieldType) : seen ⊆ insertType seen t := by
  rw [insertType]
  split
  · exact List.Subset.refl _
  · exact List.subset_append_left _ _

theorem Apart.insertType (h : Apart seen) (ht : t.isUnion = false) :
    Apart (insertType seen t) := by
  rw [FieldType.insertType]
  split
  · exact h
  · next hnew =>
    refine ⟨fun u hu => ?_, List.pairwise_append.mpr ⟨h.pairwise, List.pairwise_singleton _ _, ?_⟩⟩
    · rcases List.mem_append.mp hu with hu | hu
      · exact h.not_union u hu
      · exact List.mem_singleton.mp hu ▸ ht
    · intro u hu v hv hsame
      exact hnew (inSome_iff.mpr ⟨u, hu, List.mem_singleton.mp hv ▸ hsame⟩)

theorem Apart.foldl_insertType (h : Apart seen) (hts : ∀ t ∈ ts, t.isUnion = false) :
    Apart (ts.foldl FieldType.insertType seen) := by
  induction ts generalizing seen with
  | nil => exact h
  | cons t ts ih =>
    obtain ⟨ht, hrest⟩ := List.forall_mem_cons.mp hts
    exact ih (h.insertType ht) hrest

theorem foldl_insertType_of_apart (h : Apart (seen ++ ts)) :
    ts.foldl insertType seen = seen ++ ts := by
  induction ts generalizing seen with
  | nil => exact (List.append_nil seen).symm
  | cons t ts ih =>
    have hnew : ¬ inSome seen t := fun hsome => by
      obtain ⟨u, hu, hsame⟩ := inSome_iff.mp hsome
      exact (List.pairwise_append.mp h.pairwise).2.2 u hu t List.mem_cons_self hsame
    rw [List.append_cons] at h ⊢
    rw [List.foldl_cons, insertType, if_neg hnew, ih h]

theorem inSome_foldl_insertType (h : inSome seen t ∨ inSome ts t) :
    inSome (ts.foldl insertType seen) t := by
  induction ts generalizing seen with
  | nil => exact h.resolve_right (by simp [inSome])
  | cons u ts ih =>
    apply ih
    rcases h with h | h
    · obtain ⟨v, hv, hsame⟩ := inSome_iff.mp h
      exact .inl (inSome_iff.mpr ⟨v, subset_insertType seen u hv, hsame⟩)
    · obtain ⟨v, hv, hsame⟩ := inSome_iff.mp h
      rcases List.mem_cons.mp hv with rfl | hv
      · obtain ⟨w, hw, hwv⟩ := inSome_iff.mp (inSome_insertType seen v)
        exact .inl (inSome_iff.mpr ⟨w, hw, same_trans hwv hsame⟩)
      · exact .inr (inSome_iff.mpr ⟨v, hv, hsame⟩)

theorem mem_of_mem_foldl_insertType (h : u ∈ ts.foldl insertType seen) : u ∈ seen ∨ u ∈ ts := by
  induction ts generalizing seen with
  | nil => exact .inl h
  | cons t ts ih =>
    rcases ih h with h | h
    · rw [insertType] at h
      split at h
      · exact .inl h
      · exact (List.mem_append.mp h).imp_right fun hu =>
          List.mem_cons.mpr (.inl (List.mem_singleton.mp hu))
    · exact .inr (List.mem_cons_of_mem t h)

theorem flattenUnion_eq (ts : List FieldType) :
    flattenUnion ts = (ts.flatMap alternatives).foldl insertType [] := rfl

theorem apart_flattenUnion (h : ∀ t ∈ ts, t.IsFlat) : Apart (flattenUnion ts) := by
  refine Apart.foldl_insertType ⟨by simp, .nil⟩ fun u hu => ?_
  obtain ⟨t, ht, hu⟩ := List.mem_flatMap.mp hu
  exact (h t ht).apart.not_union u hu

theorem flattenUnion_of_apart (h : Apart ts) : flattenUnion ts = ts := by
  have hparts : ts.flatMap alternatives = ts := by
    rw [List.flatMap_congr fun t ht => alternatives_of_not_union (h.not_union t ht)]
    simp
  rw [flattenUnion_eq, hparts]
  exact foldl_insertType_of_apart h

theorem unionOf_of_isFlat {spelled : Bool} (h : (union spelled ts).IsFlat) :
    unionOf spelled ts = .union spelled ts := by
  have htwo : 2 ≤ ts.length := h.two_le rfl
  have hmembers : flattenUnion ts = ts := flattenUnion_of_apart h.apart
  rw [unionOf, hmembers]
  match ts with
  | _ :: _ :: _ => rfl

theorem flattenUnion_singleton (h : t.IsFlat) : flattenUnion [t] = t.alternatives := by
  rw [flattenUnion_eq, List.flatMap_singleton]
  exact foldl_insertType_of_apart h.apart

theorem flattenUnion_append_singleton (ts : List FieldType) (ht : t.isUnion = false) :
    flattenUnion (ts ++ [t]) = insertType (flattenUnion ts) t := by
  rw [flattenUnion_eq, List.flatMap_append, List.flatMap_singleton, alternatives_of_not_union ht,
    List.foldl_append]
  rfl

theorem exists_of_mem_flattenUnion (h : u ∈ flattenUnion ts) : ∃ t ∈ ts, u ∈ t.alternatives :=
  List.mem_flatMap.mp ((mem_of_mem_foldl_insertType h).resolve_left List.not_mem_nil)

/-- Each alternative of a member is there after flattening. -/
theorem inSome_flattenUnion (ht : t ∈ ts) (hu : u ∈ t.alternatives) :
    inSome (flattenUnion ts) u :=
  inSome_foldl_insertType (.inr (inSome_of_mem (List.mem_flatMap.mpr ⟨t, ht, hu⟩)))

theorem flattenUnion_ne_nil (h : ∀ t ∈ ts, t.IsFlat) (hne : ts ≠ []) : flattenUnion ts ≠ [] := by
  obtain ⟨t, ht⟩ := List.exists_mem_of_ne_nil ts hne
  obtain ⟨u, hu⟩ := List.exists_mem_of_ne_nil _ (h t ht).alternatives_ne_nil
  intro hnil
  have hsome := inSome_flattenUnion ht hu
  rw [hnil] at hsome
  simp [inSome] at hsome

theorem alternatives_unionOf (spelled : Bool) (h : ∀ t ∈ ts, t.IsFlat) (hne : ts ≠ []) :
    (unionOf spelled ts).alternatives = flattenUnion ts := by
  have hsome := flattenUnion_ne_nil h hne
  have hapart := apart_flattenUnion h
  rw [unionOf]
  split
  · next heq => exact absurd heq hsome
  · next t heq =>
    rw [heq] at hapart ⊢
    exact alternatives_of_not_union (hapart.not_union t List.mem_cons_self)
  · rfl

theorem isFlat_unionOf (spelled : Bool) (h : ∀ t ∈ ts, t.IsFlat) : (unionOf spelled ts).IsFlat := by
  have hapart := apart_flattenUnion h
  rw [unionOf]
  split
  · exact isFlat_of_not_union rfl
  · next t heq =>
    rw [heq] at hapart
    exact isFlat_of_not_union (hapart.not_union t List.mem_cons_self)
  · next hnil hone =>
    refine ⟨hapart, fun _ => ?_⟩
    rw [alternatives]
    match hlist : flattenUnion ts with
    | [] => exact absurd hlist hnil
    | [t] => exact absurd hlist (hone t)
    | _ :: _ :: _ => simp

/-! ## Types that may be missing -/

/-- A type is unwrapped by its alternatives alone. -/
theorem unwrapOptional_eq (t : FieldType) :
    t.unwrapOptional = unionOf true (t.alternatives.filter (· != .nothing)) := by
  cases hunion : t.isUnion with
  | true =>
    cases t with
    | union => rfl
    | _ => cases hunion
  | false =>
    have hself : t.unwrapOptional = t := by
      cases t with
      | union => cases hunion
      | _ => rfl
    rw [hself, alternatives_of_not_union hunion]
    by_cases hnothing : t = .nothing
    · rw [hnothing]
      rfl
    · rw [List.filter_cons_of_pos (by simpa using hnothing), List.filter_nil, unionOf,
        flattenUnion_of_apart (apart_singleton hunion)]

/-- The second type has the alternatives of the first, and the missing value. -/
structure OptionalOf (t o : FieldType) : Prop where
  flat : t.IsFlat
  flat_optional : o.IsFlat
  alternatives_eq : o.alternatives = insertType t.alternatives .nothing

theorem optionalOf_optional (h : t.IsFlat) : OptionalOf t t.optional := by
  have hmembers : ∀ u ∈ [t, .nothing], u.IsFlat := by
    simp only [List.forall_mem_cons]
    exact ⟨h, isFlat_of_not_union rfl, by simp⟩
  refine ⟨h, isFlat_unionOf true hmembers, ?_⟩
  rw [optional, alternatives_unionOf true hmembers (List.cons_ne_nil _ _),
    ← flattenUnion_singleton h]
  exact flattenUnion_append_singleton [t] rfl

theorem eq_nothing_of_same (h : same t .nothing) : t = .nothing :=
  (eq_of_same_of_isAtom rfl (same_symm h)).symm

theorem inSome_nothing_iff : inSome ts .nothing ↔ .nothing ∈ ts := by
  refine ⟨fun h => ?_, inSome_of_mem⟩
  obtain ⟨t, ht, hsame⟩ := inSome_iff.mp h
  exact eq_nothing_of_same hsame ▸ ht

theorem filter_insertType_nothing (ts : List FieldType) :
    (insertType ts .nothing).filter (· != .nothing) = ts.filter (· != .nothing) := by
  rw [insertType]
  split
  · rfl
  · simp

namespace OptionalOf

theorem nothing_mem (h : OptionalOf t o) : .nothing ∈ o.alternatives :=
  h.alternatives_eq ▸ inSome_nothing_iff.mp (inSome_insertType _ _)

theorem ne_classWide (h : OptionalOf t o) (u : FieldType) : o ≠ .classWide u := by
  rintro rfl
  simpa [alternatives] using h.nothing_mem

theorem unwrapOptional (h : OptionalOf t o) : o.unwrapOptional = t.unwrapOptional := by
  rw [unwrapOptional_eq, unwrapOptional_eq, h.alternatives_eq, filter_insertType_nothing]

end OptionalOf

/-- Types that do not belong to the class are described by what they are when they are not
missing. -/
theorem describe?_congr (ht : ∀ v, t ≠ .classWide v) (hu : ∀ v, u ≠ .classWide v)
    (h : t.unwrapOptional = u.unwrapOptional) (name : String) :
    t.describe? name = u.describe? name := by
  rw [FieldType.describe?, FieldType.describe?, h]
  · exact hu
  · exact ht

theorem OptionalOf.describe? (h : OptionalOf t o) (ht : ∀ u, t ≠ .classWide u) (name : String) :
    o.describe? name = t.describe? name :=
  describe?_congr h.ne_classWide ht h.unwrapOptional name

/-! ## Looking alternatives up -/

section LookingUp

variable {look : String → Except ExpressionError FieldType}

/-- An element type with the expressions in it looked up; a missing value stays one. -/
def lookUpElement (look : String → Except ExpressionError FieldType) :
    FieldType → Except ExpressionError FieldType
  | .missing => .ok .missing
  | t => t.lookUpWith look

theorem lookUpElement_of_ne (h : t ≠ .missing) : t.lookUpElement look = t.lookUpWith look := by
  cases t with
  | missing => exact absurd rfl h
  | _ => rfl

theorem lookUpElements_eq_mapM (ts : List FieldType) :
    lookUpElements look ts = ts.mapM (lookUpElement look) := by
  induction ts with
  | nil => rfl
  | cons t ts ih =>
    rw [List.mapM_cons, ← ih]
    cases t with
    | _ => rfl

/-- Looking up builds flat types, if the expressions name such. -/
theorem isFlat_of_lookUpWith (hlook : ∀ s u, look s = .ok u → u.IsFlat)
    (h : t.lookUpWith look = .ok u) : u.IsFlat := by
  induction t using induction_parts generalizing u with
  | union spelled ts ih =>
    rw [lookUpWith, lookUpElements_eq_mapM] at h
    obtain ⟨us, hus, h⟩ := exists_of_bind_eq_ok h
    rw [← Except.ok.inj h]
    refine isFlat_unionOf spelled fun v hv => ?_
    obtain ⟨t, ht, hv⟩ := (mem_iff_of_mapM_eq_ok hus v).mp hv
    by_cases hmissing : t = .missing
    · subst hmissing
      exact Except.ok.inj hv ▸ isFlat_of_not_union rfl
    · exact ih t ht (lookUpElement_of_ne hmissing ▸ hv)
  | generic a c ts ih =>
    rw [lookUpWith] at h
    obtain ⟨us, -, h⟩ := exists_of_bind_eq_ok h
    exact Except.ok.inj h ▸ isFlat_of_not_union rfl
  | classWide t ih =>
    rw [lookUpWith] at h
    obtain ⟨u, -, h⟩ := exists_of_bind_eq_ok h
    exact Except.ok.inj h ▸ isFlat_of_not_union rfl
  | atom t ht =>
    cases t with
    | union => cases ht
    | generic => cases ht
    | classWide => cases ht
    | expression s => exact hlook s u h
    | forward s => exact hlook s u h
    | _ => exact Except.ok.inj h ▸ isFlat_of_not_union rfl

theorem isFlat_of_typeWithin {depth : ℕ} {source : String}
    (h : Expression.typeWithin depth source = .ok t) : t.IsFlat := by
  induction depth generalizing source t with
  | zero => cases h
  | succ depth ih =>
    rw [Expression.typeWithin] at h
    obtain ⟨term, -, h⟩ := exists_of_bind_eq_ok h
    obtain ⟨m, -, h⟩ := exists_of_bind_eq_ok h
    have hlook : ∀ s u, Expression.typeWithin depth s = .ok u → u.IsFlat := fun _ _ => ih
    split at h
    · exact isFlat_of_lookUpWith hlook h
    · exact Except.ok.inj h ▸ isFlat_of_not_union rfl
    · exact ih h
    · cases h
    · exact isFlat_of_lookUpWith hlook h

theorem isFlat_of_lookUp (h : t.lookUp = .ok u) : u.IsFlat :=
  isFlat_of_lookUpWith (fun _ _ => isFlat_of_typeWithin) h

theorem lookUpElements_of_not_mem (h : .missing ∉ ts) :
    lookUpElements Expression.typeOf ts = ts.mapM lookUp := by
  rw [lookUpElements_eq_mapM]
  induction ts with
  | nil => rfl
  | cons t ts ih =>
    obtain ⟨ht, hts⟩ := not_or.mp (List.mem_cons.not.mp h)
    rw [List.mapM_cons, List.mapM_cons, ih hts, lookUpElement_of_ne (Ne.symm ht)]
    rfl

/-- A flat type is looked up through its alternatives. -/
theorem lookUp_alternatives (h : t.IsFlat) (hmissing : .missing ∉ t.alternatives) :
    OutcomeRel (fun us u => u.IsFlat ∧ u.alternatives = flattenUnion us)
      (t.alternatives.mapM lookUp) t.lookUp := by
  cases hunion : t.isUnion with
  | false =>
    rw [alternatives_of_not_union hunion, List.mapM_cons]
    cases hu : t.lookUp with
    | error e => exact .error e
    | ok u =>
      have hflat := isFlat_of_lookUp hu
      exact .ok ⟨hflat, (flattenUnion_singleton hflat).symm⟩
  | true =>
    cases t with
    | union spelled ts =>
      rw [alternatives] at hmissing ⊢
      rw [lookUp, lookUpWith, lookUpElements_of_not_mem hmissing]
      cases hus : ts.mapM lookUp with
      | error e => exact .error e
      | ok us =>
        have hflat : ∀ u ∈ us, u.IsFlat := fun u hu => by
          obtain ⟨v, -, hv⟩ := (mem_iff_of_mapM_eq_ok hus u).mp hu
          exact isFlat_of_lookUp hv
        have hne : us ≠ [] := by
          rintro rfl
          exact h.alternatives_ne_nil (List.forall₂_nil_right_iff.mp (forall₂_of_mapM_eq_ok hus))
        exact .ok ⟨isFlat_unionOf spelled hflat, alternatives_unionOf spelled hflat hne⟩
    | _ => cases hunion

theorem lookUp_insertType_nothing (ts : List FieldType) :
    OutcomeRel (fun us ws => flattenUnion ws = insertType (flattenUnion us) .nothing)
      (ts.mapM lookUp) ((insertType ts .nothing).mapM lookUp) := by
  rw [insertType]
  split
  · next hsome =>
    cases hus : ts.mapM lookUp with
    | error e => exact .error e
    | ok us =>
      have hmem : .nothing ∈ us :=
        (mem_iff_of_mapM_eq_ok hus _).mpr ⟨.nothing, inSome_nothing_iff.mp hsome, rfl⟩
      have hthere : inSome (flattenUnion us) .nothing :=
        inSome_flattenUnion hmem (by simp [alternatives])
      exact .ok (if_pos hthere).symm
  · rw [List.mapM_append]
    cases ts.mapM lookUp with
    | error e => exact .error e
    | ok us => exact .ok (flattenUnion_append_singleton us rfl)

/-- Looking up a type that may be missing gives what looking up the type gives, or the missing
value. -/
theorem OptionalOf.lookUp (h : OptionalOf t o) (hmissing : .missing ∉ t.alternatives) :
    OutcomeRel OptionalOf t.lookUp o.lookUp := by
  have hmissing' : .missing ∉ o.alternatives := by
    rw [h.alternatives_eq, insertType]
    split
    · exact hmissing
    · simpa using hmissing
  have ht := lookUp_alternatives h.flat hmissing
  have ho := lookUp_alternatives h.flat_optional hmissing'
  have hmembers := lookUp_insertType_nothing t.alternatives
  rw [h.alternatives_eq] at ho
  revert ht ho hmembers
  generalize t.alternatives.mapM FieldType.lookUp = us?,
    (insertType t.alternatives .nothing).mapM FieldType.lookUp = ws?,
    t.lookUp = u?, o.lookUp = w?
  rintro (⟨hu, hus⟩ | e) (⟨hw, hws⟩ | _) (hmembers | _)
  · exact .ok ⟨hu, hw, by rw [hws, hmembers, hus]⟩
  · exact .error e

end LookingUp

end PagedQuery.FieldType
