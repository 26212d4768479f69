import PagedQuery.Proofs.Schema.Alternatives
import PagedQuery.Schema.TypeForm

/-!
# What forms of types stand for

A form stands for the missing value or for a flat type none of whose alternatives is the missing
value. As an argument a text becomes a reference and the missing value its type; all else stays what
it is.
-/

namespace PagedQuery

namespace FieldType

variable {t t' u : FieldType} {ts : List FieldType}

/-! ## Types that forms stand for -/

/-- A flat type none of whose alternatives is the missing value: what an argument becomes. -/
structure IsArgument (t : FieldType) : Prop where
  flat : t.IsFlat
  present : .missing ∉ t.alternatives

/-- What a form stands for. -/
def Formed (t : FieldType) : Prop := t = .missing ∨ t.IsArgument

/-- What becomes another type as an argument: a text or the missing value. -/
def isRaw : FieldType → Bool
  | .expression _ | .missing => true
  | _ => false

theorem isArgument_of_not_union (h : t.isUnion = false) (hne : t ≠ .missing) : t.IsArgument where
  flat := isFlat_of_not_union h
  present := by
    rw [alternatives_of_not_union h]
    simpa using hne.symm

theorem IsArgument.ne_missing (h : t.IsArgument) : t ≠ .missing := by
  rintro rfl
  exact h.present (by simp [alternatives])

theorem isArgument_unionOf (spelled : Bool) (h : ∀ t ∈ ts, t.IsArgument) :
    (unionOf spelled ts).IsArgument where
  flat := isFlat_unionOf spelled fun t ht => (h t ht).flat
  present := by
    cases ts with
    | nil => simp [unionOf, flattenUnion, alternatives]
    | cons t ts =>
      rw [alternatives_unionOf spelled (fun t ht => (h t ht).flat) (List.cons_ne_nil t ts)]
      intro hmem
      obtain ⟨u, hu, hmissing⟩ := exists_of_mem_flattenUnion hmem
      exact (h u hu).present hmissing

theorem isArgument_optional (h : t.IsArgument) : t.optional.IsArgument :=
  isArgument_unionOf true (by
    simp only [List.forall_mem_cons]
    exact ⟨h, isArgument_of_not_union rfl (by simp), by simp⟩)

theorem argument_of_nothing_mem (h : .nothing ∈ t.alternatives) : t.argument = .ok t := by
  cases t with
  | missing | expression | classWide => simp [alternatives] at h
  | _ => rfl

theorem argument_of_isRaw (hraw : t.isRaw) (ha : t.argument = .ok t') :
    t = .missing ∧ t' = .nothing ∨ ∃ s, t = .expression s ∧ t' = .forward s := by
  cases t with
  | missing => exact .inl ⟨rfl, (Except.ok.inj ha).symm⟩
  | expression s =>
    rw [argument] at ha
    split at ha
    · exact .inr ⟨s, rfl, (Except.ok.inj ha).symm⟩
    · cases ha
  | _ => cases hraw

theorem argument_of_not_isRaw (hraw : t.isRaw = false) (ha : t.argument = .ok t') :
    t' = t ∧ ∀ u, t ≠ .classWide u := by
  cases t with
  | missing | expression => cases hraw
  | classWide => cases ha
  | _ => exact ⟨(Except.ok.inj ha).symm, by simp⟩

/-- An argument is looked up as what it was given as. -/
theorem Formed.argument (h : t.Formed) (ha : t.argument = .ok t') :
    t'.IsArgument ∧ t'.lookUp = t.lookUp ∧ (∀ u, t' ≠ .classWide u) ∧
      (t.isRaw = false → t' = t) := by
  cases hraw : t.isRaw with
  | true =>
    obtain ⟨rfl, rfl⟩ | ⟨s, rfl, rfl⟩ := argument_of_isRaw hraw ha
    · exact ⟨isArgument_of_not_union rfl (by simp), rfl, by simp, by simp⟩
    · exact ⟨isArgument_of_not_union rfl (by simp), rfl, by simp, by simp⟩
  | false =>
    obtain ⟨rfl, hne⟩ := argument_of_not_isRaw hraw ha
    have hpresent : t' ≠ .missing := by
      rintro rfl
      cases hraw
    exact ⟨h.resolve_left hpresent, rfl, hne, fun _ => rfl⟩

theorem formed_of_alternative {s : FieldType} (hs : s.Formed) (ht : t.Formed)
    (h : s.alternative t = .ok u) : u.Formed := by
  have hunion : ∀ b : Bool, ((s.argument).bind fun s' => (t.argument).bind fun t' =>
      .ok (unionOf b [s', t'])) = .ok u → u.Formed := fun b h => by
    obtain ⟨s', hs', h⟩ := exists_of_bind_eq_ok h
    obtain ⟨t', ht', h⟩ := exists_of_bind_eq_ok h
    cases h
    refine .inr (isArgument_unionOf b ?_)
    simp only [List.forall_mem_cons]
    exact ⟨(hs.argument hs').1, (ht.argument ht').1, by simp⟩
  unfold alternative at h
  split at h
  · exact hunion true h
  · split at h
    · cases h
    · cases h
    · cases h
    · exact hunion false h

end FieldType

namespace TypeForm

open FieldType

mutual
/-- Whether the unions in a form are written out. -/
def spellsUnions : TypeForm → Bool
  | .type t => !t.isUnion
  | .missing | .text _ => true
  | .optional form | .classWide form => form.spellsUnions
  | .oneOf forms | .alternatives forms | .container _ _ forms => allSpellUnions forms
def allSpellUnions : List TypeForm → Bool
  | [] => true
  | form :: forms => form.spellsUnions && allSpellUnions forms
end

theorem formed_of_foldlM {t u : FieldType} {ts : List FieldType} (ht : t.Formed)
    (hts : ∀ t ∈ ts, t.Formed) (h : ts.foldlM alternative t = .ok u) : u.Formed := by
  induction ts generalizing t with
  | nil => exact Except.ok.inj h ▸ ht
  | cons v ts ih =>
    obtain ⟨hv, hrest⟩ := List.forall_mem_cons.mp hts
    rw [List.foldlM_cons] at h
    obtain ⟨w, hw, h⟩ := exists_of_bind_eq_ok h
    exact ih (formed_of_alternative ht hv hw) hrest h

theorem isArgument_of_mapM {ts us : List FieldType} (hts : ∀ t ∈ ts, t.Formed)
    (h : ts.mapM FieldType.argument = .ok us) : ∀ u ∈ us, u.IsArgument := by
  intro u hu
  obtain ⟨t, ht, htu⟩ := (mem_iff_of_mapM_eq_ok h u).mp hu
  exact ((hts t ht).argument htu).1

theorem toTypes_cons_eq_ok_iff {form : TypeForm} {rest : List TypeForm} {ts : List FieldType} :
    toTypes (form :: rest) = .ok ts ↔
      ∃ t us, form.toType = .ok t ∧ toTypes rest = .ok us ∧ ts = t :: us := by
  rw [toTypes]
  constructor
  · intro h
    obtain ⟨t, ht, h⟩ := exists_of_bind_eq_ok h
    obtain ⟨us, hus, h⟩ := exists_of_bind_eq_ok h
    exact ⟨t, us, ht, hus, (Except.ok.inj h).symm⟩
  · rintro ⟨t, us, ht, hus, rfl⟩
    rw [ht, hus]
    rfl

theorem toType_container (capitalized : Bool) (c : Container) (forms : List TypeForm) :
    (TypeForm.container capitalized c forms).toType = (toTypes forms).bind fun ts =>
      if capitalized then spelledContainer c ts else .ok (.generic false c ts) := by
  cases capitalized <;> rw [toType] <;> rfl

theorem exists_of_spelledContainer {c : Container} {ts : List FieldType} {t : FieldType}
    (h : spelledContainer c ts = .ok t) : ∃ us, t = .generic true c us := by
  unfold spelledContainer at h
  split at h
  · obtain ⟨u, -, h⟩ := exists_of_bind_eq_ok h
    obtain ⟨us, -, h⟩ := exists_of_bind_eq_ok h
    exact ⟨_, (Except.ok.inj h).symm⟩
  · obtain ⟨us, -, h⟩ := exists_of_bind_eq_ok h
    split at h
    · split at h
      · exact ⟨_, (Except.ok.inj h).symm⟩
      · cases h
    · exact ⟨_, (Except.ok.inj h).symm⟩

theorem spelledContainer_eq_ok_iff {c : Container} (hc : c.isCollection) {ts : List FieldType}
    {k : FieldType} :
    spelledContainer c ts = .ok k ↔ ∃ us, ts.mapM FieldType.argument = .ok us ∧
      (∀ n, c.arity? = some n → us.length = n) ∧ k = .generic true c us := by
  constructor
  · intro h
    unfold spelledContainer at h
    split at h
    · cases hc
    · obtain ⟨us, hus, h⟩ := exists_of_bind_eq_ok h
      refine ⟨us, hus, ?_⟩
      split at h
      · next n harity =>
        split at h
        · next hlength => exact ⟨by simp [harity, hlength], (Except.ok.inj h).symm⟩
        · cases h
      · next harity => exact ⟨by simp [harity], (Except.ok.inj h).symm⟩
  · rintro ⟨us, hus, hlength, rfl⟩
    unfold spelledContainer
    split
    · cases hc
    · rw [hus]
      simp only [bind, Except.bind]
      split
      · next n harity => exact if_pos (hlength n harity)
      · rfl

mutual
/-- A form stands for a flat type, or for the missing value. -/
theorem formed_of_toType : ∀ {form : TypeForm} {t : FieldType}, form.spellsUnions →
    form.toType = .ok t → t.Formed
  | .type u, t, hspells, h => by
    rw [← Except.ok.inj h]
    by_cases hmissing : u = .missing
    · exact .inl hmissing
    · exact .inr (isArgument_of_not_union (by simpa [spellsUnions] using hspells) hmissing)
  | .missing, t, _, h => .inl (Except.ok.inj h).symm
  | .text source, t, _, h => by
    cases h
    exact .inr (isArgument_of_not_union rfl (by simp))
  | .optional form, t, hspells, h => by
    rw [toType] at h
    obtain ⟨u, hu, h⟩ := exists_of_bind_eq_ok h
    obtain ⟨u', hu', h⟩ := exists_of_bind_eq_ok h
    cases h
    have hformed := formed_of_toType (by simpa [spellsUnions] using hspells) hu
    exact .inr (isArgument_optional (hformed.argument hu').1)
  | .classWide form, t, _, h => by
    rw [toType] at h
    obtain ⟨u, hu, h⟩ := exists_of_bind_eq_ok h
    obtain ⟨u', hu', h⟩ := exists_of_bind_eq_ok h
    cases h
    exact .inr (isArgument_of_not_union rfl (by simp))
  | .oneOf forms, t, hspells, h => by
    rw [toType] at h
    split at h
    · cases h
    · obtain ⟨us, hus, h⟩ := exists_of_bind_eq_ok h
      obtain ⟨members, hmembers, h⟩ := exists_of_bind_eq_ok h
      cases h
      have hformed := formed_of_toTypes (by simpa [spellsUnions] using hspells) hus
      exact .inr (isArgument_unionOf true (isArgument_of_mapM hformed hmembers))
  | .alternatives forms, t, hspells, h => by
    rw [toType] at h
    obtain ⟨us, hus, h⟩ := exists_of_bind_eq_ok h
    have hformed := formed_of_toTypes (by simpa [spellsUnions] using hspells) hus
    cases us with
    | nil => cases h
    | cons u us =>
      obtain ⟨hu, hrest⟩ := List.forall_mem_cons.mp hformed
      exact formed_of_foldlM hu hrest h
  | .container capitalized c forms, t, _, h => by
    rw [toType_container] at h
    obtain ⟨us, hus, h⟩ := exists_of_bind_eq_ok h
    have hgeneric : ∃ a elements, t = .generic a c elements := by
      cases capitalized with
      | false => exact ⟨false, us, (Except.ok.inj h).symm⟩
      | true =>
        obtain ⟨elements, ht⟩ := exists_of_spelledContainer h
        exact ⟨true, elements, ht⟩
    obtain ⟨a, elements, rfl⟩ := hgeneric
    exact .inr (isArgument_of_not_union rfl (by simp))
theorem formed_of_toTypes : ∀ {forms : List TypeForm} {ts : List FieldType},
    allSpellUnions forms → toTypes forms = .ok ts → ∀ t ∈ ts, t.Formed
  | [], ts, _, h => by
    cases h
    simp
  | form :: forms, ts, hspells, h => by
    obtain ⟨u, us, hu, hus, rfl⟩ := toTypes_cons_eq_ok_iff.mp h
    rw [allSpellUnions, Bool.and_eq_true] at hspells
    exact List.forall_mem_cons.mpr ⟨formed_of_toType hspells.1 hu, formed_of_toTypes hspells.2 hus⟩
end

end TypeForm

end PagedQuery
