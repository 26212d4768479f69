import PagedQuery.Proofs.Schema.Alternatives
import PagedQuery.Proofs.Schema.Annotations
import PagedQuery.Proofs.Schema.Closed

/-!
# Fields that are declared to hold anything

A field of scalars or of members of an enumeration can be declared to hold anything instead. That
changes no other thing about a schema: the types extend each other as before, the same names lead to
the same attributes, and every path is found or fails as before.
-/

namespace PagedQuery

/-! ## Looser declarations -/

/-- Whether values of the type are scalars or members of an enumeration. -/
def FieldType.isAtomic : FieldType → Bool
  | .scalar _ | .enumeration _ => true
  | _ => false

/-- A declaration, and the same one or one that lets the field hold anything. -/
inductive Looser : FieldType → FieldType → Prop
  | same (t : FieldType) : Looser t t
  | any {t : FieldType} (h : t.isAtomic) : Looser t .any
  | optional {t : FieldType} (h : t.isAtomic) : Looser t.optional .any

/-- The same attribute, which may hold anything instead of scalars or members. -/
structure Field.Loosens (f f' : Field) : Prop where
  name_eq : f'.name = f.name
  many_eq : f'.many = f.many
  relation_eq : f'.relation = f.relation
  type : f'.type = f.type ∨ f.type.isAtomic ∧ f'.type = .any

theorem Field.Loosens.refl (f : Field) : f.Loosens f := ⟨rfl, rfl, rfl, .inl rfl⟩

/-- The same entity type, some fields of which may hold anything. -/
structure EntityType.Loosens (t t' : EntityType) : Prop where
  name_eq : t'.name = t.name
  bases_eq : t'.bases = t.bases
  fields : List.Forall₂ (EntryRel Looser) t.fields t'.fields

/-- The same schema, in which some fields may hold anything. -/
structure Schema.Loosens (s s' : Schema) : Prop where
  types : List.Forall₂ EntityType.Loosens s.types s'.types
  enumerations_eq : s'.enumerations = s.enumerations
  stored_eq : s'.stored = s.stored
  nameless_eq : s'.nameless = s.nameless

namespace FieldType

variable {t t' : FieldType}

theorem exists_of_isAtomic (h : t.isAtomic) :
    (∃ k, t = .scalar k) ∨ ∃ name, t = .enumeration name := by
  cases t with
  | scalar k => exact .inl ⟨k, rfl⟩
  | enumeration name => exact .inr ⟨name, rfl⟩
  | _ => cases h

theorem optional_of_isAtomic (h : t.isAtomic) : t.optional = .union true [t, .nothing] := by
  obtain ⟨k, rfl⟩ | ⟨name, rfl⟩ := exists_of_isAtomic h <;>
    simp [optional, unionOf, flattenUnion, insertType, inSome, same]

theorem lookUp_of_isAtomic (h : t.isAtomic) : t.lookUp = .ok t := by
  obtain ⟨k, rfl⟩ | ⟨name, rfl⟩ := exists_of_isAtomic h <;> rfl

theorem lookUp_optional (h : t.isAtomic) : t.optional.lookUp = .ok t.optional := by
  have helements : lookUpElements Expression.typeOf [t, .nothing] = .ok [t, .nothing] := by
    obtain ⟨k, rfl⟩ | ⟨name, rfl⟩ := exists_of_isAtomic h <;> rfl
  rw [optional_of_isAtomic h, lookUp, lookUpWith, helements]
  exact congrArg Except.ok (optional_of_isAtomic h)

theorem describe?_of_isAtomic (h : t.isAtomic) (name : String) :
    t.describe? name = some ⟨name, t, false, false⟩ := by
  obtain ⟨k, rfl⟩ | ⟨name, rfl⟩ := exists_of_isAtomic h <;> rfl

theorem describe?_optional (h : t.isAtomic) (name : String) :
    t.optional.describe? name = some ⟨name, t, false, false⟩ := by
  rw [← describe?_of_isAtomic h]
  obtain ⟨k, rfl⟩ | ⟨base, rfl⟩ := exists_of_isAtomic h <;>
    exact (optionalOf_optional (isFlat_of_not_union rfl)).describe? (by simp) name

end FieldType

namespace Looser

variable {t t' : FieldType}

theorem lookUp (h : Looser t t') : OutcomeRel Looser t.lookUp t'.lookUp := by
  cases h with
  | same =>
    cases t.lookUp with
    | ok u => exact .ok (.same u)
    | error e => exact .error e
  | any hatomic => exact FieldType.lookUp_of_isAtomic hatomic ▸ .ok (.any hatomic)
  | optional hatomic => exact FieldType.lookUp_optional hatomic ▸ .ok (.optional hatomic)

theorem describe? (h : Looser t t') (name : String) :
    Option.Rel Field.Loosens (t.describe? name) (t'.describe? name) := by
  cases h with
  | same =>
    cases t.describe? name with
    | none => exact .none
    | some f => exact .some (.refl f)
  | any hatomic =>
    rw [FieldType.describe?_of_isAtomic hatomic]
    exact .some ⟨rfl, rfl, rfl, .inr ⟨hatomic, rfl⟩⟩
  | optional hatomic =>
    rw [FieldType.describe?_optional hatomic]
    exact .some ⟨rfl, rfl, rfl, .inr ⟨hatomic, rfl⟩⟩

end Looser

/-! ## Tables and paths -/

theorem rel_fieldTable {attributes attributes' : List (String × Field)}
    (h : List.Forall₂ (EntryRel Field.Loosens) attributes attributes') :
    List.Forall₂ (EntryRel Field.Loosens) (fieldTable attributes) (fieldTable attributes') := by
  refine List.rel_foldl ?_ .nil h
  intro table table' htable a a' ha
  dsimp only
  rw [ha.key_eq]
  exact rel_putNew (rel_putNew htable _ ha.value) _ ha.value

namespace Schema.Loosens

variable {s s' : Schema}

theorem type?_rel (h : s.Loosens s') (name : String) :
    Option.Rel EntityType.Loosens (s.type? name) (s'.type? name) := by
  have htypes := h.types
  unfold type?
  revert htypes
  generalize s.types = types, s'.types = types'
  intro htypes
  induction htypes with
  | nil => exact .none
  | @cons t t' types types' head tail ih =>
    rw [List.find?_cons, List.find?_cons, head.name_eq]
    split
    · exact .some head
    · exact ih

theorem lineage_eq (h : s.Loosens s') (fuel : ℕ) (name : String) :
    s'.lineage fuel name = s.lineage fuel name := by
  induction fuel generalizing name with
  | zero => rfl
  | succ fuel ih =>
    have hlineages : s'.lineage fuel = s.lineage fuel := funext ih
    have htype := h.type?_rel name
    rw [lineage, lineage, hlineages]
    revert htype
    generalize s.type? name = found, s'.type? name = found'
    rintro (⟨ht⟩ | _)
    · simp only [ht.bases_eq]
    · rfl

theorem ancestry_rel (h : s.Loosens s') (name : String) :
    List.Forall₂ EntityType.Loosens (s.ancestry name) (s'.ancestry name) := by
  rw [ancestry, ancestry, ← h.types.length_eq, h.lineage_eq]
  refine List.rel_filterMap (R := Eq) ?_ (List.forall₂_eq_eq_eq ▸ rfl)
  rintro name _ rfl
  exact h.type?_rel name

theorem annotations_rel (h : s.Loosens s') (name : String) :
    List.Forall₂ (EntryRel Looser) (s.annotations name) (s'.annotations name) :=
  List.rel_flatMap (List.rel_reverse (h.ancestry_rel name)) fun _ _ ht => ht.fields

theorem lookUpAll_rel {annotations annotations' : List (String × FieldType)}
    (h : List.Forall₂ (EntryRel Looser) annotations annotations') :
    OutcomeRel (List.Forall₂ (EntryRel Looser)) (lookUpAll annotations) (lookUpAll annotations') :=
  OutcomeRel.mapM h fun _ _ he => he.value.lookUp.map fun _ _ hlooser => ⟨he.key_eq, hlooser⟩

theorem resolvedDeclarations_rel (h : s.Loosens s') (name : String) :
    OutcomeRel (List.Forall₂ (EntryRel Looser)) (s.resolvedDeclarations name)
      (s'.resolvedDeclarations name) := by
  have hannotations := h.annotations_rel name
  have hlooks := lookUpAll_rel hannotations
  rw [resolvedDeclarations_eq, resolvedDeclarations_eq]
  revert hlooks
  generalize lookUpAll (s.annotations name) = outcome, lookUpAll (s'.annotations name) = outcome'
  rintro (⟨hresolved⟩ | e)
  · exact .ok (rel_putEntries hresolved .nil)
  · cases e with
    | meaningless => exact .ok (rel_putEntries hannotations .nil)
    | _ => exact .error _

theorem attributes_rel (h : s.Loosens s') (name : String) :
    OutcomeRel (List.Forall₂ (EntryRel Field.Loosens)) (s.attributes name) (s'.attributes name) := by
  have hstored : s'.stored? name = s.stored? name := by rw [stored?, stored?, h.stored_eq]
  rw [attributes, attributes, hstored]
  split
  · exact .ok (List.forall₂_same.mpr fun e _ => ⟨rfl, .refl e.2⟩)
  · refine (h.resolvedDeclarations_rel name).bind fun declared declared' hdeclared => .ok ?_
    refine List.rel_filterMap (R := EntryRel Looser) ?_ (List.rel_filter ?_ hdeclared)
    · rintro ⟨n, t⟩ ⟨n', t'⟩ ⟨hn, ht⟩
      dsimp only at hn ht ⊢
      subst hn
      have hdescribed := ht.describe? n
      revert hdescribed
      generalize t.describe? n = f?, t'.describe? n = f'?
      rintro (⟨hf⟩ | _)
      · exact .some ⟨rfl, hf⟩
      · exact .none
    · rintro ⟨n, t⟩ ⟨n', t'⟩ ⟨hn, ht⟩
      dsimp only at hn ⊢
      rw [hn]

/-- Tables with the same names of the same attributes. -/
def TablesRel (m m' : EntityModel) : Prop :=
  List.Forall₂ (EntryRel Field.Loosens) m.fields m'.fields

theorem model_rel (h : s.Loosens s') (type : FieldType) :
    OutcomeRel TablesRel (s.model type) (s'.model type) := by
  by_cases hentity : ∃ name, type = .entity name
  · obtain ⟨name, rfl⟩ := hentity
    rw [model_entity, model_entity]
    exact (h.attributes_rel name).map fun _ _ hattributes => rel_fieldTable hattributes
  · unfold model
    cases type.isKey with
    | false => exact .error _
    | true =>
      cases type with
      | entity name => exact (hentity ⟨name, rfl⟩).elim
      | _ => exact .ok .nil

/-- Types without fields, in tables of their own. -/
theorem model_of_isAtomic {t : FieldType} (ht : t.isAtomic ∨ t = .any) (s : Schema) :
    s.model t = .ok ⟨t, [], none⟩ := by
  rcases ht with ht | rfl
  · obtain ⟨k, rfl⟩ | ⟨name, rfl⟩ := FieldType.exists_of_isAtomic ht <;> rfl
  · rfl

theorem fieldsOf?_of_isAtomic {t : FieldType} (ht : t.isAtomic ∨ t = .any) (s : Schema)
    (mode : PathMode) (segments : List String) :
    s.fieldsOf? mode t segments = .ok (if segments = [] then some [] else none) := by
  cases segments with
  | nil => rfl
  | cons segment rest =>
    have hreachable : s.isReachable t := by
      rcases ht with ht | rfl
      · obtain ⟨k, rfl⟩ | ⟨name, rfl⟩ := FieldType.exists_of_isAtomic ht <;> rfl
      · rfl
    rw [fieldsOf?, model_of_isAtomic ht]
    split
    · rfl
    · simp [hreachable, EntityModel.lookup, lookup?]

/-- What follows a field is found beyond one that may hold anything instead, namely nothing. -/
theorem fieldsOf?_rel_of_field {f f' : Field} (hf : f.Loosens f') {mode : PathMode}
    {rest : List String}
    (hrest : OutcomeRel (Option.Rel (List.Forall₂ Field.Loosens)) (s.fieldsOf? mode f.type rest)
      (s'.fieldsOf? mode f.type rest)) :
    OutcomeRel (Option.Rel (List.Forall₂ Field.Loosens))
      (match s.fieldsOf? mode f.type rest with
        | .error e => .error e
        | .ok fields? => .ok (fields?.map (f :: ·)))
      (match s'.fieldsOf? mode f'.type rest with
        | .error e => .error e
        | .ok fields? => .ok (fields?.map (f' :: ·))) := by
  have hlater : OutcomeRel (Option.Rel (List.Forall₂ Field.Loosens))
      (s.fieldsOf? mode f.type rest) (s'.fieldsOf? mode f'.type rest) := by
    rcases hf.type with heq | ⟨hatomic, hany⟩
    · rwa [heq]
    · rw [fieldsOf?_of_isAtomic (.inl hatomic), fieldsOf?_of_isAtomic (.inr hany)]
      split
      · exact .ok (.some .nil)
      · exact .ok .none
  revert hlater
  generalize s.fieldsOf? mode f.type rest = outcome, s'.fieldsOf? mode f'.type rest = outcome'
  rintro (⟨⟨hlater⟩ | _⟩ | e)
  · exact .ok (.some (.cons hf hlater))
  · exact .ok .none
  · exact .error e

theorem fieldsOf?_rel (h : s.Loosens s') (mode : PathMode) (segments : List String)
    (type : FieldType) :
    OutcomeRel (Option.Rel (List.Forall₂ Field.Loosens)) (s.fieldsOf? mode type segments)
      (s'.fieldsOf? mode type segments) := by
  induction segments generalizing type with
  | nil => exact .ok (.some .nil)
  | cons segment rest ih =>
    have hreachable : s'.isReachable type = s.isReachable type := by
      rw [isReachable, isReachable, h.nameless_eq]
    rw [fieldsOf?, fieldsOf?, hreachable]
    split
    · exact .ok .none
    · have hmodel := h.model_rel type
      revert hmodel
      generalize s.model type = outcome, s'.model type = outcome'
      rintro (⟨hm⟩ | e)
      · dsimp only
        split
        · exact .error _
        · have hlookup := rel_lookup? hm (normalizeProperty segment)
          simp only [EntityModel.lookup]
          revert hlookup
          generalize lookup? (normalizeProperty segment) _ = f?,
            lookup? (normalizeProperty segment) _ = f'?
          rintro (⟨hf⟩ | _)
          · simp only [hf.many_eq, hf.relation_eq]
            split
            · exact .ok .none
            · exact fieldsOf?_rel_of_field hf (ih _)
          · exact .ok .none
      · exact .error e

/-- A path is found over the same attributes, or fails for the same reason. -/
theorem resolve_rel (h : s.Loosens s') (mode : PathMode) (root : FieldType) (path : String) :
    OutcomeRel
      (Option.Rel fun p p' => p'.root = p.root ∧ List.Forall₂ Field.Loosens p.fields p'.fields)
      (s.resolve mode root path) (s'.resolve mode root path) := by
  unfold resolve
  split
  · exact .ok .none
  · have hfields := h.fieldsOf?_rel mode (Text.split '.' path) root
    revert hfields
    generalize s.fieldsOf? mode root _ = outcome, s'.fieldsOf? mode root _ = outcome'
    rintro (⟨⟨hfields⟩ | _⟩ | e)
    · exact .ok (.some ⟨rfl, hfields⟩)
    · dsimp only
      split
      · exact .ok .none
      · exact .error _
    · exact .error e

end Schema.Loosens

end PagedQuery
