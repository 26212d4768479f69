import PagedQuery.Proofs.Related

/-!
# Annotations

The attributes of an entity type come from its annotations and from those it inherits, the last one
of a name counting. All of them are looked up together: where one has no meaning all are read as
they are written, and any other fault is the fault of the type.
-/

namespace PagedQuery

section Keys

variable {α β : Type} {entries : List (String × α)}

/-- Entries of different keys are taken one key after the other. -/
theorem filterMap_of_nodup (f : String → α → Option β) (h : (entries.map (·.1)).Nodup) :
    (entries.filterMap fun e => (f e.1 e.2).map (e.1, ·)) =
      (entries.map (·.1)).filterMap fun k => ((lookup? k entries).bind (f k)).map (k, ·) := by
  rw [List.filterMap_map]
  refine List.filterMap_congr fun e he => ?_
  have hfound : lookup? e.1 entries = some e.2 := by
    simpa using lookup?_append_of_mem h he []
  simp [hfound]

theorem lookup?_filterMap (f : String → Option β) (keys : List String) (key : String) :
    lookup? key (keys.filterMap fun k => (f k).map (k, ·)) =
      if key ∈ keys then f key else none := by
  induction keys with
  | nil => rfl
  | cons k keys ih =>
    rw [List.filterMap_cons]
    by_cases hk : k = key
    · subst hk
      cases hf : f k <;> simp [lookup?, ih, hf]
    · cases hf : f k <;> simp [lookup?, ih, hk, Ne.symm hk]

end Keys

/-! ## Looking annotations up -/

section LookingUp

variable {annotations later : List (String × FieldType)} {n : String} {t u : FieldType}
  {fault : ExpressionError}

/-- All annotations with the expressions in them looked up. -/
def lookUpAll (annotations : List (String × FieldType)) :
    Except ExpressionError (List (String × FieldType)) :=
  annotations.mapM fun (n, t) => do return (n, ← t.lookUp)

/-- The fault of the first annotation that cannot be looked up. -/
def firstFault? (annotations : List (String × FieldType)) : Option ExpressionError :=
  annotations.findSome? fun e =>
    match e.2.lookUp with
    | .ok _ => none
    | .error fault => some fault

theorem firstFault?_cons_of_ok (h : t.lookUp = .ok u) :
    firstFault? ((n, t) :: annotations) = firstFault? annotations := by
  rw [firstFault?, List.findSome?_cons, h]
  rfl

theorem firstFault?_cons_of_error (h : t.lookUp = .error fault) :
    firstFault? ((n, t) :: annotations) = some fault := by
  rw [firstFault?, List.findSome?_cons, h]

theorem firstFault?_append (annotations later : List (String × FieldType)) :
    firstFault? (annotations ++ later) = (firstFault? annotations).or (firstFault? later) :=
  List.findSome?_append

theorem exists_lookUp_of_mem (h : firstFault? annotations = none) (ht : (n, t) ∈ annotations) :
    ∃ u, t.lookUp = .ok u := by
  have hnone := List.findSome?_eq_none_iff.mp h (n, t) ht
  cases hu : t.lookUp with
  | ok u => exact ⟨u, rfl⟩
  | error fault => simp [hu] at hnone

/-- Annotations of which one is another one that fails alike have the same first fault. -/
theorem firstFault?_exchange {R : FieldType → FieldType → Prop}
    (h : OutcomeRel R t.lookUp u.lookUp) :
    firstFault? (annotations ++ (n, u) :: later) = firstFault? (annotations ++ (n, t) :: later) := by
  rw [firstFault?_append, firstFault?_append]
  congr 1
  revert h
  cases ht : t.lookUp <;> cases hu : u.lookUp
  · rintro ⟨⟩
    rw [firstFault?_cons_of_error ht, firstFault?_cons_of_error hu]
  · rintro ⟨⟩
  · rintro ⟨⟩
  · rintro -
    rw [firstFault?_cons_of_ok ht, firstFault?_cons_of_ok hu]

/-- A type and what looking it up gives. -/
def LooksUp (t u : FieldType) : Prop := t.lookUp = .ok u

theorem lookUpAll_cons_of_ok (h : t.lookUp = .ok u) :
    lookUpAll ((n, t) :: annotations) = (lookUpAll annotations).map ((n, u) :: ·) := by
  unfold lookUpAll
  rw [List.mapM_cons]
  simp only [h]
  rfl

theorem lookUpAll_of_fault (h : firstFault? annotations = some fault) :
    lookUpAll annotations = .error fault := by
  induction annotations with
  | nil => cases h
  | cons e annotations ih =>
    obtain ⟨n, t⟩ := e
    cases ht : t.lookUp with
    | ok u =>
      rw [firstFault?_cons_of_ok ht] at h
      rw [lookUpAll_cons_of_ok ht, ih h]
      rfl
    | error e =>
      rw [firstFault?_cons_of_error ht] at h
      rw [lookUpAll, List.mapM_cons]
      simp only [ht, ← Option.some.inj h]
      rfl

theorem exists_lookUpAll (h : firstFault? annotations = none) :
    ∃ resolved, lookUpAll annotations = .ok resolved ∧
      List.Forall₂ (EntryRel LooksUp) annotations resolved := by
  induction annotations with
  | nil => exact ⟨[], rfl, .nil⟩
  | cons e annotations ih =>
    obtain ⟨n, t⟩ := e
    cases ht : t.lookUp with
    | ok u =>
      rw [firstFault?_cons_of_ok ht] at h
      obtain ⟨resolved, hresolved, hlooks⟩ := ih h
      refine ⟨(n, u) :: resolved, ?_, .cons ⟨rfl, ht⟩ hlooks⟩
      rw [lookUpAll_cons_of_ok ht, hresolved]
      rfl
    | error fault =>
      rw [firstFault?_cons_of_error ht] at h
      cases h

/-- How the annotations of a type are read, given the first fault among them. -/
def reading : Option ExpressionError → Except Fault (FieldType → Option FieldType)
  | none => .ok fun t => t.lookUp.toOption
  | some .meaningless => .ok some
  | some fault => .error (.expression fault)

end LookingUp

/-! ## Attributes -/

/-- Attributes with such names are no fields. -/
def isHidden (name : String) : Bool := name.toList.head? == some '_'

/-- The field of an annotation. -/
def FieldType.field? (name : String) (t : FieldType) : Option Field :=
  if isHidden name then none else t.describe? name

theorem FieldType.field?_eq_iff {t u : FieldType} {name : String} :
    u.field? name = t.field? name ↔ isHidden name ∨ u.describe? name = t.describe? name := by
  rw [field?, field?]
  cases isHidden name <;> simp

/-- The fields of annotations, each from the last one of its name. -/
theorem fields_of_putEntries (declared : List (String × FieldType)) :
    (((putEntries declared []).filter fun e => !isHidden e.1).filterMap fun e =>
        (e.2.describe? e.1).map (e.1, ·)) =
      (declared.map (·.1)).eraseDups.filterMap fun k =>
        ((lookup? k declared.reverse).bind (FieldType.field? k)).map (k, ·) := by
  have hempty : (([] : List (String × FieldType)).map (·.1)).Nodup := List.nodup_nil
  have hkeys : (putEntries declared []).map (·.1) = (declared.map (·.1)).eraseDups := by
    simp [keys_putEntries]
  have hfound : ∀ key, lookup? key (putEntries declared []) = lookup? key declared.reverse :=
    fun key => (lookup?_putEntries key declared []).trans Option.or_none
  have hfield : ∀ e ∈ putEntries declared [],
      (if !isHidden e.1 then (e.2.describe? e.1).map (e.1, ·) else none) =
        (e.2.field? e.1).map (e.1, ·) := fun e _ => by
    rw [FieldType.field?]
    cases isHidden e.1 <;> rfl
  rw [List.filterMap_filter, List.filterMap_congr hfield,
    filterMap_of_nodup FieldType.field? (nodup_putEntries declared hempty), hkeys]
  simp only [hfound]

namespace Schema

/-- The annotations of an entity type, inherited ones first. -/
def annotations (s : Schema) (name : String) : List (String × FieldType) :=
  (s.ancestry name).reverse.flatMap (·.fields)

/-- The annotation of an attribute: the last one of its name. -/
def annotation? (s : Schema) (name key : String) : Option FieldType :=
  lookup? key (s.annotations name).reverse

/-- The names of annotated attributes, in the order in which they come first. -/
def annotated (s : Schema) (name : String) : List String :=
  ((s.annotations name).map (·.1)).eraseDups

variable {s : Schema} {name : String}

theorem resolvedDeclarations_eq (s : Schema) (name : String) :
    s.resolvedDeclarations name =
      match lookUpAll (s.annotations name) with
      | .ok resolved => .ok (putEntries resolved [])
      | .error .meaningless => .ok (putEntries (s.annotations name) [])
      | .error e => .error (.expression e) := rfl

/-- The attributes of a class: each has the field of its own annotation, as all are read. -/
theorem attributes_of_class (h : s.stored? name = none) :
    s.attributes name = (reading (firstFault? (s.annotations name))).map fun read =>
      (s.annotated name).filterMap fun k =>
        (((s.annotation? name k).bind read).bind (FieldType.field? k)).map (k, ·) := by
  rw [attributes, h]
  dsimp only
  rw [resolvedDeclarations_eq]
  cases hfault : firstFault? (s.annotations name) with
  | none =>
    obtain ⟨resolved, hresolved, hlooks⟩ := exists_lookUpAll hfault
    rw [hresolved]
    refine congrArg Except.ok ((fields_of_putEntries resolved).trans ?_)
    rw [rel_keys hlooks, ← annotated]
    refine List.filterMap_congr fun k _ => ?_
    have hown := rel_lookup? (List.rel_reverse hlooks) k
    rw [← annotation?] at hown
    revert hown
    generalize s.annotation? name k = own?, lookup? k resolved.reverse = looked?
    rintro (⟨hlooked⟩ | _)
    · simp [show FieldType.lookUp _ = _ from hlooked, Except.toOption]
    · rfl
  | some fault =>
    rw [lookUpAll_of_fault hfault]
    cases fault with
    | meaningless =>
      refine congrArg Except.ok ((fields_of_putEntries _).trans ?_)
      simp only [annotated, annotation?, Option.bind_fun_some]
    | _ => rfl

/-- The attribute of a name that an entity type has. -/
def attribute? (s : Schema) (name key : String) : Except Fault (Option Field) :=
  (s.attributes name).map (lookup? key)

theorem attribute?_of_class (h : s.stored? name = none) (key : String) :
    s.attribute? name key = (reading (firstFault? (s.annotations name))).map fun read =>
      ((s.annotation? name key).bind read).bind (FieldType.field? key) := by
  rw [attribute?, attributes_of_class h]
  cases reading (firstFault? (s.annotations name)) with
  | error e => rfl
  | ok read =>
    refine congrArg Except.ok ((lookup?_filterMap _ _ _).trans ?_)
    split
    · rfl
    · next hkey =>
      have hnone : s.annotation? name key = none := by
        rw [annotation?, lookup?_eq_none_iff, List.map_reverse, List.mem_reverse]
        simpa [annotated] using hkey
      rw [hnone]
      rfl

/-! ## Exchanging one annotation -/

/-- A class that has the same annotations in two schemas but for one of them. -/
structure Reannotates (s s' : Schema) (name : String) (before : List (String × FieldType))
    (key : String) (t t' : FieldType) (after : List (String × FieldType)) : Prop where
  isClass : s.stored? name = none
  isClass' : s'.stored? name = none
  annotations_eq : s.annotations name = before ++ (key, t) :: after
  annotations_eq' : s'.annotations name = before ++ (key, t') :: after

theorem annotation?_of_annotations {before after : List (String × FieldType)} {key : String}
    {t : FieldType} (h : s.annotations name = before ++ (key, t) :: after) (k : String) :
    s.annotation? name k =
      (lookup? k after.reverse).or (if key = k then some t else lookup? k before.reverse) := by
  rw [annotation?, h, List.reverse_append, List.reverse_cons, List.append_assoc, lookup?_append]
  rfl

namespace Reannotates

variable {s s' : Schema} {name key : String} {before after : List (String × FieldType)}
  {t t' : FieldType}

theorem annotation?_of_overridden (h : Reannotates s s' name before key t t' after)
    (hover : key ∈ after.map (·.1)) : s'.annotation? name = s.annotation? name := by
  funext k
  rw [annotation?_of_annotations h.annotations_eq, annotation?_of_annotations h.annotations_eq']
  by_cases hk : key = k
  · subst hk
    have hlater : (lookup? key after.reverse).isSome :=
      isSome_lookup?_iff.mpr (by simpa using hover)
    obtain ⟨u, hu⟩ := Option.isSome_iff_exists.mp hlater
    rw [hu, Option.some_or, Option.some_or]
  · rw [if_neg hk, if_neg hk]

theorem annotation?_of_not_overridden (h : Reannotates s s' name before key t t' after)
    (hover : key ∉ after.map (·.1)) :
    s.annotation? name key = some t ∧ s'.annotation? name key = some t' ∧
      ∀ k, key ≠ k → s'.annotation? name k = s.annotation? name k := by
  have hlater : lookup? key after.reverse = none := lookup?_eq_none_iff.mpr (by simpa using hover)
  have hown := annotation?_of_annotations h.annotations_eq
  have hown' := annotation?_of_annotations h.annotations_eq'
  refine ⟨?_, ?_, fun k hk => ?_⟩
  · rw [hown, hlater, if_pos rfl, Option.none_or]
  · rw [hown', hlater, if_pos rfl, Option.none_or]
  · rw [hown, hown', if_neg hk, if_neg hk]

/-- The attributes are the same if the annotation is overridden or has the same field as it is
read. -/
theorem attributes_eq_iff_reading (h : Reannotates s s' name before key t t' after)
    {R : FieldType → FieldType → Prop} (hlooks : OutcomeRel R t.lookUp t'.lookUp) :
    s'.attributes name = s.attributes name ↔ key ∈ after.map (·.1) ∨
      ∀ read, reading (firstFault? (s.annotations name)) = .ok read →
        (read t').bind (FieldType.field? key) = (read t).bind (FieldType.field? key) := by
  have hfault : firstFault? (s'.annotations name) = firstFault? (s.annotations name) := by
    rw [h.annotations_eq, h.annotations_eq', firstFault?_exchange hlooks]
  have hannotated : s'.annotated name = s.annotated name := by
    simp [annotated, h.annotations_eq, h.annotations_eq']
  by_cases hover : key ∈ after.map (·.1)
  · refine iff_of_true ?_ (.inl hover)
    rw [attributes_of_class h.isClass, attributes_of_class h.isClass', hfault, hannotated,
      h.annotation?_of_overridden hover]
  · obtain ⟨hown, hown', hothers⟩ := h.annotation?_of_not_overridden hover
    rw [or_iff_right hover]
    constructor
    · intro heq read hread
      have hfield : s'.attribute? name key = s.attribute? name key := by
        rw [attribute?, attribute?, heq]
      rw [attribute?_of_class h.isClass, attribute?_of_class h.isClass', hfault, hread, hown,
        hown'] at hfield
      exact Except.ok.inj hfield
    · intro hfields
      rw [attributes_of_class h.isClass, attributes_of_class h.isClass', hfault, hannotated]
      cases hread : reading (firstFault? (s.annotations name)) with
      | error e => rfl
      | ok read =>
        refine congrArg Except.ok (List.filterMap_congr fun k _ => ?_)
        by_cases hk : key = k
        · subst hk
          rw [hown, hown']
          exact congrArg _ (hfields read hread)
        · rw [hothers k hk]

/-- The attributes are the same if the annotation is overridden or has the same field as it is
looked up, or as it is written where some annotation has no meaning. -/
theorem attributes_eq_iff (h : Reannotates s s' name before key t t' after) {P Q : Prop}
    (hlooks : OutcomeRel (fun u u' => u'.field? key = u.field? key ↔ P) t.lookUp t'.lookUp)
    (hwritten : t'.field? key = t.field? key ↔ Q) :
    s'.attributes name = s.attributes name ↔ key ∈ after.map (·.1) ∨
      (firstFault? (s.annotations name) = none → P) ∧
        (firstFault? (s.annotations name) = some .meaningless → Q) := by
  rw [h.attributes_eq_iff_reading hlooks]
  refine or_congr_right ?_
  cases hfault : firstFault? (s.annotations name) with
  | none =>
    have hmem : (key, t) ∈ s.annotations name := by simp [h.annotations_eq]
    obtain ⟨u, hu⟩ := exists_lookUp_of_mem hfault hmem
    rw [hu] at hlooks
    cases hu' : t'.lookUp with
    | error e =>
      rw [hu'] at hlooks
      cases hlooks
    | ok u' =>
      rw [hu'] at hlooks
      cases hlooks with
      | ok hiff => simp [reading, hu, hu', Except.toOption, hiff]
  | some fault => cases fault <;> simp [reading, hwritten]

end Reannotates

end Schema

end PagedQuery
