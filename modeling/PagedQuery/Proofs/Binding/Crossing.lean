import PagedQuery.Proofs.Binding.Skipped
import PagedQuery.Proofs.Schema.Closed
import PagedQuery.Proofs.Text.Dotted
import PagedQuery.Sample.Library

/-!
# What paths lead over

A path is found exactly if its segments name fields one after the other, where a path of values
crosses no collection and ends at no relation. Only relations lead to types with fields, so that all
fields of a path but the last are relations. On every value the path gives one value.
-/

namespace PagedQuery

open PagedQuery.Text

/-! ## Reading a path -/

namespace FieldPath

variable {fields : List Field} {v w : Value}

/-- What fields give one after the other: nothing beyond a missing value, and nothing beyond an
attribute that a value does not have. -/
inductive Gives : List Field → Value → Value → Prop
  | done (v : Value) : Gives [] v v
  | missing {f : Field} {rest : List Field} {v : Value} (h : v.isNull) : Gives (f :: rest) v .null
  | absent {f : Field} {rest : List Field} {v : Value} (h : v.isNull = false)
      (hf : v.attribute? f.name = none) : Gives (f :: rest) v .null
  | found {f : Field} {rest : List Field} {v held w : Value} (h : v.isNull = false)
      (hf : v.attribute? f.name = some held) (hrest : Gives rest held w) : Gives (f :: rest) v w

theorem gives_follow (fields : List Field) (v : Value) : Gives fields v (follow fields v) := by
  induction fields generalizing v with
  | nil => exact .done v
  | cons f rest ih =>
    rw [follow]
    split
    · next hnull => exact .missing hnull
    · next hnull =>
      rw [Bool.not_eq_true] at hnull
      cases hf : v.attribute? f.name with
      | none =>
        rw [Option.getD_none, follow_eq_null rfl]
        exact .absent hnull hf
      | some held => exact .found hnull hf (ih held)

/-- On every value fields give one value. -/
theorem gives_iff : Gives fields v w ↔ follow fields v = w := by
  constructor
  · intro h
    induction h with
    | done v => rfl
    | missing h => rw [follow, if_pos h]
    | absent h hf =>
      rw [follow, if_neg (Bool.eq_false_iff.mp h), hf]
      exact follow_eq_null rfl
    | found h hf _ ih => rw [follow, if_neg (Bool.eq_false_iff.mp h), hf, Option.getD_some, ih]
  · rintro rfl
    exact gives_follow fields v

end FieldPath

/-! ## Relations -/

/-- What is described as a field of entities is a relation. -/
theorem FieldType.relation_of_describe? {t : FieldType} {name entity : String} {f : Field}
    (h : t.describe? name = some f) (htype : f.type = .entity entity) : f.relation = true := by
  unfold describe? at h
  split at h
  · cases h
  · obtain rfl := Option.some.inj h
    clear h
    split at htype
    · split at htype
      · next hcollection =>
        dsimp only at htype
        simp only [hcollection, if_true, htype]
        rfl
      · cases htype
    · cases htype
    · cases htype
    · cases htype
    · dsimp only at htype
      simp only [htype]
      rfl

namespace Schema

variable {s : Schema} {mode : PathMode} {type : FieldType} {segments : List String}
  {fields : List Field} {name : String}

/-- No column of a table is declared to hold entities. What leads to these are relations. -/
def ColumnsHoldValues (s : Schema) : Prop :=
  ∀ t ∈ s.stored, ∀ f ∈ t.fields, f.relation = false → ∀ name, f.type ≠ .entity name

/-- The tables of a database have such columns if no column of them is declared otherwise. -/
theorem columnsHoldValues_ofTables {enumerations : List Enumeration} {tables : List Table}
    (h : ∀ t ∈ tables, ∀ c ∈ t.columns, ∀ name, c.type ≠ .entity name) :
    (Database.ofTables enumerations tables).schema.ColumnsHoldValues := by
  intro stored hstored f hf hvalue
  obtain ⟨t, ht, rfl⟩ := List.mem_map.mp hstored
  rcases List.mem_append.mp hf with hcolumn | hrelation
  · obtain ⟨c, hc, rfl⟩ := List.mem_map.mp hcolumn
    exact h t ht c hc
  · obtain ⟨r, -, rfl⟩ := List.mem_map.mp hrelation
    cases hvalue

/-- The attributes of an entity type without a table are described by declared types. -/
theorem exists_describe? {attributes : List (String × Field)} {n : String} {f : Field}
    (hplain : s.stored? name = none) (ha : s.attributes name = .ok attributes)
    (hmem : (n, f) ∈ attributes) : ∃ t : FieldType, t.describe? n = some f := by
  unfold Schema.attributes at ha
  rw [hplain] at ha
  cases hd : s.resolvedDeclarations name with
  | error e =>
    rw [hd] at ha
    cases ha
  | ok declared =>
    rw [hd] at ha
    cases ha
    obtain ⟨⟨declaredName, t⟩, -, hfield⟩ := List.mem_filterMap.mp hmem
    obtain ⟨f, hdescribed, heq⟩ := Option.map_eq_some_iff.mp hfield
    cases heq
    exact ⟨t, hdescribed⟩

/-- The attributes that lead to entities are relations. -/
theorem ColumnsHoldValues.relation (h : s.ColumnsHoldValues) {f : Field}
    (hf : f ∈ s.fieldsAt name) {entity : String} (htype : f.type = .entity entity) :
    f.relation = true := by
  unfold fieldsAt at hf
  cases ha : s.attributes name with
  | error e =>
    rw [ha] at hf
    cases hf
  | ok attributes =>
    rw [ha] at hf
    obtain ⟨⟨n, f⟩, hmem, rfl⟩ := List.mem_map.mp hf
    cases ht : s.stored? name with
    | some t =>
      unfold Schema.attributes at ha
      rw [ht] at ha
      cases ha
      obtain ⟨column, hcolumn, heq⟩ := List.mem_map.mp hmem
      cases heq
      by_contra hvalue
      exact h t (List.mem_of_find?_eq_some ht) column hcolumn (Bool.eq_false_iff.mpr hvalue) _ htype
    | none =>
      obtain ⟨t, hdescribed⟩ := exists_describe? ht ha hmem
      exact FieldType.relation_of_describe? hdescribed htype

/-! ## Fields of a path -/

/-- Segments name fields one after the other: none of them is empty, and each is found in the table
of the type that the ones before it lead to. -/
inductive Names (s : Schema) : FieldType → List String → List Field → Prop
  | nil {type : FieldType} : Names s type [] []
  | cons {type : FieldType} {segment : String} {rest : List String} {m : EntityModel} {f : Field}
      {fields : List Field} (hne : segment ≠ "") (hm : s.model type = .ok m)
      (hf : m.lookup segment = some f) (hrest : Names s f.type rest fields) :
      Names s type (segment :: rest) (f :: fields)

theorem Names.length_eq (h : s.Names type segments fields) : fields.length = segments.length := by
  induction h with
  | nil => rfl
  | cons _ _ _ _ ih => rw [List.length_cons, List.length_cons, ih]

/-- Whatever comes after a field of a path, the field is a relation. -/
theorem Names.relation_of_mem_dropLast (h : s.Names type segments fields)
    (hcolumns : s.ColumnsHoldValues) : ∀ f ∈ fields.dropLast, f.relation = true := by
  induction h with
  | nil => simp
  | @cons type segment rest m f fields hne hm hf hrest ih =>
    cases hrest with
    | nil => simp
    | @cons _ next later nextModel g others _ hnext hg _ =>
      rw [List.dropLast_cons_cons, List.forall_mem_cons]
      refine ⟨?_, ih⟩
      obtain ⟨owner, -, howner⟩ := mem_fieldsAt_of_lookup hm hf
      obtain ⟨entity, hentity, -⟩ := mem_fieldsAt_of_lookup hnext hg
      exact hcolumns.relation howner hentity

/-- A type with fields has a name, so that paths may lead to it. -/
theorem isReachable_of_lookup {m : EntityModel} {segment : String} {f : Field}
    (hm : s.model type = .ok m) (hf : m.lookup segment = some f) : s.isReachable type := by
  obtain ⟨entity, rfl, -⟩ := mem_fieldsAt_of_lookup hm hf
  rfl

/-- The fields of segments are those that they name; on the way to a value there is no collection,
and no relation is the value. -/
theorem fieldsOf?_eq_some_iff_names : s.fieldsOf? mode type segments = .ok (some fields) ↔
    s.Names type segments fields ∧ (mode = .value →
      (∀ f ∈ fields, f.many = false) ∧ ∀ f ∈ fields.getLast?, f.relation = false) := by
  induction segments generalizing type fields with
  | nil =>
    rw [fieldsOf?, Except.ok.injEq, Option.some.injEq]
    constructor
    · rintro rfl
      exact ⟨.nil, by simp⟩
    · rintro ⟨hnames, -⟩
      cases hnames
      rfl
  | cons segment rest ih =>
    rw [fieldsOf?_cons_eq_some_iff]
    constructor
    · rintro ⟨hne, m, f, later, hm, -, hf, rfl, hlater, hends⟩
      obtain ⟨hnames, hvalue⟩ := ih.mp hlater
      refine ⟨.cons hne hm hf hnames, fun hmode => ?_⟩
      obtain ⟨hmany, hlast⟩ := hvalue hmode
      refine ⟨List.forall_mem_cons.mpr ⟨(hends hmode).1, hmany⟩, ?_⟩
      cases hnames with
      | nil => simpa using (hends hmode).2 rfl
      | cons => rwa [List.getLast?_cons_cons]
    · rintro ⟨hnames, hvalue⟩
      cases hnames with
      | @cons _ _ _ m f later hne hm hf hrest =>
        refine ⟨hne, m, f, later, hm, isReachable_of_lookup hm hf, hf, rfl,
          ih.mpr ⟨hrest, fun hmode => ?_⟩, fun hmode => ?_⟩
        · obtain ⟨hmany, hlast⟩ := hvalue hmode
          refine ⟨(List.forall_mem_cons.mp hmany).2, ?_⟩
          cases hrest with
          | nil => simp
          | cons => rwa [List.getLast?_cons_cons] at hlast
        · obtain ⟨hmany, hlast⟩ := hvalue hmode
          refine ⟨(List.forall_mem_cons.mp hmany).1, ?_⟩
          rintro rfl
          cases hrest
          exact hlast f rfl

/-- The paths that are loaded lead over relations. -/
theorem relation_of_bindIncludes {root : FieldType} {graph : Option IncludeGraph}
    {bound : List FieldPath} {skipped : List String}
    (h : s.bindIncludes root graph = .ok (bound, skipped)) :
    ∀ p ∈ bound, ∀ f ∈ p.fields, f.relation = true := by
  intro p hp
  obtain ⟨rfl, -, -⟩ := bindEach_ok h
  obtain ⟨path, -, hfound⟩ := List.mem_filterMap.mp hp
  rw [found?_bindInclude, relationPath?] at hfound
  split at hfound
  · split at hfound
    · next hall =>
      cases hfound
      exact List.all_eq_true.mp hall
    · cases hfound
  · cases hfound

end Schema

namespace Sample

/-- The columns of the sample library hold no entities, whatever is in its tables. -/
theorem mappedDatabase_columnsHoldValues (books : List Value) :
    (mappedDatabase books).schema.ColumnsHoldValues := by
  have hforms : ∀ form ∈ forms, ∀ c ∈ columnsOf form, c.type.isDirect := by decide
  have hgadgets : ∀ c ∈ gadgets.columns, c.type.isDirect := by decide
  refine Schema.columnsHoldValues_ofTables fun t ht c hc entity htype => ?_
  have hdirect : c.type.isDirect := by
    rcases List.mem_append.mp ht with ht | ht
    · obtain ⟨form, hform, rfl⟩ := List.mem_map.mp ht
      exact hforms form hform c hc
    · rw [List.mem_singleton.mp ht] at hc
      exact hgadgets c hc
  rw [htype] at hdirect
  cases hdirect

/-- The name of the publisher of a book's category. -/
def publisherName : FieldPath :=
  ⟨.entity "Book", [⟨"category", .entity "Category", false, true⟩,
    ⟨"publisher", .entity "Publisher", false, true⟩, ⟨"name", .scalar .text, false, false⟩]⟩

end Sample

end PagedQuery
