import PagedQuery.Proofs.Library.Columns
import PagedQuery.Proofs.Schema.Closed

/-!
# Paths in a library

A path that both schemas of a library resolve alike, the one of its entities and the one of its
tables, leads over relations to one to a column. No path fails on either of them.
-/

namespace PagedQuery

namespace Sample

open PagedQuery.Text

/-- The types of all fields of a library. -/
def types : List FieldType :=
  Scalar.all.map .scalar ++ .enumeration "Genre" :: forms.map (.entity ·.type)

/-- The schema of tables does not depend on their rows. -/
theorem mappedDatabase_schema (books : List Value) :
    (mappedDatabase books).schema = (mappedDatabase []).schema := rfl

theorem exists_form {name : String} (h : FieldType.entity name ∈ types) :
    ∃ form ∈ forms, form.type = name := by
  simp only [types, List.mem_append, List.mem_cons, List.mem_map, reduceCtorEq, and_false,
    exists_false, false_or] at h
  obtain ⟨form, hform, heq⟩ := h
  exact ⟨form, hform, FieldType.entity.inj heq⟩

theorem closed_of_forms {s : Schema}
    (hknown : ∀ form ∈ forms, (s.attributes form.type).toOption.isSome)
    (hmem : ∀ form ∈ forms, ∀ f ∈ s.fieldsAt form.type, f.type ∈ types) : s.Closed types where
  isKey := by decide +kernel
  isSome_name? := by decide
  known := by
    intro name h
    obtain ⟨form, hform, rfl⟩ := exists_form h
    have hknown := hknown form hform
    cases ha : s.attributes form.type with
    | ok attributes => exact ⟨attributes, rfl⟩
    | error e =>
      rw [ha] at hknown
      cases hknown
  mem := by
    intro name h
    obtain ⟨form, hform, rfl⟩ := exists_form h
    exact hmem form hform

theorem schema_closed : schema.Closed types :=
  closed_of_forms (by decide +kernel) (by decide +kernel)

theorem mappedDatabase_closed (books : List Value) :
    (mappedDatabase books).schema.Closed types := by
  rw [mappedDatabase_schema]
  exact closed_of_forms (by decide) (by decide)

/-- Fields that lead from the entities of a table over relations to one to a column. -/
inductive Leads : TableForm → List Field → Prop
  | column {form : TableForm} {c : String × FieldType} (mem : c ∈ form.columns) :
    Leads form [⟨c.1, c.2, false, false⟩]
  | reference {form target : TableForm} {r : String × String × String} {fields : List Field}
    (mem : r ∈ form.references) (mem_forms : target ∈ forms) (type_eq : target.type = r.2.2)
    (rest : Leads target fields) : Leads form (⟨r.2.1, .entity target.type, false, true⟩ :: fields)

/-- A field that entities and tables declare alike is a column or a reference, unless it holds many
entities. -/
theorem declared_cases : ∀ form ∈ forms, ∀ f ∈ schema.fieldsAt form.type,
    f ∈ (mappedDatabase []).schema.fieldsAt form.type → f.many = false →
      (∃ c ∈ form.columns, f = ⟨c.1, c.2, false, false⟩) ∨
        ∃ r ∈ form.references, ∃ target ∈ forms, target.type = r.2.2 ∧
          f = ⟨r.2.1, .entity target.type, false, true⟩ := by
  decide +kernel

theorem columns_isDirect : ∀ form ∈ forms, ∀ c ∈ form.columns, c.2.isDirect := by
  decide

/-- Fields that both schemas find under the same names lead to a column. -/
theorem leads_of_fieldsOf? {segments : List String} {fields : List Field}
    (hne : segments ≠ []) {form : TableForm} (hform : form ∈ forms)
    (hdeclared : schema.fieldsOf? .value (.entity form.type) segments = .ok (some fields))
    (hstored : (mappedDatabase []).schema.fieldsOf? .value (.entity form.type) segments =
      .ok (some fields)) : Leads form fields := by
  induction segments generalizing form fields with
  | nil => exact (hne rfl).elim
  | cons segment rest ih =>
    obtain ⟨name, f, later, hname, hmem, rfl, hlater, hvalue⟩ := Schema.fieldsOf?_cons hdeclared
    obtain ⟨name', f', later', hname', hmem', heq, hlater', -⟩ := Schema.fieldsOf?_cons hstored
    obtain rfl := FieldType.entity.inj hname
    obtain rfl := FieldType.entity.inj hname'
    obtain ⟨rfl, rfl⟩ := List.cons.inj heq
    obtain ⟨hmany, hends⟩ := hvalue rfl
    rcases declared_cases form hform f hmem hmem' hmany with
      ⟨c, hc, rfl⟩ | ⟨r, hr, target, htarget, htype, rfl⟩
    · cases rest with
      | nil =>
        cases hlater
        exact .column hc
      | cons next rest =>
        -- Columns hold no entities, so that no field is found behind them.
        obtain ⟨name, _, _, hname, -⟩ := Schema.fieldsOf?_cons hlater
        have hdirect := columns_isDirect form hform c hc
        rw [show c.2 = .entity name from hname] at hdirect
        cases hdirect
    · have hrest : rest ≠ [] := fun h => Bool.noConfusion (hends h)
      exact .reference hr htarget htype (ih hrest htarget hlater hlater')

/-- The path of a property that the entities of a table and its rows declare alike. -/
structure Declares (form : TableForm) (property : String) (p : FieldPath) : Prop where
  declared : schema.resolve .value (.entity form.type) property = .ok (some p)
  stored : (mappedDatabase []).schema.resolve .value (.entity form.type) property = .ok (some p)

instance (form : TableForm) (property : String) (p : FieldPath) :
    Decidable (Declares form property p) :=
  decidable_of_iff (schema.resolvesTo (.entity form.type) property p ∧
      (mappedDatabase []).schema.resolvesTo (.entity form.type) property p)
    ⟨fun ⟨hdeclared, hstored⟩ =>
        ⟨Schema.resolvesTo_iff.mp hdeclared, Schema.resolvesTo_iff.mp hstored⟩,
      fun h => ⟨Schema.resolvesTo_iff.mpr h.declared, Schema.resolvesTo_iff.mpr h.stored⟩⟩

/-- All columns are declared alike but the prices, which are decimals of the entities. -/
theorem declares_column : ∀ form ∈ forms, ∀ c ∈ form.columns, c.2 ≠ .scalar .float →
    Declares form c.1 ⟨.entity form.type, [⟨c.1, c.2, false, false⟩]⟩ := by
  decide +kernel

theorem Declares.leads {form : TableForm} {property : String} {p : FieldPath}
    (h : Declares form property p) (hform : form ∈ forms) : Leads form p.fields := by
  refine leads_of_fieldsOf? ?_ hform (Schema.resolve_eq_some_iff.mp h.declared).2
    (Schema.resolve_eq_some_iff.mp h.stored).2
  exact fun hnil => splitChars_ne_nil '.' property.toList (List.map_eq_nil_iff.mp hnil)

end Sample

end PagedQuery
