import PagedQuery.Proofs.Library.Paths
import PagedQuery.Proofs.Sources.ToOne

/-!
# The rows of a library

Every entity that the books of a library lead to has one row, and the columns of a relation to one
hold its key. So following relations from row to row is following them from entity to entity, and
the cell at the end of a path is that of the value at its end.
-/

namespace PagedQuery

def Value.isInt : Value → Bool
  | .int _ => true
  | _ => false

theorem Value.isInt_iff {v : Value} : v.isInt ↔ ∃ n, v = .int n := by
  cases v <;> simp [isInt]

namespace Sample

@[simp] theorem fieldOf_null (name : String) : fieldOf name .null = .null := rfl

@[simp] theorem follow_null (fields : List Field) : FieldPath.follow fields .null = .null :=
  FieldPath.follow_eq_null rfl

@[simp] theorem follow_cons (f : Field) (rest : List Field) (v : Value) :
    FieldPath.follow (f :: rest) v = FieldPath.follow rest (fieldOf f.name v) := by
  rw [FieldPath.follow]
  split
  · next h =>
    rw [Value.isNull_iff.mp h, fieldOf_null, follow_null]
  · rfl

section Distinct

variable {vs : List Value} {v : Value}

/-- Entities are kept unless they are missing, each identity once. -/
theorem mem_of_mem_distinct (h : v ∈ distinct vs) : v ∈ vs ∧ v.isNull = false := by
  induction vs using List.reverseRecOn with
  | nil => cases h
  | append_singleton vs w ih =>
    rw [distinct, List.foldl_append, List.foldl_cons, List.foldl_nil] at h
    split at h
    · exact ⟨List.mem_append_left _ (ih h).1, (ih h).2⟩
    · next hnew =>
      rcases List.mem_append.mp h with h | h
      · exact ⟨List.mem_append_left _ (ih h).1, (ih h).2⟩
      · obtain rfl := List.mem_singleton.mp h
        simp only [Bool.or_eq_true, not_or, Bool.not_eq_true] at hnew
        exact ⟨List.mem_append_right _ List.mem_cons_self, hnew.1⟩

theorem exists_mem_distinct (hv : v ∈ vs) (hnull : v.isNull = false) :
    ∃ w ∈ distinct vs, identity w = identity v := by
  induction vs using List.reverseRecOn with
  | nil => cases hv
  | append_singleton vs w ih =>
    rw [distinct, List.foldl_append, List.foldl_cons, List.foldl_nil]
    rcases List.mem_append.mp hv with hv | hv
    · obtain ⟨u, hu, hid⟩ := ih hv
      split
      · exact ⟨u, hu, hid⟩
      · exact ⟨u, List.mem_append_left _ hu, hid⟩
    · obtain rfl := List.mem_singleton.mp hv
      split
      · next hseen =>
        rw [hnull, Bool.false_or, List.any_eq_true] at hseen
        obtain ⟨u, hu, hid⟩ := hseen
        exact ⟨u, hu, beq_iff_eq.mp hid⟩
      · exact ⟨v, List.mem_append_right _ List.mem_cons_self, rfl⟩

end Distinct

/-- An entity that a row of a table describes: it has a key, and its columns hold values of their
types. -/
structure Described (form : TableForm) (v : Value) : Prop where
  key : ∃ n : Int, fieldOf "id" v = .int n
  holds : ∀ c ∈ form.columns, Holds c.2 (fieldOf c.1 v)

instance (form : TableForm) (v : Value) : Decidable (Described form v) :=
  decidable_of_iff ((fieldOf "id" v).isInt ∧ ∀ c ∈ form.columns, Holds c.2 (fieldOf c.1 v))
    ⟨fun ⟨key, holds⟩ => ⟨Value.isInt_iff.mp key, holds⟩,
      fun h => ⟨Value.isInt_iff.mpr h.key, h.holds⟩⟩

/-- A library that can be put into tables: its entities fit the rows of their tables, and those of
one table have keys of their own. -/
structure Library (books : List Value) : Prop where
  keys : ∀ form ∈ forms, ((entitiesOf form.type books).map (fieldOf "id")).Nodup
  described : ∀ form ∈ forms, ∀ v ∈ entitiesOf form.type books, Described form v
  /-- Values of one identity are one object. -/
  objects : ∀ form ∈ forms, ∀ v ∈ reached form.type books, ∀ w ∈ reached form.type books,
    v.isNull = false → w.isNull = false → identity v = identity w → v = w

theorem eq_null_or_mem (vs : List Value) (i : Nat) :
    (vs[i]?).getD .null = .null ∨ (vs[i]?).getD .null ∈ vs := by
  cases h : vs[i]? with
  | none => exact .inl rfl
  | some v => exact .inr (List.mem_of_getElem? h)

/-- The books of the sample share entities of identities of their own. -/
theorem exists_known (count : Nat) : ∀ form ∈ forms, ∃ known : List Value,
    (known.map identity).Nodup ∧
      ∀ v ∈ reached form.type (books count), v = .null ∨ v ∈ known := by
  have hcategory : ∀ i, fieldOf "category" (book i) = .null ∨
      fieldOf "category" (book i) ∈ categories := fun i => eq_null_or_mem categories (i % 3)
  intro form hform
  simp only [forms, List.mem_cons, List.not_mem_nil, or_false] at hform
  rcases hform with rfl | rfl | rfl | rfl | rfl
  · refine ⟨(categories.map (fieldOf "publisher")).filter (!·.isNull), by decide,
      fun v hv => ?_⟩
    obtain ⟨b, hb, rfl⟩ := List.mem_map.mp hv
    obtain ⟨i, -, rfl⟩ := List.mem_map.mp hb
    rcases hcategory i with heq | hmem
    · exact .inl (by rw [heq, fieldOf_null])
    · cases hnull : (fieldOf "publisher" (fieldOf "category" (book i))).isNull with
      | true => exact .inl (Value.isNull_iff.mp hnull)
      | false => exact .inr (List.mem_filter.mpr ⟨List.mem_map_of_mem hmem, by rw [hnull]; rfl⟩)
  · refine ⟨categories, by decide, fun v hv => ?_⟩
    obtain ⟨b, hb, rfl⟩ := List.mem_map.mp hv
    obtain ⟨i, -, rfl⟩ := List.mem_map.mp hb
    exact hcategory i
  · refine ⟨authors, by decide, fun v hv => ?_⟩
    obtain ⟨b, hb, rfl⟩ := List.mem_map.mp hv
    obtain ⟨i, -, rfl⟩ := List.mem_map.mp hb
    have hauthor : fieldOf "author" (book i) =
        if i % 5 = 0 then .null else (authors[i % 2]?).getD .null := rfl
    rw [hauthor]
    split
    · exact .inl rfl
    · exact eq_null_or_mem authors (i % 2)
  · exact ⟨[], List.nodup_nil, fun v hv => absurd hv List.not_mem_nil⟩
  · exact ⟨[], List.nodup_nil, fun v hv => absurd hv List.not_mem_nil⟩

theorem library_books : Library (books 4) where
  keys := by
    intro form hform
    refine List.Nodup.of_map (fun | .int n => n | _ => 0) ?_
    revert form
    decide
  described := by decide
  objects := by
    intro form hform v hv w hw hv' hw' hid
    obtain ⟨known, hnodup, hknown⟩ := exists_known 4 form hform
    have hmem : ∀ u ∈ reached form.type (books 4), u.isNull = false → u ∈ known := fun u hu hu' =>
      (hknown u hu).resolve_left fun heq => by
        rw [heq] at hu'
        cases hu'
    exact List.inj_on_of_nodup_map hnodup (hmem v hv hv') (hmem w hw hw') hid

/-! ## Cells -/

theorem names_nodup : ∀ form ∈ forms,
    (form.columns.map (·.1) ++ form.references.map (·.1)).Nodup := by
  decide

variable {form target : TableForm} {v : Value} {more : List (String × Cell)}

/-- The cells that an entity holds itself. -/
theorem cell_of_mem (hform : form ∈ forms) {column : String} {c : Cell}
    (h : (column, c) ∈ form.columns.map (fun (n, _) => (n, cellOf (fieldOf n v))) ++
      form.references.map fun (column, field, _) =>
        (column, cellOf (fieldOf "id" (fieldOf field v)))) :
    (rowOf form v more).cell column = c := by
  have hnodup := names_nodup form hform
  rw [Row.cell, rowOf, lookup?_append_of_mem ?_ h more]
  · rfl
  · simpa [List.map_map, Function.comp_def] using hnodup

theorem cell_column (hform : form ∈ forms) {c : String × FieldType} (hc : c ∈ form.columns) :
    (rowOf form v more).cell c.1 = cellOf (fieldOf c.1 v) :=
  cell_of_mem hform (List.mem_append_left _ (List.mem_map.mpr ⟨c, hc, rfl⟩))

theorem cell_reference (hform : form ∈ forms) {r : String × String × String}
    (hr : r ∈ form.references) :
    (rowOf form v more).cell r.1 = cellOf (fieldOf "id" (fieldOf r.2.1 v)) :=
  cell_of_mem hform (List.mem_append_right _ (List.mem_map.mpr ⟨r, hr, rfl⟩))

/-! ## Tables -/

theorem table?_mappedDatabase (books : List Value) (hform : form ∈ forms) :
    (mappedDatabase books).table? form.type = some (mappedTable books form) := by
  simp only [forms, List.mem_cons, List.not_mem_nil, or_false] at hform
  rcases hform with rfl | rfl | rfl | rfl | rfl <;> rfl

theorem relation?_mappedTable (books : List Value) (hform : form ∈ forms)
    {r : String × String × String} (hr : r ∈ form.references) :
    (mappedTable books form).relation? r.2.1 = some ⟨r.2.1, r.2.2, r.1, false⟩ := by
  simp only [forms, List.mem_cons, List.not_mem_nil, or_false] at hform
  rcases hform with rfl | rfl | rfl | rfl | rfl <;>
    simp only [List.mem_cons, List.not_mem_nil, or_false] at hr
  · subst hr
    rfl
  · rcases hr with rfl | rfl <;> rfl

theorem id_mem_columns : ∀ form ∈ forms, ("id", .scalar .int) ∈ form.columns := by
  decide

theorem Described.holdsInteger (h : Described form v) (hform : form ∈ forms) {n : Int}
    (hid : fieldOf "id" v = .int n) : Cell.holdsInteger n := by
  have hholds : Holds (.scalar .int) (fieldOf "id" v) := h.holds _ (id_mem_columns form hform)
  rw [hid] at hholds
  rcases hholds with hnull | hstores
  · cases hnull
  · cases hstores with
    | int hn => exact hn

theorem key_rowOf {n : Int} (hid : fieldOf "id" v = .int n) : (rowOf form v more).key = n := by
  simp [rowOf, hid]

theorem map_fst_entriesOf (form : TableForm) (books : List Value) :
    (entriesOf form books).map (·.1) = entitiesOf form.type books := by
  unfold entriesOf
  split
  · next hreview =>
    rw [hreview, List.map_flatMap]
    refine List.flatMap_congr fun b _ => ?_
    rw [List.map_map, Function.comp_def, List.map_id']
    exact List.append_nil _
  · rw [List.map_map, Function.comp_def, List.map_id']

theorem mem_rows_iff {books : List Value} {row : Row} :
    row ∈ (mappedTable books form).rows ↔
      ∃ e ∈ entriesOf form books, rowOf form e.1 e.2 = row := by
  change row ∈ rowsOf form books ↔ _
  rw [rowsOf, List.mem_mergeSort, List.mem_map]

/-- Relations lead from the entities of a library to entities of it. -/
theorem mem_reached {books : List Value} (hform : form ∈ forms) {r : String × String × String}
    (hr : r ∈ form.references) (hv : v ∈ entitiesOf form.type books) :
    fieldOf r.2.1 v ∈ reached r.2.2 books := by
  simp only [forms, List.mem_cons, List.not_mem_nil, or_false] at hform
  rcases hform with rfl | rfl | rfl | rfl | rfl <;>
    simp only [List.mem_cons, List.not_mem_nil, or_false] at hr
  · subst hr
    obtain ⟨b, hb, rfl⟩ := List.mem_map.mp (mem_of_mem_distinct hv).1
    exact List.mem_map.mpr ⟨b, hb, rfl⟩
  · rcases hr with rfl | rfl
    · exact List.mem_map.mpr ⟨v, hv, rfl⟩
    · exact List.mem_map.mpr ⟨v, hv, rfl⟩

/-- The row of a value with its table, none of a missing value. -/
inductive RowAt (books : List Value) (form : TableForm) : Value → Option (Table × Row) → Prop
  | missing : RowAt books form .null none
  | present {v : Value} (mem : v ∈ entitiesOf form.type books) (more : List (String × Cell)) :
    RowAt books form v (some (mappedTable books form, rowOf form v more))

/-- The cell of a row that may be missing. -/
def cellIn (row? : Option (Table × Row)) (column : String) : Cell :=
  match row? with
  | some (_, row) => row.cell column
  | none => .null

namespace Library

variable {books : List Value} (h : Library books)

include h

theorem eq_of_id (hform : form ∈ forms) {w : Value} (hv : v ∈ entitiesOf form.type books)
    (hw : w ∈ entitiesOf form.type books) (hid : fieldOf "id" v = fieldOf "id" w) : v = w :=
  List.inj_on_of_nodup_map (h.keys form hform) hv hw hid

/-- What a relation leads to is missing or has a row. -/
theorem mem_entitiesOf (hform : form ∈ forms) (hv : v ∈ reached form.type books)
    (hnull : v.isNull = false) : v ∈ entitiesOf form.type books := by
  have hdistinct : v ∈ distinct (reached form.type books) := by
    obtain ⟨w, hw, hid⟩ := exists_mem_distinct hv hnull
    obtain ⟨hmem, hpresent⟩ := mem_of_mem_distinct hw
    exact h.objects form hform v hv w hmem hnull hpresent hid.symm ▸ hw
  simp only [forms, List.mem_cons, List.not_mem_nil, or_false] at hform
  rcases hform with rfl | rfl | rfl | rfl | rfl
  · exact hdistinct
  · exact hdistinct
  · exact hdistinct
  · cases hv
  · cases hv

/-- The row with the key of an entity is the row of the entity. -/
theorem row?_eq (hform : form ∈ forms) (hv : v ∈ entitiesOf form.type books) {n : Int}
    (hid : fieldOf "id" v = .int n) :
    ∃ more, (mappedTable books form).row? n = some (rowOf form v more) := by
  unfold Table.row?
  cases hfind : (mappedTable books form).rows.find? (·.key == n) with
  | none =>
    rw [← map_fst_entriesOf form books] at hv
    obtain ⟨e, he, rfl⟩ := List.mem_map.mp hv
    have hkey := List.find?_eq_none.mp hfind _ (mem_rows_iff.mpr ⟨e, he, rfl⟩)
    rw [key_rowOf hid, beq_self_eq_true] at hkey
    exact (hkey rfl).elim
  | some row =>
    obtain ⟨e, he, rfl⟩ := mem_rows_iff.mp (List.mem_of_find?_eq_some hfind)
    have hw : e.1 ∈ entitiesOf form.type books :=
      map_fst_entriesOf form books ▸ List.mem_map_of_mem he
    obtain ⟨m, hm⟩ := (h.described form hform e.1 hw).key
    have hkey := List.find?_some hfind
    rw [key_rowOf hm, beq_iff_eq] at hkey
    exact ⟨e.2, by rw [h.eq_of_id hform hw hv (by rw [hm, hid, hkey])]⟩

/-! ## Following relations -/

/-- A relation to one leads from the row of an entity to the row of what the entity holds. -/
theorem next_rowAt (hform : form ∈ forms) {r : String × String × String}
    (hr : r ∈ form.references) (htarget : target ∈ forms) (htype : target.type = r.2.2)
    {row? : Option (Table × Row)} (hrow : RowAt books form v row?) :
    RowAt books target (fieldOf r.2.1 v) ((mappedDatabase books).next row? r.2.1) := by
  cases hrow with
  | missing => exact .missing
  | present mem more =>
    have hw : fieldOf r.2.1 v ∈ reached target.type books := htype ▸ mem_reached hform hr mem
    have htable : (mappedDatabase books).table? r.2.2 = some (mappedTable books target) :=
      htype ▸ table?_mappedDatabase books htarget
    simp only [Database.next, Database.partners, relation?_mappedTable books hform hr, htable,
      Database.related, cell_reference hform hr]
    cases hnull : (fieldOf r.2.1 v).isNull with
    | true =>
      rw [Value.isNull_iff.mp hnull]
      exact .missing
    | false =>
      have hmem := h.mem_entitiesOf htarget hw hnull
      have hd := h.described target htarget _ hmem
      obtain ⟨n, hn⟩ := hd.key
      obtain ⟨more, hrow⟩ := h.row?_eq htarget hmem hn
      rw [hn, cellOf_int (hd.holdsInteger htarget hn)]
      simp only [hrow]
      exact .present hmem more

/-- Routes over references are to one. -/
theorem single_rowAt {fields : List Field} (hleads : Leads form fields) (hform : form ∈ forms)
    {row? : Option (Table × Row)} (hrow : RowAt books form v row?) {route : List String}
    (hne : route ≠ []) (hbegin : route <+: fields.dropLast.map (·.name)) :
    (mappedDatabase books).Single row? route := by
  induction hleads generalizing v row? route with
  | column mem => exact (hne (List.prefix_nil.mp hbegin)).elim
  | @reference form target r fields mem mem_forms type_eq rest ih =>
    obtain ⟨relation, route, rfl⟩ := List.exists_cons_of_ne_nil hne
    have hfields : fields ≠ [] := by cases rest <;> simp
    rw [List.dropLast_cons_of_ne_nil hfields, List.map_cons, List.cons_prefix_cons] at hbegin
    obtain ⟨rfl, hbegin⟩ := hbegin
    by_cases hroute : route = []
    · subst hroute
      refine Database.partners_length_le_one fun t row heq relation hrelation => ?_
      cases hrow with
      | missing => cases heq
      | present =>
        cases heq
        have heq := (relation?_mappedTable books hform mem).symm.trans hrelation
        exact Option.some.inj heq ▸ rfl
    · rw [Database.single_cons hroute]
      exact ih mem_forms (h.next_rowAt hform mem mem_forms type_eq hrow) hroute hbegin

/-- The cell at the end of a path from row to row is that of the value at its end, and the value
fits its column. -/
theorem cell_path {fields : List Field} (hleads : Leads form fields) (hform : form ∈ forms)
    {row? : Option (Table × Row)} (hrow : RowAt books form v row?) :
    cellIn ((mappedDatabase books).follow row? (fields.dropLast.map (·.name)))
        ((fields.getLast?.map (·.name)).getD "") = cellOf (FieldPath.follow fields v) ∧
      Holds ((fields.getLast?.map (·.type)).getD .any) (FieldPath.follow fields v) := by
  induction hleads generalizing v row? with
  | @column form c mem =>
    cases hrow with
    | missing => exact ⟨rfl, .inl rfl⟩
    | present hv more =>
      rw [follow_cons]
      exact ⟨cell_column hform mem, (h.described form hform v hv).holds c mem⟩
  | @reference form target r fields mem mem_forms type_eq rest ih =>
    have hfields : fields ≠ [] := by cases rest <;> simp
    rw [List.dropLast_cons_of_ne_nil hfields, List.map_cons, Database.follow_cons, follow_cons,
      List.getLast?_cons_of_ne_nil hfields]
    exact ih mem_forms (h.next_rowAt hform mem mem_forms type_eq hrow)

end Library

end Sample

end PagedQuery
