import PagedQuery.Proofs.Binding.Skipped
import PagedQuery.Proofs.Library.Paths

/-!
# Queries over shared fields

A query whose clauses name fields that entities and tables declare alike is bound alike on both, or
fails for the same reason. Its filters compare columns with values that these can hold, and its
sorts end paths to columns that can be sorted.
-/

namespace PagedQuery

open PagedQuery.Sample PagedQuery.Time

/-- Values that storage takes as they are: whole numbers of 64 bits, and moments in universal time
or of no known offset. -/
def Value.isStorable : Value → Bool
  | .int n => Cell.holdsInteger n
  | .dateTime t => t.isUniversal
  | _ => true

theorem Scalar.readInteger_eq {raw : String} {v : Value} (h : Scalar.readInteger raw = .ok v) :
    ∃ n, v = .int n := by
  unfold readInteger at h
  split at h
  · cases h
    exact ⟨_, rfl⟩
  · cases h

theorem Scalar.readBool_eq {raw : String} {v : Value} (h : Scalar.readBool raw = .ok v) :
    ∃ b, v = .bool b := by
  unfold readBool at h
  split at h
  · cases h
    exact ⟨_, rfl⟩
  · cases h
    exact ⟨_, rfl⟩
  · cases h

/-- What a scalar type that is sorted reads is a value of it. -/
theorem Scalar.stores_of_read {k : Scalar} {raw : String} {v : Value}
    (hk : (FieldType.scalar k).isSortable) (h : k.read raw = .ok v) (hv : v.isStorable) :
    Stores (.scalar k) v := by
  cases k with
  | text =>
    simp only [Scalar.read, Except.ok.injEq] at h
    exact h ▸ .text
  | int =>
    simp only [Scalar.read] at h
    obtain ⟨n, rfl⟩ := readInteger_eq h
    exact .int hv
  | bool =>
    simp only [Scalar.read] at h
    obtain ⟨b, rfl⟩ := readBool_eq h
    exact .bool
  | date =>
    simp only [Scalar.read] at h
    obtain ⟨d, rfl, hd⟩ := readDate_valid h
    exact .date hd
  | dateTime =>
    simp only [Scalar.read] at h
    obtain ⟨t, rfl, ht⟩ := readDateTime_valid h
    exact .dateTime ht hv
  | _ => cases hk

theorem Enumeration.stores_of_read {e : Enumeration} (hbase : e.base = .plain) {raw : String}
    {v : Value} (h : e.read raw = .ok v) : Stores (.enumeration e.name) v := by
  obtain ⟨m, -, rfl⟩ := Enumeration.exists_member_of_read h
  rw [hbase]
  exact .member

namespace FieldType

theorem eq_scalar_of_isSortable {type : FieldType} (h : type.isSortable) :
    ∃ k, type = .scalar k := by
  cases type with
  | scalar k => exact ⟨k, rfl⟩
  | _ => cases h

theorem ne_union_of_comparesBy {type : FieldType} {operator : FilterOperator}
    (h : type.comparesBy operator) (spelled : Bool) (members : List FieldType) :
    type ≠ .union spelled members := by
  obtain ⟨op, rfl, hsortable | ⟨rfl, name, rfl⟩⟩ := exists_comparison h
  · obtain ⟨k, rfl⟩ := eq_scalar_of_isSortable hsortable
    simp
  · simp

end FieldType

namespace Schema

variable {s s' : Schema} {type : FieldType} {operator : FilterOperator} {raw : String} {v : Value}

theorem convert_of_comparesBy (ht : type.comparesBy operator) (s : Schema) (raw : String) :
    s.convert raw type =
      (s.read raw type).mapError fun e => .conversion raw (failureTarget type) e := by
  exact convert_of_not_union (FieldType.ne_union_of_comparesBy ht)

/-- A text that is converted to a type of columns becomes a value that they take. -/
theorem stores_of_convert (hbase : ∀ e ∈ s.enumerations, e.base = .plain)
    (ht : type.comparesBy operator) (h : s.convert raw type = .ok v) (hv : v.isStorable) :
    Stores type v := by
  have h := read_of_convert (FieldType.ne_union_of_comparesBy ht) h
  obtain ⟨op, rfl, hsortable | ⟨rfl, name, rfl⟩⟩ := FieldType.exists_comparison ht
  · obtain ⟨k, rfl⟩ := FieldType.eq_scalar_of_isSortable hsortable
    exact Scalar.stores_of_read hsortable h hv
  · cases he : s.enumeration? name with
    | none =>
      simp only [Schema.read, he] at h
      cases h
    | some e =>
      simp only [Schema.read, he] at h
      have hname : e.name = name := by
        have hname := List.find?_some he
        exact beq_iff_eq.mp hname
      exact hname ▸ Enumeration.stores_of_read (hbase e (List.mem_of_find?_eq_some he)) h

/-- Only the enumerations of a schema tell in the values of texts. -/
theorem convert_congr (ht : type.comparesBy operator) (h : s.enumerations = s'.enumerations)
    (raw : String) : s.convert raw type = s'.convert raw type := by
  rw [convert_of_comparesBy ht, convert_of_comparesBy ht]
  obtain ⟨op, rfl, hsortable | ⟨rfl, name, rfl⟩⟩ := FieldType.exists_comparison ht
  · obtain ⟨k, rfl⟩ := FieldType.eq_scalar_of_isSortable hsortable
    rfl
  · simp only [Schema.read, enumeration?, h]

/-- A filter that compares columns is bound to the value of its text. -/
theorem bindFilterTo_of_comparesBy {c : FilterClause} {p : FieldPath}
    (h : p.valueType.comparesBy c.operator) :
    s.bindFilterTo c p = (s.convert c.value p.valueType).map fun v => ⟨c, p, v, false⟩ := by
  obtain ⟨op, hop, htype⟩ := FieldType.exists_comparison h
  have hordered : ¬ (c.operator ≠ .compare .equal ∧ !s.isOrdered p.valueType) := by
    rintro ⟨hne, hordered⟩
    rcases htype with hsortable | ⟨rfl, -⟩
    · obtain ⟨k, hk⟩ := FieldType.eq_scalar_of_isSortable hsortable
      rw [hk] at hordered
      cases hordered
    · exact hne hop
  have huntyped : p.valueType.isUntyped = false := by
    rcases htype with hsortable | ⟨-, e, he⟩
    · obtain ⟨k, hk⟩ := FieldType.eq_scalar_of_isSortable hsortable
      rw [hk]
      rfl
    · rw [he]
      rfl
  have hpattern : c.operator.isPattern = false := by rw [hop]; rfl
  simp only [bindFilterTo, hpattern, Bool.false_eq_true, if_false, if_neg hordered, huntyped]

end Schema

namespace Sample

/-- The path to the keys of the entities of a table. -/
def keyPath (form : TableForm) : FieldPath :=
  ⟨.entity form.type, [⟨"id", .scalar .int, false, false⟩]⟩

/-- A query over fields that the entities of a table and its rows declare alike: filters compare
numbers, texts, days and moments in any way, and truth values and members of enumerations for
equality, with values that storage takes; sorts are over sortable fields, the key among them; and
storage takes the numbers of the page window. -/
structure Shared (form : TableForm) (q : PageQuery) : Prop where
  filters : ∀ c ∈ q.filters, ∃ p, Declares form c.property p ∧ p.valueType.comparesBy c.operator ∧
    ∀ v, schema.convert c.value p.valueType = .ok v → v.isStorable
  sorts : ∀ c ∈ q.sorts, ∃ p, Declares form c.property p ∧ p.valueType.isSortable
  key : ∃ c ∈ q.sorts, Declares form c.property (keyPath form)
  size : Cell.holdsInteger q.pageSize
  offset : Cell.holdsInteger (pageOffset q.pageNumber q.pageSize)

/-- The table of the books. -/
def bookForm : TableForm := forms.getLast (by decide)

theorem bookForm_mem : bookForm ∈ forms := List.getLast_mem _

/-- The first two books at hand of authors up to a name, by publisher from the last one. -/
def bookRequest : PageQuery where
  pageSize := 2
  filters :=
    [⟨"Author.LastName", .compare .lessOrEqual, "Le Guin"⟩,
     ⟨"IsAvailable", .compare .equal, "true"⟩]
  sorts := [⟨"Category.Publisher.Name", .descending⟩, ⟨"Id", .ascending⟩]

theorem shared_bookRequest : Shared bookForm bookRequest := by
  have hid : Declares bookForm "Id" (keyPath bookForm) := by decide +kernel
  refine ⟨fun c hc => ?_, fun c hc => ?_, ⟨_, List.mem_cons_of_mem _ List.mem_cons_self, hid⟩,
    by decide, by decide⟩
  · simp only [bookRequest, List.mem_cons, List.not_mem_nil, or_false] at hc
    rcases hc with rfl | rfl
    · exact ⟨⟨.entity "Book", [⟨"author", .entity "Author", false, true⟩,
        ⟨"last_name", .scalar .text, false, false⟩]⟩, by decide +kernel, rfl,
        fun v hv => Except.ok.inj hv ▸ rfl⟩
    · exact ⟨⟨.entity "Book", [⟨"is_available", .scalar .bool, false, false⟩]⟩,
        by decide +kernel, rfl, fun v hv => Except.ok.inj hv ▸ rfl⟩
  · simp only [bookRequest, List.mem_cons, List.not_mem_nil, or_false] at hc
    rcases hc with rfl | rfl
    · exact ⟨⟨.entity "Book", [⟨"category", .entity "Category", false, true⟩,
        ⟨"publisher", .entity "Publisher", false, true⟩,
        ⟨"name", .scalar .text, false, false⟩]⟩, by decide +kernel, rfl⟩
    · exact ⟨_, hid, rfl⟩

/-- Bound filters and sorts that compare columns at the ends of references. -/
structure Fits (form : TableForm) (filters : List BoundFilter) (sorts : List BoundSort) : Prop where
  compares : ∀ b ∈ filters, b.Compares
  filters_lead : ∀ b ∈ filters, Leads form b.path.fields
  sortable : ∀ b ∈ sorts, b.path.valueType.isSortable
  sorts_lead : ∀ b ∈ sorts, Leads form b.path.fields
  key : ∃ b ∈ sorts, b.path = keyPath form

theorem base_eq_plain : ∀ e ∈ schema.enumerations, e.base = .plain := by
  decide

namespace Shared

variable {form : TableForm} {q : PageQuery} (h : Shared form q)

include h

theorem bindFilters_eq : (mappedDatabase []).schema.bindFilters (.entity form.type) q.filters =
    schema.bindFilters (.entity form.type) q.filters := by
  refine Schema.bindEach_congr fun c hc => ?_
  obtain ⟨p, hp, htype, -⟩ := h.filters c hc
  have henumerations : (mappedDatabase []).schema.enumerations = schema.enumerations := rfl
  have hconvert := Schema.convert_congr htype henumerations c.value
  simp only [Schema.bindFilter, hp.declared, hp.stored, Schema.bindFilterTo_of_comparesBy htype,
    hconvert]

theorem bindSorts_eq : (mappedDatabase []).schema.bindSorts (.entity form.type) q.sorts =
    schema.bindSorts (.entity form.type) q.sorts := by
  have hbind : ∀ c ∈ q.sorts, (mappedDatabase []).schema.bindSort (.entity form.type) c =
      schema.bindSort (.entity form.type) c := by
    intro c hc
    obtain ⟨p, hp, -⟩ := h.sorts c hc
    rw [Schema.bindSort, Schema.bindSort, hp.declared, hp.stored]
  rw [Schema.bindSorts, Schema.bindSorts, Schema.bindEach_congr hbind]

/-- Entities and tables refuse the query for the same reason, or have plans of the same filters and
sorts. -/
theorem compile_alike (hform : form ∈ forms) :
    (∃ e, schema.compile (.entity form.type) q = .error e ∧
        (mappedDatabase []).schema.compile (.entity form.type) q = .error e) ∨
      ∃ plan plan', schema.compile (.entity form.type) q = .ok plan ∧
        (mappedDatabase []).schema.compile (.entity form.type) q = .ok plan' ∧
        plan'.filters = plan.filters ∧ plan'.sorts = plan.sorts := by
  have hroot : FieldType.entity form.type ∈ types :=
    List.mem_append_right _ (List.mem_cons_of_mem _ (List.mem_map.mpr ⟨form, hform, rfl⟩))
  obtain ⟨includes, hincludes⟩ := schema_closed.bindIncludes_isOk hroot q.graph
  obtain ⟨includes', hincludes'⟩ := (mappedDatabase_closed []).bindIncludes_isOk hroot q.graph
  rw [Schema.compile_eq, Schema.compile_eq, h.bindFilters_eq, h.bindSorts_eq, hincludes,
    hincludes']
  cases schema.bindFilters (.entity form.type) q.filters with
  | error e => exact .inl ⟨e, rfl, rfl⟩
  | ok filters =>
    cases schema.bindSorts (.entity form.type) q.sorts with
    | error e => exact .inl ⟨e, rfl, rfl⟩
    | ok sorts => exact .inr ⟨_, _, rfl, rfl, rfl, rfl⟩

/-- What the clauses of the query are bound to. -/
theorem fits (hform : form ∈ forms) {plan : Plan}
    (hplan : schema.compile (.entity form.type) q = .ok plan) :
    Fits form plan.filters plan.sorts := by
  have hplaces := Schema.places_of_compile hplan
  have hfilter : ∀ b ∈ plan.filters, Declares form b.clause.property b.path ∧ b.Compares := by
    intro b hb
    have hmem : b.clause ∈ plan.filters.map (·.clause) := List.mem_map_of_mem hb
    rw [hplaces.filters_eq] at hmem
    obtain ⟨p, hp, htype, hvalue⟩ := h.filters _ (List.mem_filter.mp hmem).1
    obtain ⟨-, hresolve, hbound⟩ := Schema.bindFilter_eq_some (hplaces.filters_bound b hb)
    obtain rfl : p = b.path :=
      Option.some.inj (Except.ok.inj (hp.declared.symm.trans hresolve))
    rw [Schema.bindFilterTo_of_comparesBy htype] at hbound
    cases hv : schema.convert b.clause.value b.path.valueType with
    | error e =>
      rw [hv] at hbound
      cases hbound
    | ok v =>
      rw [hv] at hbound
      have hb : (⟨b.clause, b.path, v, false⟩ : BoundFilter) = b := Except.ok.inj hbound
      have hstores := Schema.stores_of_convert base_eq_plain htype hv (hvalue v hv)
      exact ⟨hp, htype, hb ▸ hstores, hb ▸ rfl⟩
  have hsort : ∀ b ∈ plan.sorts,
      Declares form b.clause.property b.path ∧ b.path.valueType.isSortable := by
    intro b hb
    have hmem : b.clause ∈ plan.sorts.map (·.clause) := List.mem_map_of_mem hb
    rw [hplaces.sorts_eq] at hmem
    obtain ⟨p, hp, htype⟩ := h.sorts _ (List.mem_filter.mp hmem).1
    obtain rfl : p = b.path :=
      Option.some.inj (Except.ok.inj (hp.declared.symm.trans (hplaces.sorts_bound b hb)))
    exact ⟨hp, htype⟩
  refine ⟨fun b hb => (hfilter b hb).2, fun b hb => (hfilter b hb).1.leads hform,
    fun b hb => (hsort b hb).2, fun b hb => (hsort b hb).1.leads hform, ?_⟩
  obtain ⟨c, hc, hkey⟩ := h.key
  have hmem : c ∈ plan.sorts.map (·.clause) := by
    rw [hplaces.sorts_eq, List.mem_filter]
    exact ⟨hc, by rw [Schema.misses, hkey.declared]; rfl⟩
  obtain ⟨b, hb, rfl⟩ := List.mem_map.mp hmem
  have hpath := (hplaces.sorts_bound b hb).symm.trans hkey.declared
  exact ⟨b, hb, Option.some.inj (Except.ok.inj hpath)⟩

end Shared

end Sample

end PagedQuery
