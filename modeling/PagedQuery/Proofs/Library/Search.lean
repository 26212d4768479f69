import PagedQuery.Proofs.Library.Selection

/-!
# Searches in a library

A search asks for the entities that meet one filter, in the order of their keys. Entities and tables
bind its filter alike if it is over a scalar column, so that either both sources refuse the search
for the same reason or each answers with what the filter picks by its own reading of the values.
-/

namespace PagedQuery

open PagedQuery.Sample

namespace Schema

variable {s : Schema} {c : FilterClause} {p : FieldPath} {k : Scalar}

/-- What a filter over scalars is bound to depends on no schema. -/
theorem bindFilterTo_congr (hp : p.valueType = .scalar k) (s s' : Schema) :
    s.bindFilterTo c p = s'.bindFilterTo c p := by
  have htext : s.holdsText p.valueType = s'.holdsText p.valueType := by
    rw [hp]
    cases k <;> simp [holdsText]
  have hconvert : s.convert c.value p.valueType = s'.convert c.value p.valueType := by
    rw [hp, convert_of_not_union (by simp), convert_of_not_union (by simp), read, read]
  have hordered : s.isOrdered p.valueType = s'.isOrdered p.valueType := by
    rw [hp]
    rfl
  simp only [bindFilterTo, htext, hconvert, hordered]

/-- The plan of one filter and one sort whose paths are found. -/
theorem compile_one {root : FieldType} {q : PageQuery} {sort : SortClause} {key : FieldPath}
    (hfilters : q.filters = [c]) (hsorts : q.sorts = [sort])
    (hp : s.resolve .value root c.property = .ok (some p))
    (hkey : s.resolve .value root sort.property = .ok (some key))
    (hincludes : ∃ includes, s.bindIncludes root q.graph = .ok includes) :
    ∃ includes skipped, s.compile root q = (s.bindFilterTo c p).map fun b =>
      ⟨root, [b], [⟨sort, key, 0⟩], includes, q.pageSize, q.pageNumber, skipped⟩ := by
  obtain ⟨⟨includes, skipped⟩, hincludes⟩ := hincludes
  refine ⟨includes, skipped, ?_⟩
  have hfound : s.bindFilters root [c] = (s.bindFilterTo c p).map fun b => ([b], []) := by
    simp only [bindFilters, bindEach, bindFilter, hp]
    cases s.bindFilterTo c p <;> rfl
  have hbound : s.bindSorts root [sort] = .ok ([⟨sort, key, 0⟩], []) := by
    simp only [bindSorts, bindEach, bindSort, hkey]
    rfl
  rw [compile_eq, hfilters, hsorts, hfound, hbound, hincludes]
  cases s.bindFilterTo c p <;> rfl

end Schema

namespace Sample

/-- A query that asks for the entities that meet one filter, in the order of their keys. -/
structure Searches (form : TableForm) (q : PageQuery) (c : FilterClause) (p : FieldPath) :
    Prop where
  filters_eq : q.filters = [c]
  declares : Declares form c.property p
  key : ∃ sort, q.sorts = [sort] ∧ Declares form sort.property (keyPath form)

/-- The sorts of a search, bound to the keys. -/
def keySorts (form : TableForm) (q : PageQuery) : List BoundSort :=
  q.sorts.map fun sort => ⟨sort, keyPath form, 0⟩

/-- The plan of a search by a bound filter. -/
def searchPlan (form : TableForm) (q : PageQuery) (includes : List FieldPath)
    (skipped : List String) (b : BoundFilter) : Plan :=
  ⟨.entity form.type, [b], keySorts form q, includes, q.pageSize, q.pageNumber, skipped⟩

section

variable {books : List Value} {form : TableForm} {q : PageQuery} {c : FilterClause}
  {p : FieldPath} {k : Scalar} {b : BoundFilter}

namespace Searches

variable (hq : Searches form q c p) (hform : form ∈ forms)

include hq hform

theorem compile_eq {s : Schema} (hs : s.Closed types)
    (hfilter : s.resolve .value (.entity form.type) c.property = .ok (some p))
    (hkey : ∀ property, Declares form property (keyPath form) →
      s.resolve .value (.entity form.type) property = .ok (some (keyPath form))) :
    ∃ includes skipped, s.compile (.entity form.type) q =
      (s.bindFilterTo c p).map (searchPlan form q includes skipped) := by
  obtain ⟨sort, hsorts, hsort⟩ := hq.key
  have hroot : FieldType.entity form.type ∈ types :=
    List.mem_append_right _ (List.mem_cons_of_mem _ (List.mem_map.mpr ⟨form, hform, rfl⟩))
  have hkeys : keySorts form q = [⟨sort, keyPath form, 0⟩] := by
    rw [keySorts, hsorts]
    rfl
  unfold searchPlan
  rw [hkeys]
  exact Schema.compile_one hq.filters_eq hsorts hfilter (hkey _ hsort)
    (hs.bindIncludes_isOk hroot q.graph)

theorem compile_memory :
    ∃ includes skipped, schema.compile (.entity form.type) q =
      (schema.bindFilterTo c p).map (searchPlan form q includes skipped) :=
  hq.compile_eq hform schema_closed hq.declares.declared fun _ h => h.declared

theorem compile_stored (hp : p.valueType = .scalar k) :
    ∃ includes skipped, (mappedDatabase []).schema.compile (.entity form.type) q =
      (schema.bindFilterTo c p).map (searchPlan form q includes skipped) := by
  rw [Schema.bindFilterTo_congr hp schema (mappedDatabase []).schema]
  exact hq.compile_eq hform (mappedDatabase_closed []) hq.declares.stored fun _ h => h.stored

theorem placed (hb : schema.bindFilterTo c p = .ok b)
    (hstorable : Cell.ofValue b.value = .ok (cellOf b.value)) :
    Placed form [b] (keySorts form q) := by
  obtain ⟨sort, hsorts, hsort⟩ := hq.key
  have hkeys : ∀ a ∈ keySorts form q, a.path = keyPath form := by
    intro a ha
    obtain ⟨_, -, rfl⟩ := List.mem_map.mp ha
    rfl
  refine ⟨fun a ha => ?_, fun a ha => ?_, fun a ha => ?_, fun a ha => ?_, ?_⟩
  · obtain rfl := List.mem_singleton.mp ha
    exact hstorable
  · obtain rfl := List.mem_singleton.mp ha
    rw [(Schema.bindFilterTo_eq hb).2]
    exact hq.declares.leads hform
  · rw [hkeys a ha]
    rfl
  · rw [hkeys a ha]
    exact hsort.leads hform
  · refine ⟨⟨sort, keyPath form, 0⟩, ?_, rfl⟩
    rw [keySorts, hsorts]
    exact List.mem_singleton.mpr rfl

/-- A filter that is refused is refused by both sources. -/
theorem refused (hp : p.valueType = .scalar k) {e : Fault}
    (he : schema.bindFilterTo c p = .error e) :
    (memorySource books form).run q = .error e ∧ (storedSource books form).run q = .error e := by
  obtain ⟨_, _, hmemory⟩ := hq.compile_memory hform
  obtain ⟨_, _, hstored⟩ := hq.compile_stored hform hp
  rw [he] at hmemory hstored
  exact ⟨run_of_compile_error hmemory, run_of_compile_error hstored⟩

/-- The entities are answered with by what the filter says about them. -/
theorem memory_answer (h : Library books) (hb : schema.bindFilterTo c p = .ok b)
    (hstorable : Cell.ofValue b.value = .ok (cellOf b.value)) {keep : Value → Bool}
    (hkeep : ∀ v ∈ entitiesOf form.type books, b.holds schema v = .ok (keep v)) :
    ((memorySource books form).run q).map answer =
      answerOf books form keep (keySorts form q) q := by
  obtain ⟨_, _, hplan⟩ := hq.compile_memory hform
  rw [hb] at hplan
  refine h.memorySource_answer hform hplan (hq.placed hform hb hstorable) fun v hv => ?_
  have hall : schema.satisfies [b] v = .ok ([b].all fun _ => keep v) :=
    allHold_of_forall fun a ha => List.mem_singleton.mp ha ▸ hkeep v hv
  rwa [List.all_cons, List.all_nil, Bool.and_true] at hall

/-- Tables refuse to order truth values. -/
theorem stored_refuses (hp : p.valueType = .scalar k) (hb : schema.bindFilterTo c p = .ok b)
    (hordered : JoinTable.accepts b = false) :
    (storedSource books form).run q = .error .orderedBoolean := by
  obtain ⟨_, _, hplan⟩ := hq.compile_stored hform hp
  rw [hb] at hplan
  exact Library.storedSource_refuses hplan List.mem_cons_self hordered

/-- The rows are answered with by what the filter says about their cells. -/
theorem stored_answer (h : Library books) (hp : p.valueType = .scalar k)
    (hb : schema.bindFilterTo c p = .ok b)
    (hstorable : Cell.ofValue b.value = .ok (cellOf b.value)) (haccepts : JoinTable.accepts b) :
    ((storedSource books form).run q).map answer =
      withinStorage q
        (answerOf books form (fun v => meetsCell c.operator (p.get v) b.value) (keySorts form q)
          q) := by
  obtain ⟨_, _, hplan⟩ := hq.compile_stored hform hp
  rw [hb] at hplan
  have hanswer := h.storedSource_answer hform hplan (hq.placed hform hb hstorable) fun a ha => by
    obtain rfl := List.mem_singleton.mp ha
    exact haccepts
  obtain ⟨rfl, rfl⟩ := Schema.bindFilterTo_eq hb
  have hkeep : meetsAll [b] = fun v => meetsCell b.clause.operator (b.path.get v) b.value :=
    funext fun v => Bool.and_true _
  rw [← hkeep]
  exact hanswer

end Searches

end

/-! ## Searches for books -/

/-- The path to a column of the books. -/
def columnPath (name : String) (type : FieldType) : FieldPath :=
  ⟨.entity bookForm.type, [⟨name, type, false, false⟩]⟩

/-- Books by one filter, in the order of their keys. -/
def searchFor (c : FilterClause) : PageQuery where
  filters := [c]
  sorts := [⟨"Id", .ascending⟩]

theorem searches_searchFor {c : FilterClause} {p : FieldPath} (h : Declares bookForm c.property p) :
    Searches bookForm (searchFor c) c p :=
  ⟨rfl, h, _, rfl, by decide +kernel⟩

end Sample

end PagedQuery
