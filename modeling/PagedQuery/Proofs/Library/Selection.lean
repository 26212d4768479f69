import PagedQuery.Proofs.Library.Queries
import PagedQuery.Proofs.Library.Rows
import PagedQuery.Proofs.Paging.Walk

/-!
# Pages of a library

A query whose filters and sorts lead over references to columns picks entities of a library: in
memory by what its filters say about their values, in tables by what they say about the cells of
these. Joins along references to one keep every row once, and the keys among the sorts leave no ties
to the order of rows, so that what a page shows depends on nothing but which entities are picked.
-/

namespace PagedQuery

open PagedQuery.Sample

namespace Sample

/-- The entities of a table in memory. -/
def memorySource (books : List Value) (form : TableForm) : Source :=
  .memory { schema := schema, root := .entity form.type, items := entitiesOf form.type books }

/-- The rows of the entities in tables. -/
def storedSource (books : List Value) (form : TableForm) : Source :=
  .stored { database := mappedDatabase books, table := mappedTable books form }

/-- What is told about a page, and the keys of its elements in their order. -/
def answer (page : Page Value) : PageMeta × List Value :=
  (page.info, page.elements.map (fieldOf "id"))

/-- The kind of the values that a sort puts in order. -/
def kindOf (b : BoundSort) : Kind := b.path.valueType.kind

/-- Whether an entity meets all filters, by the cells of its values. -/
def meetsAll (filters : List BoundFilter) (v : Value) : Bool :=
  filters.all fun b => meetsCell b.clause.operator (b.path.get v) b.value

/-- Whether an entity may stand before another one. -/
def precedes (sorts : List BoundSort) (v w : Value) : Bool :=
  (lexicographic kindOf sorts v w).isLE

/-- Bound filters and sorts at the ends of references to one, the filters with values that storage
takes, and the sorts over sortable columns, the key among them. -/
structure Placed (form : TableForm) (filters : List BoundFilter) (sorts : List BoundSort) :
    Prop where
  storable : ∀ b ∈ filters, Cell.ofValue b.value = .ok (cellOf b.value)
  filters_lead : ∀ b ∈ filters, Leads form b.path.fields
  sortable : ∀ b ∈ sorts, b.path.valueType.isSortable
  sorts_lead : ∀ b ∈ sorts, Leads form b.path.fields
  key : ∃ b ∈ sorts, b.path = keyPath form

section

variable {books : List Value} {form : TableForm} {filters : List BoundFilter}
  {sorts : List BoundSort}

theorem Library.holds_get (h : Library books) (hform : form ∈ forms) {v : Value}
    (hv : v ∈ entitiesOf form.type books) {p : FieldPath} (hp : Leads form p.fields) :
    Holds p.valueType (p.get v) :=
  (h.cell_path hp hform (.present hv [])).2

theorem Library.sortable (h : Library books) (hform : form ∈ forms)
    (hplaced : Placed form filters sorts) {v : Value} (hv : v ∈ entitiesOf form.type books) :
    Sortable kindOf sorts v := fun b hb =>
  (h.holds_get hform hv (hplaced.sorts_lead b hb)).admits (hplaced.sortable b hb)

/-- Sorts over keys leave no ties. -/
theorem Library.eq_of_tie (h : Library books) (hform : form ∈ forms)
    (hplaced : Placed form filters sorts) {v w : Value} (hv : v ∈ entitiesOf form.type books)
    (hw : w ∈ entitiesOf form.type books) (htie : lexicographic kindOf sorts v w = .eq) :
    v = w := by
  obtain ⟨b, hb, hkey⟩ := hplaced.key
  obtain ⟨m, hm⟩ := (h.described form hform v hv).key
  obtain ⟨n, hn⟩ := (h.described form hform w hw).key
  have hget : ∀ u, b.path.get u = fieldOf "id" u := fun u => by
    rw [hkey, FieldPath.get, keyPath, follow_cons]
    rfl
  have hkind : kindOf b = .number := by
    rw [kindOf, hkey]
    rfl
  have hranked := ranked_eq_of_tie htie b hb
  rw [hkind, BoundSort.ranked, hget, hget, hm, hn] at hranked
  have hranks : Kind.number.rank (.int m) = Kind.number.rank (.int n) := by
    refine compare_eq_iff_eq.mp ?_
    split at hranked
    · exact Ordering.swap_eq_eq.mp hranked
    · exact hranked
  have hposition : (Number.Decimal.ofInt m).position? = (Number.Decimal.ofInt n).position? := hranks
  rw [Number.Decimal.position?_ofInt, Number.Decimal.position?_ofInt, Option.some.injEq,
    WithBot.coe_inj, WithTop.coe_inj, Int.cast_inj] at hposition
  exact h.eq_of_id hform hv hw (by rw [hm, hn, hposition])

/-- What the source in memory matches. -/
theorem mapM_operand (hstorable : ∀ b ∈ filters, Cell.ofValue b.value = .ok (cellOf b.value)) :
    filters.mapM BoundFilter.operand = .ok (filters.map fun b => (b, cellOf b.value)) := by
  induction filters with
  | nil => rfl
  | cons b bs ih =>
    rw [List.mapM_cons, BoundFilter.operand, hstorable b List.mem_cons_self,
      ih fun c hc => hstorable c (List.mem_cons_of_mem b hc)]
    rfl

/-! ## Rows -/

/-- The entities of a table with the cells that they do not hold themselves, in the order of their
keys. -/
def sortedEntries (books : List Value) (form : TableForm) : List (Value × List (String × Cell)) :=
  (entriesOf form books).mergeSort fun e e' => (rowOf form e.1 e.2).key ≤ (rowOf form e'.1 e'.2).key

theorem rows_eq (books : List Value) (form : TableForm) :
    (mappedTable books form).rows = (sortedEntries books form).map fun e => rowOf form e.1 e.2 := by
  have hsort : (sortedEntries books form).map (fun e => rowOf form e.1 e.2) =
      ((entriesOf form books).map fun e => rowOf form e.1 e.2).mergeSort fun r r' =>
        r.key ≤ r'.key := List.map_mergeSort fun _ _ _ _ => rfl
  exact hsort.symm

theorem sortedEntries_perm (books : List Value) (form : TableForm) :
    ((sortedEntries books form).map (·.1)).Perm (entitiesOf form.type books) := by
  rw [← map_fst_entriesOf form books]
  exact (List.mergeSort_perm _ _).map _

theorem mem_of_mem_sortedEntries {e : Value × List (String × Cell)}
    (he : e ∈ sortedEntries books form) : e.1 ∈ entitiesOf form.type books :=
  (sortedEntries_perm books form).mem_iff.mp (List.mem_map_of_mem he)

/-- What an entry is read as. -/
def viewOf (books : List Value) (form : TableForm) (js : JoinTable)
    (e : Value × List (String × Cell)) : RouteRows :=
  (mappedDatabase books).view (mappedTable books form) js (rowOf form e.1 e.2)

namespace Library

variable (h : Library books) (hform : form ∈ forms) (hplaced : Placed form filters sorts)
  {js : JoinTable} {e e' : Value × List (String × Cell)}

include h hform

theorem cell_viewOf (he : e ∈ sortedEntries books form) {p : FieldPath} (hp : Leads form p.fields)
    (hs : (js.slot? p.relations).isSome) :
    (viewOf books form js e).cell p = cellOf (p.get e.1) := by
  have hcell := (h.cell_path hp hform (.present (mem_of_mem_sortedEntries he) e.2)).1
  rw [RouteRows.cell, viewOf, Database.view_of_isSome hs]
  exact hcell

include hplaced

/-- Joins along the paths of shared queries read every entity once. -/
theorem rowsByRoute_eq {s : StoredSource} (hs : s.Tracks filters sorts)
    (hdb : s.database = mappedDatabase books) (ht : s.table = mappedTable books form) :
    s.database.rowsByRoute s.table s.joinTable =
      (sortedEntries books form).map (viewOf books form s.joinTable) := by
  rw [Database.rowsByRoute_of_single hs.grown, ht, hdb, rows_eq, List.map_map]
  · rfl
  · intro row hrow r hr
    rw [ht] at hrow
    rw [rows_eq] at hrow
    obtain ⟨e, he, rfl⟩ := List.mem_map.mp hrow
    obtain ⟨p, hp, hne, hbegin⟩ := (hs.mem_routes r).mp hr
    have hleads : Leads form p.fields := by
      rcases List.mem_append.mp hp with hp | hp
      · obtain ⟨b, hb, rfl⟩ := List.mem_map.mp hp
        exact hplaced.filters_lead b hb
      · obtain ⟨b, hb, rfl⟩ := List.mem_map.mp hp
        exact hplaced.sorts_lead b hb
    rw [hdb, ht]
    exact h.single_rowAt hleads hform (.present (mem_of_mem_sortedEntries he) e.2) hne hbegin

theorem meets_viewOf {s : StoredSource} (hs : s.Tracks filters sorts)
    (he : e ∈ sortedEntries books form) :
    RouteRows.meets (filters.map fun b => (b, cellOf b.value)) (viewOf books form s.joinTable e) =
      meetsAll filters e.1 := by
  rw [RouteRows.meets, meetsAll, List.all_map, Bool.eq_iff_iff, List.all_eq_true, List.all_eq_true]
  refine forall₂_congr fun b hb => ?_
  have hslot := hs.isSome _ (List.mem_append_left _ (List.mem_map_of_mem hb))
  have hcell := h.cell_viewOf hform he (hplaced.filters_lead b hb) hslot
  change (Criterion.meets b.clause.operator _ (cellOf b.value) == some true) = true ↔ _
  rw [hcell]
  rfl

/-- The entries that a source in tables finds. -/
theorem found_eq {s : StoredSource} (hs : s.Tracks filters sorts)
    (hdb : s.database = mappedDatabase books) (ht : s.table = mappedTable books form) :
    s.found = .ok (((sortedEntries books form).filter fun e => meetsAll filters e.1).map
      (viewOf books form s.joinTable)) := by
  have htests := mapM_operand hplaced.storable
  rw [hs.found_eq, Database.meeting, htests, h.rowsByRoute_eq hform hplaced hs hdb ht]
  refine congrArg Except.ok ?_
  dsimp only
  rw [List.filter_map]
  refine congrArg (List.map _) (List.filter_congr fun e he => ?_)
  exact h.meets_viewOf hform hplaced hs he

/-- Entries are read in the order of their entities. -/
theorem order_viewOf {s : StoredSource} (hs : s.Tracks filters sorts)
    (he : e ∈ sortedEntries books form) (he' : e' ∈ sortedEntries books form) :
    RouteRows.order sorts (viewOf books form s.joinTable e) (viewOf books form s.joinTable e') =
      lexicographic kindOf sorts e.1 e'.1 := by
  suffices horder : ∀ bs ⊆ sorts,
      RouteRows.order bs (viewOf books form s.joinTable e) (viewOf books form s.joinTable e') =
        lexicographic kindOf bs e.1 e'.1 from horder sorts fun _ => id
  intro bs hbs
  induction bs with
  | nil => rfl
  | cons b bs ih =>
    obtain ⟨hb, hbs⟩ := List.cons_subset.mp hbs
    have hleads := hplaced.sorts_lead b hb
    have hslot := hs.isSome _ (List.mem_append_right _ (List.mem_map_of_mem hb))
    have hcells := Holds.order_eq (hplaced.sortable b hb)
      (h.holds_get hform (mem_of_mem_sortedEntries he) hleads)
      (h.holds_get hform (mem_of_mem_sortedEntries he') hleads)
    rw [RouteRows.order, lexicographic, ih hbs, h.cell_viewOf hform he hleads hslot,
      h.cell_viewOf hform he' hleads hslot, hcells]
    rfl

/-- The rows that a source in tables fetches: those of the entities in order. -/
theorem fetchRows_eq {s : StoredSource} (hs : s.Tracks filters sorts)
    (hdb : s.database = mappedDatabase books) (ht : s.table = mappedTable books form)
    (offset limit : Int) :
    s.fetchRows offset limit = (do
      let _ ← Cell.ofInteger limit
      let _ ← Cell.ofInteger offset
      return (StoredSource.window
        (((sortedEntries books form).filter fun e => meetsAll filters e.1).mergeSort fun e e' =>
          precedes sorts e.1 e'.1) offset limit).map fun e => rowOf form e.1 e.2) := by
  have hsort : (((sortedEntries books form).filter fun e => meetsAll filters e.1).map
      (viewOf books form s.joinTable)).mergeSort (RouteRows.le sorts) =
      (((sortedEntries books form).filter fun e => meetsAll filters e.1).mergeSort fun e e' =>
        precedes sorts e.1 e'.1).map (viewOf books form s.joinTable) := by
    refine (List.map_mergeSort fun e he e' he' => ?_).symm
    rw [precedes, RouteRows.le, h.order_viewOf hform hplaced hs (List.mem_filter.mp he).1
      (List.mem_filter.mp he').1]
  have hroot : (fun rows : RouteRows => rows.root?) ∘ viewOf books form s.joinTable =
      some ∘ fun e => rowOf form e.1 e.2 := rfl
  rw [hs.fetchRows_eq, h.found_eq hform hplaced hs hdb ht]
  simp only [Except.map, bind, Except.bind, pure, Except.pure, hsort, ← StoredSource.map_window,
    List.filterMap_map, hroot, List.filterMap_eq_map]

end Library

/-! ## Runs -/

/-- The entries of the entities that are picked. -/
def entriesWhere (books : List Value) (form : TableForm) (keep : Value → Bool) :
    List (Value × List (String × Cell)) :=
  (sortedEntries books form).filter fun e => keep e.1

theorem entriesWhere_perm (books : List Value) (form : TableForm) (keep : Value → Bool) :
    ((entriesWhere books form keep).map (·.1)).Perm ((entitiesOf form.type books).filter keep) := by
  have heq : (entriesWhere books form keep).map (·.1) =
      ((sortedEntries books form).map (·.1)).filter keep := by
    rw [List.filter_map]
    rfl
  rw [heq]
  exact (sortedEntries_perm books form).filter _

theorem columnsOf_eq (hform : form ∈ forms) :
    ∃ rest, columnsOf form = ⟨"id", .scalar .int⟩ :: rest := by
  simp only [forms, List.mem_cons, List.not_mem_nil, or_false] at hform
  rcases hform with rfl | rfl | rfl | rfl | rfl <;> exact ⟨_, rfl⟩

theorem window_ok {number size total : Int} {w : PageWindow}
    (hw : PageWindow.of number size total = .ok w) :
    1 ≤ number ∧ 1 ≤ size ∧ w.skip = pageOffset number size := by
  unfold PageWindow.of at hw
  split at hw
  · cases hw
  · split at hw
    · cases hw
    · split at hw
      · cases hw
      · cases hw
        exact ⟨by omega, by omega, rfl⟩

theorem mem_of_mem_window {α : Type} {x : α} {xs : List α} {offset limit : Int}
    (hx : x ∈ StoredSource.window xs offset limit) : x ∈ xs := by
  unfold StoredSource.window at hx
  split at hx
  · exact List.mem_of_mem_drop hx
  · exact List.mem_of_mem_drop (List.mem_of_mem_take hx)

theorem slice_eq_window {α : Type} (xs : List α) {number size : Int} (hn : 1 ≤ number)
    (hs : 1 ≤ size) :
    slice xs (pageOffset number size) (pageOffset number size + size) =
      StoredSource.window xs (pageOffset number size) size := by
  rw [slice_eq_pagePart xs hs hn, StoredSource.window, if_neg (by omega)]
  rfl

/-- Pages of one window tell the same if their elements have the same keys. -/
theorem answer_ofWindow {w : PageWindow} {xs ys : List Value}
    (hids : xs.map (fieldOf "id") = ys.map (fieldOf "id")) :
    answer (.ofWindow w xs) = answer (.ofWindow w ys) := by
  have hlength : xs.length = ys.length := by
    rw [← List.length_map (fieldOf "id"), hids, List.length_map]
  rw [answer, answer, Page.ofWindow, Page.ofWindow, hids, hlength]

namespace Library

variable (h : Library books) (hform : form ∈ forms)

include h hform

/-- An entity that is read from a row has the key of the entity that the row is made of. -/
theorem id_entity {e : Value × List (String × Cell)} (he : e ∈ sortedEntries books form) :
    fieldOf "id" ((mappedDatabase books).entity (mappedTable books form) (rowOf form e.1 e.2)) =
      fieldOf "id" e.1 := by
  have hd := h.described form hform e.1 (mem_of_mem_sortedEntries he)
  obtain ⟨n, hn⟩ := hd.key
  have hcell : (rowOf form e.1 e.2).cell "id" = .integer n := by
    rw [cell_column hform (id_mem_columns form hform), hn, cellOf_int (hd.holdsInteger hform hn)]
  obtain ⟨rest, hcolumns⟩ := columnsOf_eq hform
  rw [fieldOf, Database.entity, Value.attribute?_entity rfl, Database.attributes, mappedTable,
    hcolumns, List.map_cons, hcell, hn]
  rfl

/-- There is one order of the entities that are picked. -/
theorem arrange_entities (hplaced : Placed form filters sorts) (keep : Value → Bool)
    {vs : List Value} (hperm : vs.Perm ((entitiesOf form.type books).filter keep)) :
    arrange sorts ((entitiesOf form.type books).filter keep) =
      .ok (vs.mergeSort (precedes sorts)) := by
  refine arrange_eq_mergeSort (fun v hv => ?_) (fun v hv w hw => ?_) hperm
  · exact h.sortable hform hplaced (List.mem_filter.mp hv).1
  · exact h.eq_of_tie hform hplaced (List.mem_filter.mp hv).1 (List.mem_filter.mp hw).1

/-- A run on the entities: a page of those that the filters pick, in order. -/
theorem memorySource_page {q : PageQuery} {plan : Plan}
    (hplan : schema.compile (.entity form.type) q = .ok plan)
    (hplaced : Placed form plan.filters plan.sorts) {keep : Value → Bool}
    (hkeep : ∀ v ∈ entitiesOf form.type books,
      schema.satisfies plan.filters v = .ok (keep v)) :
    (memorySource books form).run q =
      (PageWindow.of q.pageNumber q.pageSize (entriesWhere books form keep).length).map fun w =>
        .ofWindow w (slice (((entriesWhere books form keep).map (·.1)).mergeSort
          (precedes plan.sorts)) w.skip (w.skip + q.pageSize)) := by
  let s : MemorySource :=
    { schema := schema, root := .entity form.type, items := entitiesOf form.type books }
  have hmatching : (s.prepared plan).matching = .ok ((entitiesOf form.type books).filter keep) := by
    rw [MemorySource.matching_eq_keep, MemorySource.prepared_schema, MemorySource.prepared_filters,
      MemorySource.prepared_items]
    exact MemorySource.keep_of_forall hkeep
  have hperm := entriesWhere_perm books form keep
  have harrange : arrange (s.prepared plan).sorts ((entitiesOf form.type books).filter keep) =
      .ok (((entriesWhere books form keep).map (·.1)).mergeSort (precedes plan.sorts)) := by
    rw [MemorySource.prepared_sorts]
    exact h.arrange_entities hform hplaced keep hperm
  have hlength : ((entitiesOf form.type books).filter keep).length =
      (entriesWhere books form keep).length := by
    rw [← hperm.length_eq, List.length_map]
  have hrun := run_withPage (s := s) hplan q.pageNumber
  simp only [hmatching, harrange, bind, Except.bind, hlength] at hrun
  refine Eq.trans hrun ?_
  cases PageWindow.of q.pageNumber q.pageSize (entriesWhere books form keep).length <;> rfl

omit h hform in
/-- Filters that order truth values are refused in tables before anything is read. -/
theorem storedSource_refuses {q : PageQuery} {plan : Plan}
    (hplan : (mappedDatabase []).schema.compile (.entity form.type) q = .ok plan)
    {b : BoundFilter} (hb : b ∈ plan.filters) (hordered : JoinTable.accepts b = false) :
    (storedSource books form).run q = .error .orderedBoolean := by
  have hfresh := StoredSource.tracks_fresh (mappedDatabase books) (mappedTable books form)
    plan.includes
  rcases hfresh.filteredBy plan.filters with ⟨-, herror⟩ | ⟨hall, -⟩
  · have hcompile : (storedSource books form).schema.compile (storedSource books form).root q =
        .ok plan := hplan
    have hfiltered : ((storedSource books form).including plan.includes).filteredBy plan.filters =
        .error .orderedBoolean := congrArg (Except.map _) herror
    simp only [Source.run, Source.runOn, Source.prepare, hcompile, bind, Except.bind, hfiltered]
    rfl
  · rw [List.all_eq_true.mp hall b hb] at hordered
    cases hordered

omit h hform in
/-- Filters that tables take are prepared with the sorts of a plan. -/
theorem storedSource_prepare (books : List Value) {q : PageQuery} {plan : Plan}
    (hplan : (mappedDatabase []).schema.compile (.entity form.type) q = .ok plan)
    (haccepts : ∀ b ∈ plan.filters, JoinTable.accepts b = true) :
    ∃ s : StoredSource, (storedSource books form).prepare q = .ok (.stored s, plan) ∧
      s.Tracks plan.filters plan.sorts ∧ s.database = mappedDatabase books ∧
      s.table = mappedTable books form := by
  have hfresh := StoredSource.tracks_fresh (mappedDatabase books) (mappedTable books form)
    plan.includes
  rcases hfresh.filteredBy plan.filters with ⟨hall, -⟩ | ⟨-, s, hok, hs, hdb, ht⟩
  · rw [List.all_eq_true.mpr fun b hb => haccepts b hb] at hall
    cases hall
  · obtain ⟨hs', hdb', ht'⟩ := hs.orderedBy plan.sorts
    refine ⟨s.orderedBy plan.sorts, ?_, hs', hdb'.trans hdb, ht'.trans ht⟩
    have hcompile : (storedSource books form).schema.compile (storedSource books form).root q =
        .ok plan := hplan
    have hfiltered : ((storedSource books form).including plan.includes).filteredBy plan.filters =
        .ok (.stored s) := congrArg (Except.map _) hok
    simp only [Source.prepare, hcompile, bind, Except.bind, hfiltered]
    rfl

/-- A run on the rows: a page of those of the entities that the filters pick by their cells, in
order, unless storage does not take the numbers of the page. -/
theorem storedSource_page {q : PageQuery} {plan : Plan}
    (hplan : (mappedDatabase []).schema.compile (.entity form.type) q = .ok plan)
    (hplaced : Placed form plan.filters plan.sorts)
    (haccepts : ∀ b ∈ plan.filters, JoinTable.accepts b = true) :
    (storedSource books form).run q = (do
      let w ← PageWindow.of q.pageNumber q.pageSize
        (entriesWhere books form (meetsAll plan.filters)).length
      let _ ← Cell.ofInteger q.pageSize
      let _ ← Cell.ofInteger w.skip
      return .ofWindow w ((StoredSource.window ((entriesWhere books form
        (meetsAll plan.filters)).mergeSort fun e e' => precedes plan.sorts e.1 e'.1) w.skip
          q.pageSize).map fun e =>
            (mappedDatabase books).entity (mappedTable books form) (rowOf form e.1 e.2))) := by
  have hplaces := Schema.places_of_compile hplan
  obtain ⟨s, hprepare, hs, hdb, ht⟩ := storedSource_prepare books hplan haccepts
  have hcount : s.count = .ok ((entriesWhere books form (meetsAll plan.filters)).length : Int) := by
    rw [s.count_eq_found, h.found_eq hform hplaced hs hdb ht]
    simp only [Except.map, List.length_map]
    rfl
  simp only [Source.run, Source.runOn, hprepare, bind, Except.bind, Source.count, hcount,
    hplaces.page_eq.1, hplaces.page_eq.2, Source.fetch, StoredSource.fetch]
  cases hw : PageWindow.of q.pageNumber q.pageSize
      (entriesWhere books form (meetsAll plan.filters)).length with
  | error e => rfl
  | ok w =>
    have hrows := h.fetchRows_eq hform hplaced hs hdb ht w.skip q.pageSize
    simp only [hrows, hdb, ht]
    cases hsize : Cell.ofInteger q.pageSize with
    | error e => rfl
    | ok _ =>
      cases hskip : Cell.ofInteger w.skip with
      | error e => rfl
      | ok _ =>
        simp only [bind, Except.bind, Except.map, pure, Except.pure, List.map_map]
        rfl

/-- The pages of both runs show the same keys in the same order. -/
theorem keys_eq (keep : Value → Bool) (sorts : List BoundSort) {number size : Int}
    (hn : 1 ≤ number) (hs : 1 ≤ size) :
    ((StoredSource.window ((entriesWhere books form keep).mergeSort fun e e' =>
      precedes sorts e.1 e'.1) (pageOffset number size) size).map fun e =>
        (mappedDatabase books).entity (mappedTable books form) (rowOf form e.1 e.2)).map
          (fieldOf "id") =
      (slice (((entriesWhere books form keep).map (·.1)).mergeSort (precedes sorts))
        (pageOffset number size) (pageOffset number size + size)).map (fieldOf "id") := by
  have hsort : ((entriesWhere books form keep).mergeSort fun e e' => precedes sorts e.1 e'.1).map
      (·.1) = ((entriesWhere books form keep).map (·.1)).mergeSort (precedes sorts) :=
    List.map_mergeSort fun _ _ _ _ => rfl
  rw [slice_eq_window _ hn hs, ← hsort, ← StoredSource.map_window, List.map_map, List.map_map]
  refine List.map_congr_left fun e he => h.id_entity hform ?_
  exact (List.mem_filter.mp (List.mem_mergeSort.mp (mem_of_mem_window he))).1

end Library

/-! ## Answers -/

/-- The entities that are picked, in the order of sorts. -/
def picked (books : List Value) (form : TableForm) (keep : Value → Bool) (sorts : List BoundSort) :
    List Value :=
  ((entitiesOf form.type books).filter keep).mergeSort (precedes sorts)

/-- What is told about the page of a query, if the entities that are picked are all there are. -/
def answerOf (books : List Value) (form : TableForm) (keep : Value → Bool)
    (sorts : List BoundSort) (q : PageQuery) : Except Fault (PageMeta × List Value) :=
  (paginate (picked books form keep sorts) q.pageNumber q.pageSize).map answer

/-- Whether storage takes the numbers of the page of a query. -/
def takesPage (q : PageQuery) : Bool :=
  Cell.holdsInteger q.pageSize && Cell.holdsInteger (pageOffset q.pageNumber q.pageSize)

/-- An answer as long as storage takes the numbers of the page. -/
def withinStorage (q : PageQuery) (told : Except Fault (PageMeta × List Value)) :
    Except Fault (PageMeta × List Value) :=
  told.bind fun told => if takesPage q then .ok told else .error .integerTooLarge

@[simp] theorem withinStorage_of_takesPage {q : PageQuery} (h : takesPage q)
    (told : Except Fault (PageMeta × List Value)) : withinStorage q told = told := by
  cases told with
  | error e => rfl
  | ok told => exact if_pos h

theorem mem_picked {keep : Value → Bool} {v : Value} :
    v ∈ picked books form keep sorts ↔ v ∈ entitiesOf form.type books ∧ keep v = true := by
  rw [picked, List.mem_mergeSort, List.mem_filter]

theorem length_picked_le (keep : Value → Bool) :
    (picked books form keep sorts).length ≤ (entitiesOf form.type books).length := by
  rw [picked, List.length_mergeSort]
  exact List.length_filter_le _ _

/-- Equal answers show the same keys. -/
theorem ids_of_answerOf_eq {keep keep' : Value → Bool} {q : PageQuery} (hn : 1 ≤ q.pageNumber)
    (hs : 1 ≤ q.pageSize)
    (heq : answerOf books form keep sorts q = answerOf books form keep' sorts q) :
    (pagePart (picked books form keep sorts) q.pageSize q.pageNumber).map (fieldOf "id") =
      (pagePart (picked books form keep' sorts) q.pageSize q.pageNumber).map (fieldOf "id") := by
  rw [answerOf, answerOf, paginate_eq _ hs hn, paginate_eq _ hs hn] at heq
  exact (Prod.mk.inj (Except.ok.inj heq)).2

theorem answerOf_congr {keep keep' : Value → Bool}
    (hkeep : ∀ v ∈ entitiesOf form.type books, keep v = keep' v) (sorts : List BoundSort)
    (q : PageQuery) : answerOf books form keep sorts q = answerOf books form keep' sorts q := by
  rw [answerOf, answerOf, picked, picked, List.filter_congr hkeep]

namespace Library

variable (h : Library books) (hform : form ∈ forms)

include h hform

theorem mergeSort_entriesWhere (hplaced : Placed form filters sorts) (keep : Value → Bool) :
    ((entriesWhere books form keep).map (·.1)).mergeSort (precedes sorts) =
      picked books form keep sorts := by
  have hentries := h.arrange_entities hform hplaced keep (entriesWhere_perm books form keep)
  have hentities := h.arrange_entities hform hplaced keep (.refl _)
  exact Except.ok.inj (hentries.symm.trans hentities)

theorem length_entriesWhere (hplaced : Placed form filters sorts) (keep : Value → Bool) :
    (entriesWhere books form keep).length = (picked books form keep sorts).length := by
  rw [← h.mergeSort_entriesWhere hform hplaced, List.length_mergeSort, List.length_map]

/-- The answer of the source in memory. -/
theorem memorySource_answer {q : PageQuery} {plan : Plan}
    (hplan : schema.compile (.entity form.type) q = .ok plan)
    (hplaced : Placed form plan.filters plan.sorts) {keep : Value → Bool}
    (hkeep : ∀ v ∈ entitiesOf form.type books,
      schema.satisfies plan.filters v = .ok (keep v)) :
    ((memorySource books form).run q).map answer = answerOf books form keep plan.sorts q := by
  rw [h.memorySource_page hform hplan hplaced hkeep, h.mergeSort_entriesWhere hform hplaced,
    h.length_entriesWhere hform hplaced, answerOf, paginate]
  cases PageWindow.of q.pageNumber q.pageSize (picked books form keep plan.sorts).length <;> rfl

/-- The answer of the source in tables. -/
theorem storedSource_answer {q : PageQuery} {plan : Plan}
    (hplan : (mappedDatabase []).schema.compile (.entity form.type) q = .ok plan)
    (hplaced : Placed form plan.filters plan.sorts)
    (haccepts : ∀ b ∈ plan.filters, JoinTable.accepts b = true) :
    ((storedSource books form).run q).map answer =
      withinStorage q (answerOf books form (meetsAll plan.filters) plan.sorts q) := by
  rw [h.storedSource_page hform hplan hplaced haccepts, withinStorage, answerOf, paginate,
    h.length_entriesWhere hform hplaced]
  cases hw : PageWindow.of q.pageNumber q.pageSize
      (picked books form (meetsAll plan.filters) plan.sorts).length with
  | error e => rfl
  | ok w =>
    obtain ⟨hn, hs, hskip⟩ := window_ok hw
    have hkeys := h.keys_eq hform (meetsAll plan.filters) plan.sorts hn hs
    rw [h.mergeSort_entriesWhere hform hplaced] at hkeys
    simp only [bind, Except.bind, Except.map, pure, Except.pure, hskip]
    cases hsize : Cell.holdsInteger q.pageSize with
    | false => simp only [takesPage, Cell.ofInteger, hsize, Bool.false_and, Bool.false_eq_true,
        if_false]
    | true =>
      cases hoffset : Cell.holdsInteger (pageOffset q.pageNumber q.pageSize) with
      | false => simp only [takesPage, Cell.ofInteger, hsize, hoffset, Bool.and_false,
          Bool.false_eq_true, if_false, if_true]
      | true =>
        simp only [takesPage, Cell.ofInteger, hsize, hoffset, Bool.and_true, if_true]
        exact congrArg Except.ok (answer_ofWindow hkeys)

/-- A first page that holds all entities tells which of them are picked. -/
theorem answerOf_eq_iff {keep keep' : Value → Bool} (sorts : List BoundSort) {q : PageQuery}
    (hfirst : q.pageNumber = 1) (hpositive : 1 ≤ q.pageSize)
    (hall : (entitiesOf form.type books).length ≤ q.pageSize) :
    answerOf books form keep sorts q = answerOf books form keep' sorts q ↔
      ∀ v ∈ entitiesOf form.type books, keep v = keep' v := by
  refine ⟨fun heq v hv => ?_, fun hkeep => answerOf_congr hkeep sorts q⟩
  have hids := ids_of_answerOf_eq (by omega) hpositive heq
  have hmem : ∀ keep : Value → Bool, fieldOf "id" v ∈ (pagePart (picked books form keep sorts)
      q.pageSize q.pageNumber).map (fieldOf "id") ↔ keep v = true := by
    intro keep
    have hwhole : ((picked books form keep sorts).length : Int) ≤ q.pageSize :=
      (Int.ofNat_le.mpr (length_picked_le keep)).trans hall
    rw [hfirst, pagePart_one _ hwhole, List.mem_map]
    refine ⟨fun ⟨w, hw, hid⟩ => ?_, fun hkeep => ⟨v, mem_picked.mpr ⟨hv, hkeep⟩, rfl⟩⟩
    obtain ⟨hw, hkeep⟩ := mem_picked.mp hw
    exact h.eq_of_id hform hw hv hid ▸ hkeep
  rw [Bool.eq_iff_iff, ← hmem keep, ← hmem keep', hids]

end Library

end

end Sample

end PagedQuery
