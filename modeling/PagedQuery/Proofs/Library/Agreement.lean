import PagedQuery.Proofs.Library.Selection

/-!
# Entities and tables agree

The entities of a library in memory and the rows that they are put into answer queries over the
fields that they share alike: cells compare as the values that they hold, so that both sources pick
the same entities.
-/

namespace PagedQuery

open PagedQuery.Sample

/-- Ordering comparisons of columns take no truth values. -/
theorem BoundFilter.Compares.accepts {b : BoundFilter} (h : b.Compares) : JoinTable.accepts b := by
  have hstores := h.stores
  have hcompares := h.comparesBy
  unfold JoinTable.accepts
  split
  · next op truth hop hvalue =>
    rw [hvalue] at hstores
    rw [hop] at hcompares
    generalize b.path.valueType = type at hstores hcompares
    cases hstores
    cases op with
    | equal => rfl
    | _ => cases hcompares
  · rfl

namespace Sample

theorem Fits.placed {form : TableForm} {filters : List BoundFilter} {sorts : List BoundSort}
    (h : Fits form filters sorts) : Placed form filters sorts where
  storable := fun b hb => (h.compares b hb).stores.ofValue_eq
  filters_lead := h.filters_lead
  sortable := h.sortable
  sorts_lead := h.sorts_lead
  key := h.key

section

variable {books : List Value} {form : TableForm} {filters : List BoundFilter}
  {sorts : List BoundSort}

/-- What the source in memory matches. -/
theorem Library.satisfies_eq (h : Library books) (hform : form ∈ forms)
    (hfits : Fits form filters sorts) {v : Value} (hv : v ∈ entitiesOf form.type books) :
    schema.satisfies filters v = .ok (meetsAll filters v) :=
  allHold_of_forall fun b hb =>
    (hfits.compares b hb).holds_eq schema (h.holds_get hform hv (hfits.filters_lead b hb))

/-- The entries of the entities that meet all filters. -/
def matched (books : List Value) (form : TableForm) (filters : List BoundFilter) :
    List (Value × List (String × Cell)) :=
  (sortedEntries books form).filter fun e => meetsAll filters e.1

namespace Library

variable (h : Library books) (hform : form ∈ forms)

include h hform

/-- A run on the entities: a page of those that match, in order. -/
theorem memorySource_run {q : PageQuery} {plan : Plan}
    (hplan : schema.compile (.entity form.type) q = .ok plan)
    (hfits : Fits form plan.filters plan.sorts) :
    (memorySource books form).run q =
      (PageWindow.of q.pageNumber q.pageSize (matched books form plan.filters).length).map fun w =>
        .ofWindow w (slice (((matched books form plan.filters).map (·.1)).mergeSort
          (precedes plan.sorts)) w.skip (w.skip + q.pageSize)) :=
  h.memorySource_page hform hplan hfits.placed fun _ hv => h.satisfies_eq hform hfits hv

/-- A run on the rows: a page of those of the entities that match, in order. -/
theorem storedSource_run {q : PageQuery} (hq : Shared form q) {plan : Plan}
    (hplan : (mappedDatabase []).schema.compile (.entity form.type) q = .ok plan)
    (hfits : Fits form plan.filters plan.sorts) :
    (storedSource books form).run q =
      (PageWindow.of q.pageNumber q.pageSize (matched books form plan.filters).length).map fun w =>
        .ofWindow w ((StoredSource.window ((matched books form plan.filters).mergeSort fun e e' =>
          precedes plan.sorts e.1 e'.1) w.skip q.pageSize).map fun e =>
            (mappedDatabase books).entity (mappedTable books form) (rowOf form e.1 e.2)) := by
  rw [h.storedSource_page hform hplan hfits.placed fun b hb => (hfits.compares b hb).accepts]
  change (PageWindow.of q.pageNumber q.pageSize (matched books form plan.filters).length).bind _ = _
  cases hw : PageWindow.of q.pageNumber q.pageSize (matched books form plan.filters).length with
  | error e => rfl
  | ok w =>
    obtain ⟨-, -, hskip⟩ := window_ok hw
    have hoffset : Cell.holdsInteger w.skip := hskip ▸ hq.offset
    simp only [Except.bind, Except.map, bind, Cell.ofInteger, hq.size, hoffset, if_true]
    rfl

/-- The pages of both runs show the same keys in the same order. -/
theorem ids_eq (filters : List BoundFilter) (sorts : List BoundSort) {number size : Int}
    (hn : 1 ≤ number) (hs : 1 ≤ size) :
    ((StoredSource.window ((matched books form filters).mergeSort fun e e' =>
      precedes sorts e.1 e'.1) (pageOffset number size) size).map fun e =>
        (mappedDatabase books).entity (mappedTable books form) (rowOf form e.1 e.2)).map
          (fieldOf "id") =
      (slice (((matched books form filters).map (·.1)).mergeSort (precedes sorts))
        (pageOffset number size) (pageOffset number size + size)).map (fieldOf "id") :=
  h.keys_eq hform (meetsAll filters) sorts hn hs

end Library

end

end Sample

end PagedQuery
