import PagedQuery.Proofs.Sources.Joins
import PagedQuery.Source.Basic

/-!
# Growing a source step by step

Sources grow by filters and sorts, put on in any number of calls. The statement of a source in
tables then has one join for each route that the paths of the clauses cross, from the slot of the
route without its last relation, and each clause reads the slot of its own relations.
-/

namespace PagedQuery

/-- A call that filters or orders a source. -/
inductive SourceStep
  | select (filters : List BoundFilter)
  | order (sorts : List BoundSort)
  deriving Inhabited

namespace SourceStep

def filters : SourceStep → List BoundFilter
  | select filters => filters
  | order _ => []

def sorts : SourceStep → List BoundSort
  | select _ => []
  | order sorts => sorts

/-- The filters of all calls, in their order. -/
def allFilters (steps : List SourceStep) : List BoundFilter := steps.flatMap filters

/-- The sorts of all calls, in their order. -/
def allSorts (steps : List SourceStep) : List BoundSort := steps.flatMap sorts

/-- The paths of all clauses. -/
def allPaths (steps : List SourceStep) : List FieldPath :=
  (allFilters steps).map (·.path) ++ (allSorts steps).map (·.path)

@[simp] theorem allFilters_select (filters : List BoundFilter) (steps : List SourceStep) :
    allFilters (select filters :: steps) = filters ++ allFilters steps := rfl

@[simp] theorem allSorts_select (filters : List BoundFilter) (steps : List SourceStep) :
    allSorts (select filters :: steps) = allSorts steps := rfl

@[simp] theorem allFilters_order (sorts : List BoundSort) (steps : List SourceStep) :
    allFilters (order sorts :: steps) = allFilters steps := rfl

@[simp] theorem allSorts_order (sorts : List BoundSort) (steps : List SourceStep) :
    allSorts (order sorts :: steps) = sorts ++ allSorts steps := rfl

end SourceStep

namespace Source

def step (source : Source) : SourceStep → Except Fault Source
  | .select filters => source.filteredBy filters
  | .order sorts => .ok (source.orderedBy sorts)

/-- A source after calls one after the other, up to the first that is refused. -/
def build (source : Source) (steps : List SourceStep) : Except Fault Source :=
  steps.foldlM step source

theorem build_cons (source : Source) (first : SourceStep) (steps : List SourceStep) :
    source.build (first :: steps) = (source.step first).bind (·.build steps) := by
  simp only [build, List.foldlM_cons]
  rfl

end Source

open JoinTable

namespace StoredSource

variable {s : StoredSource} {filters : List BoundFilter} {sorts : List BoundSort}

/-- The statement of a source asks for certain filters and sorts: its joins serve their paths and
nothing else, and criteria and terms read the slots at the ends of these. -/
structure Tracks (s : StoredSource) (filters : List BoundFilter) (sorts : List BoundSort) :
    Prop where
  grown : s.joinTable.Grown
  mem_routes : ∀ r, r ∈ s.joinTable.routes ↔
    ∃ p ∈ filters.map (·.path) ++ sorts.map (·.path), p.Crosses r
  isSome : ∀ p ∈ filters.map (·.path) ++ sorts.map (·.path),
    (s.joinTable.slot? p.relations).isSome
  criteria_eq : s.statement.criteria = filters.map s.joinTable.criterionOf
  terms_eq : s.statement.terms = sorts.map s.joinTable.termOf

theorem tracks_fresh (db : Database) (t : Table) (loads : List FieldPath) :
    Tracks { database := db, table := t, loads } [] [] where
  grown := .empty
  mem_routes := by simp [joinTable, joins, routes]
  isSome := by simp
  criteria_eq := rfl
  terms_eq := rfl

namespace Tracks

theorem map_criterionOf (h : s.Tracks filters sorts) {js : JoinTable}
    (hext : s.joinTable.Extends js) :
    filters.map s.joinTable.criterionOf = filters.map js.criterionOf := by
  refine List.map_congr_left fun b hb => ?_
  have hmem : b.path ∈ filters.map (·.path) ++ sorts.map (·.path) :=
    List.mem_append_left _ (List.mem_map_of_mem hb)
  rw [criterionOf, criterionOf, hext.columnOf_eq (h.isSome _ hmem)]

theorem map_termOf (h : s.Tracks filters sorts) {js : JoinTable}
    (hext : s.joinTable.Extends js) :
    sorts.map s.joinTable.termOf = sorts.map js.termOf := by
  refine List.map_congr_left fun b hb => ?_
  have hmem : b.path ∈ filters.map (·.path) ++ sorts.map (·.path) :=
    List.mem_append_right _ (List.mem_map_of_mem hb)
  rw [termOf, termOf, hext.columnOf_eq (h.isSome _ hmem)]

/-- Joins that reach further paths serve those that were there as well. -/
theorem mem_routes_of_reaches (h : s.Tracks filters sorts) {js : JoinTable}
    {paths : List FieldPath} (hreaches : s.joinTable.Reaches js paths) (r : List String) :
    r ∈ js.routes ↔
      ∃ p ∈ (filters.map (·.path) ++ sorts.map (·.path)) ++ paths, p.Crosses r := by
  simp only [hreaches.mem_routes, h.mem_routes, List.mem_append, or_and_right, exists_or]

theorem isSome_of_reaches (h : s.Tracks filters sorts) {js : JoinTable} {paths : List FieldPath}
    (hreaches : s.joinTable.Reaches js paths) :
    ∀ p ∈ (filters.map (·.path) ++ sorts.map (·.path)) ++ paths,
      (js.slot? p.relations).isSome := by
  intro p hp
  rcases List.mem_append.mp hp with hp | hp
  · exact hreaches.extends_.isSome (h.isSome p hp)
  · exact hreaches.isSome p hp

/-- Filtering either refuses a filter, or adds criteria for all of them. -/
theorem filteredBy (h : s.Tracks filters sorts) (more : List BoundFilter) :
    (more.all accepts = false ∧ s.filteredBy more = .error .orderedBoolean) ∨
      more.all accepts = true ∧ ∃ s', s.filteredBy more = .ok s' ∧
        s'.Tracks (filters ++ more) sorts ∧ s'.database = s.database ∧ s'.table = s.table := by
  unfold StoredSource.filteredBy
  split
  · next hempty =>
    rw [List.isEmpty_iff.mp hempty, List.append_nil]
    exact .inr ⟨rfl, s, rfl, h, rfl, rfl⟩
  · rcases criteria_reaches more h.grown with ⟨hall, herror⟩ | ⟨hall, js, hok, hreaches⟩
    · exact .inl ⟨hall, by rw [herror]; rfl⟩
    · let st : Statement := { s.statement with
        joins := js.joins
        criteria := s.statement.criteria ++ more.map js.criterionOf }
      refine .inr ⟨hall, { s with statement := st, slots := js.slots }, by rw [hok]; rfl,
        ⟨hreaches.grown, fun r => ?_, fun p hp => ?_, ?_, ?_⟩, rfl, rfl⟩
      · refine (h.mem_routes_of_reaches hreaches r).trans ?_
        simp only [List.map_append, List.mem_append, or_right_comm]
      · refine h.isSome_of_reaches hreaches p ?_
        simpa only [List.map_append, List.mem_append, or_right_comm] using hp
      · change s.statement.criteria ++ more.map js.criterionOf = _
        rw [h.criteria_eq, h.map_criterionOf hreaches.extends_, List.map_append]
        rfl
      · change s.statement.terms = _
        rw [h.terms_eq, h.map_termOf hreaches.extends_]
        rfl

theorem orderedBy (h : s.Tracks filters sorts) (more : List BoundSort) :
    (s.orderedBy more).Tracks filters (sorts ++ more) ∧
      (s.orderedBy more).database = s.database ∧ (s.orderedBy more).table = s.table := by
  unfold StoredSource.orderedBy
  split
  · next hempty =>
    rw [List.isEmpty_iff.mp hempty, List.append_nil]
    exact ⟨h, rfl, rfl⟩
  · obtain ⟨js, hterms, hreaches⟩ := terms_reaches more h.grown
    rw [hterms]
    refine ⟨⟨hreaches.grown, fun r => ?_, fun p hp => ?_, ?_, ?_⟩, rfl, rfl⟩
    · refine (h.mem_routes_of_reaches hreaches r).trans ?_
      simp only [List.map_append, List.append_assoc]
    · refine h.isSome_of_reaches hreaches p ?_
      simpa only [List.map_append, List.append_assoc] using hp
    · change s.statement.criteria = _
      rw [h.criteria_eq, h.map_criterionOf hreaches.extends_]
      rfl
    · change s.statement.terms ++ more.map js.termOf = _
      rw [h.terms_eq, h.map_termOf hreaches.extends_, List.map_append]
      rfl

/-- Calls either refuse a filter, or leave a source that tracks all their clauses. -/
theorem build (h : s.Tracks filters sorts) (steps : List SourceStep) :
    ((SourceStep.allFilters steps).all accepts = false ∧
        (Source.stored s).build steps = .error .orderedBoolean) ∨
      (SourceStep.allFilters steps).all accepts = true ∧
        ∃ s', (Source.stored s).build steps = .ok (.stored s') ∧
          s'.Tracks (filters ++ SourceStep.allFilters steps) (sorts ++ SourceStep.allSorts steps) ∧
          s'.database = s.database ∧ s'.table = s.table := by
  induction steps generalizing s filters sorts with
  | nil => exact .inr ⟨rfl, s, rfl, by simpa [SourceStep.allFilters, SourceStep.allSorts] using h,
      rfl, rfl⟩
  | cons first steps ih =>
    rw [Source.build_cons]
    cases first with
    | select more =>
      rw [SourceStep.allFilters_select, SourceStep.allSorts_select, List.all_append]
      rcases h.filteredBy more with ⟨hall, herror⟩ | ⟨hall, s', hok, htracks, hdb, ht⟩
      · refine .inl ⟨by rw [hall, Bool.false_and], ?_⟩
        simp [Source.step, Source.filteredBy, herror, Except.map, Except.bind]
      · have hstep : (Source.stored s).step (.select more) = .ok (.stored s') := by
          simp [Source.step, Source.filteredBy, hok, Except.map]
        rw [hstep, hall, Bool.true_and, ← hdb, ← ht, ← List.append_assoc]
        exact ih htracks
    | order more =>
      obtain ⟨htracks, hdb, ht⟩ := h.orderedBy more
      rw [SourceStep.allFilters_order, SourceStep.allSorts_order, ← hdb, ← ht,
        ← List.append_assoc]
      exact ih htracks

end Tracks

/-- Every route that paths cross has one join, which fills a slot of its own with the rows that the
last relation of the route leads to from the slot of the route before it. Criteria and terms read
the slots at the ends of their own relations. -/
structure JoinsOnce (s : StoredSource) (filters : List BoundFilter) (sorts : List BoundSort)
    (routes : List (List String)) (slot : List String → Slot) : Prop where
  nodup : routes.Nodup
  mem_routes : ∀ r, r ∈ routes ↔
    ∃ p ∈ filters.map (·.path) ++ sorts.map (·.path), p.Crosses r
  slot_nil : slot [] = 0
  slot_inj : ∀ r ∈ [] :: routes, ∀ r' ∈ [] :: routes, slot r = slot r' → r = r'
  joins_eq : s.joins = routes.map fun r => ⟨slot r.dropLast, r.getLastD "", slot r⟩
  criteria_eq : s.statement.criteria = filters.map fun b =>
    ⟨⟨slot b.path.relations, b.path.column⟩, b.clause.operator, b.value⟩
  terms_eq : s.statement.terms = sorts.map fun b =>
    ⟨⟨slot b.path.relations, b.path.column⟩, b.isDescending⟩

theorem Tracks.joinsOnce (h : s.Tracks filters sorts) :
    s.JoinsOnce filters sorts s.joinTable.routes s.joinTable.slotOf where
  nodup := h.grown.nodup_routes
  mem_routes := h.mem_routes
  slot_nil := slotOf_nil
  slot_inj := by
    intro r hr r' hr' heq
    obtain ⟨slot, hslot⟩ := Option.isSome_iff_exists.mp
      (isSome_slot?_iff.mpr (List.mem_cons.mp hr))
    obtain ⟨slot', hslot'⟩ := Option.isSome_iff_exists.mp
      (isSome_slot?_iff.mpr (List.mem_cons.mp hr'))
    rw [slotOf_eq hslot, slotOf_eq hslot'] at heq
    exact h.grown.slot?_inj hslot (heq ▸ hslot')
  joins_eq := h.grown.joins_eq
  criteria_eq := h.criteria_eq
  terms_eq := h.terms_eq

end StoredSource

/-- The routes that paths cross. -/
def routesOf (paths : List FieldPath) : Finset (List String) :=
  (paths.flatMap fun p => p.relations.inits).toFinset.erase []

theorem mem_routesOf {paths : List FieldPath} {r : List String} :
    r ∈ routesOf paths ↔ ∃ p ∈ paths, p.Crosses r := by
  simp only [routesOf, Finset.mem_erase, List.mem_toFinset, List.mem_flatMap, List.mem_inits,
    FieldPath.Crosses]
  constructor
  · rintro ⟨hne, p, hp, hpre⟩
    exact ⟨p, hp, hne, hpre⟩
  · rintro ⟨p, hp, hne, hpre⟩
    exact ⟨hne, p, hp, hpre⟩

namespace StoredSource

theorem JoinsOnce.length_joins {s : StoredSource} {filters : List BoundFilter}
    {sorts : List BoundSort} {routes : List (List String)} {slot : List String → Slot}
    (h : s.JoinsOnce filters sorts routes slot) :
    s.joins.length = (routesOf (filters.map (·.path) ++ sorts.map (·.path))).card := by
  have hroutes : routesOf (filters.map (·.path) ++ sorts.map (·.path)) = routes.toFinset := by
    ext r
    rw [mem_routesOf, ← h.mem_routes, List.mem_toFinset]
  rw [hroutes, List.toFinset_card_of_nodup h.nodup, h.joins_eq, List.length_map]

/-- However clauses are put on a source in tables, the statement joins once along every route that
their paths cross, unless a filter is refused. -/
theorem build_joinsOnce (db : Database) (t : Table) (steps : List SourceStep) :
    ((SourceStep.allFilters steps).all accepts = false ∧
        (Source.stored { database := db, table := t }).build steps = .error .orderedBoolean) ∨
      ∃ s routes slot,
        (Source.stored { database := db, table := t }).build steps = .ok (.stored s) ∧
        s.JoinsOnce (SourceStep.allFilters steps) (SourceStep.allSorts steps) routes slot ∧
        s.joins.length = (routesOf (SourceStep.allPaths steps)).card ∧
        ∀ steps' s', (∀ p, p ∈ SourceStep.allPaths steps' ↔ p ∈ SourceStep.allPaths steps) →
          (Source.stored { database := db, table := t }).build steps' = .ok (.stored s') →
          s'.joins.length = s.joins.length := by
  have hlength : ∀ steps s, (Source.stored { database := db, table := t }).build steps =
      .ok (.stored s) → s.JoinsOnce (SourceStep.allFilters steps) (SourceStep.allSorts steps)
        s.joinTable.routes s.joinTable.slotOf := by
    intro steps s hs
    rcases (tracks_fresh db t []).build steps with ⟨-, herror⟩ | ⟨-, s', hok, htracks, -, -⟩
    · rw [herror] at hs
      cases hs
    · rw [hok] at hs
      cases hs
      exact htracks.joinsOnce
  rcases (tracks_fresh db t []).build steps with hrefused | ⟨-, s, hok, -, -, -⟩
  · exact .inl hrefused
  · refine .inr ⟨s, _, _, hok, hlength steps s hok, (hlength steps s hok).length_joins, ?_⟩
    intro steps' s' hpaths hok'
    rw [(hlength steps' s' hok').length_joins, (hlength steps s hok).length_joins]
    congr 1
    ext r
    rw [mem_routesOf, mem_routesOf]
    exact exists_congr fun p => and_congr_left fun _ => hpaths p

end StoredSource

end PagedQuery
