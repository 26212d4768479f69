import Mathlib.Tactic
import PagedQuery.Proofs.Related
import PagedQuery.Source.Basic

/-!
# Clauses that are left out

Binding a query keeps the clauses whose paths are found, in their order, and lists the texts of the
others. The others do nothing else: a query without them has the same plan but for that list, fails
for the same reason, and gives the same page.
-/

namespace PagedQuery

namespace Schema

section BindEach

variable {α β : Type} {bind : α → Except Fault (Option β)} {text : α → String}

/-- Whether nothing is found for an element, and nothing fails. -/
def isMissed (bind : α → Except Fault (Option β)) (a : α) : Bool :=
  match bind a with
  | .ok none => true
  | _ => false

/-- What is found for an element. -/
def found? (bind : α → Except Fault (Option β)) (a : α) : Option β :=
  match bind a with
  | .ok bound? => bound?
  | .error _ => none

theorem bindEach_cons (a : α) (as : List α) :
    bindEach bind text (a :: as) =
      (bind a).bind fun bound? => (bindEach bind text as).map fun (bound, skipped) =>
        match bound? with
        | some b => (b :: bound, skipped)
        | none => (bound, text a :: skipped) := by
  rw [bindEach]
  cases bind a <;> rfl

theorem bindEach_ok {as : List α} {bound : List β} {skipped : List String}
    (h : bindEach bind text as = .ok (bound, skipped)) :
    bound = as.filterMap (found? bind) ∧ skipped = (as.filter (isMissed bind)).map text ∧
      ∀ a ∈ as, bind a = .ok (found? bind a) := by
  induction as generalizing bound skipped with
  | nil =>
    cases h
    exact ⟨rfl, rfl, by simp⟩
  | cons a as ih =>
    rw [bindEach_cons] at h
    obtain ⟨bound?, ha, h⟩ := exists_of_bind_eq_ok h
    obtain ⟨⟨more, texts⟩, hrest, h⟩ := exists_of_map_eq_ok h
    obtain ⟨rfl, rfl, hall⟩ := ih hrest
    have hfound : found? bind a = bound? := by rw [found?, ha]
    have hall : ∀ c ∈ a :: as, bind c = .ok (found? bind c) := by
      intro c hc
      rcases List.mem_cons.mp hc with rfl | hc
      · rw [ha, hfound]
      · exact hall c hc
    cases bound? with
    | none =>
      cases h
      exact ⟨by rw [List.filterMap_cons_none hfound],
        by rw [List.filter_cons_of_pos (by rw [isMissed, ha])]; rfl, hall⟩
    | some b =>
      cases h
      exact ⟨by rw [List.filterMap_cons_some hfound],
        by rw [List.filter_cons_of_neg (by simp [isMissed, ha])], hall⟩

/-- What is bound of elements that are their own keys: those that are not left out. -/
theorem map_filterMap_found? {key : β → α} {as : List α}
    (hbind : ∀ a ∈ as, bind a = .ok (found? bind a))
    (hkey : ∀ a ∈ as, ∀ b, bind a = .ok (some b) → key b = a) :
    (as.filterMap (found? bind)).map key = as.filter fun a => !isMissed bind a := by
  induction as with
  | nil => rfl
  | cons a as ih =>
    have ih := ih (fun c hc => hbind c (List.mem_cons_of_mem a hc)) fun c hc =>
      hkey c (List.mem_cons_of_mem a hc)
    have ha := hbind a List.mem_cons_self
    cases hfound : found? bind a with
    | none =>
      rw [hfound] at ha
      rw [List.filterMap_cons_none hfound, List.filter_cons_of_neg (by simp [isMissed, ha]), ih]
    | some b =>
      rw [hfound] at ha
      rw [List.filterMap_cons_some hfound, List.filter_cons_of_pos (by simp [isMissed, ha]),
        List.map_cons, ih, hkey a List.mem_cons_self b ha]

/-- Without the elements that are left out, binding comes out the same. -/
theorem bindEach_filter (as : List α) :
    bindEach bind text (as.filter fun a => !isMissed bind a) =
      (bindEach bind text as).map fun (bound, _) => (bound, []) := by
  induction as with
  | nil => rfl
  | cons a as ih =>
    rw [bindEach]
    cases ha : bind a with
    | error e =>
      rw [List.filter_cons_of_pos (by simp [isMissed, ha]), bindEach, ha]
      rfl
    | ok bound? =>
      cases bound? with
      | none =>
        rw [List.filter_cons_of_neg (by simp [isMissed, ha]), ih]
        cases bindEach bind text as <;> rfl
      | some b =>
        rw [List.filter_cons_of_pos (by simp [isMissed, ha]), bindEach, ha, ih]
        cases bindEach bind text as <;> rfl

end BindEach

end Schema

/-! ## Graphs without some leaves -/

namespace IncludeTree

mutual
/-- A child without those of its leaves that are not kept; none if it is such a leaf itself. -/
def pruned? (keep : String → Bool) (path : String) : IncludeTree → Option IncludeTree
  | .leaf => if keep path then some .leaf else none
  | .node children => some (.node (prunedBelow keep (path ++ ".") children))
/-- Children without those of their leaves that are not kept. -/
def prunedBelow (keep : String → Bool) (base : String) :
    List (String × IncludeTree) → List (String × IncludeTree)
  | [] => []
  | (key, child) :: rest =>
    match pruned? keep (base ++ normalizeProperty key) child with
    | some child => (key, child) :: prunedBelow keep base rest
    | none => prunedBelow keep base rest
end

mutual
theorem paths_pruned? (keep : String → Bool) (path : String) :
    (tree : IncludeTree) →
      ((tree.pruned? keep path).map (paths path)).getD [] = (tree.paths path).filter keep
  | .leaf => by
    rw [pruned?, paths, List.filter_cons]
    split <;> rfl
  | .node children => by
    rw [pruned?, paths]
    exact pathsBelow_prunedBelow keep (path ++ ".") children
theorem pathsBelow_prunedBelow (keep : String → Bool) (base : String) :
    (children : List (String × IncludeTree)) →
      pathsBelow base (prunedBelow keep base children) = (pathsBelow base children).filter keep
  | [] => rfl
  | (key, child) :: rest => by
    have hchild := paths_pruned? keep (base ++ normalizeProperty key) child
    have hrest := pathsBelow_prunedBelow keep base rest
    rw [prunedBelow, pathsBelow, List.filter_append, ← hchild, ← hrest]
    cases pruned? keep (base ++ normalizeProperty key) child with
    | none => rfl
    | some child => rfl
end

end IncludeTree

/-- A graph without those of its leaves that are not kept. -/
def IncludeGraph.prune (keep : String → Bool) (graph : IncludeGraph) : IncludeGraph :=
  IncludeTree.prunedBelow keep "" graph

theorem IncludeGraph.flatten_prune (keep : String → Bool) (graph : IncludeGraph) :
    (graph.prune keep).flatten = graph.flatten.filter keep :=
  IncludeTree.pathsBelow_prunedBelow keep "" graph

/-- The paths that a query asks to load. -/
def PageQuery.paths (q : PageQuery) : List String := (q.graph.map (·.flatten)).getD []

namespace Schema

variable {s : Schema} {root : FieldType} {q : PageQuery} {plan : Plan}

/-- Whether a path leads nowhere. -/
def misses (s : Schema) (mode : PathMode) (root : FieldType) (path : String) : Bool :=
  match s.resolve mode root path with
  | .ok none => true
  | _ => false

/-- The relations that a path leads over, if it leads over nothing else. -/
def relationPath? (s : Schema) (root : FieldType) (path : String) : Option FieldPath :=
  match s.resolve .inclusion root path with
  | .ok (some p) => if p.fields.all (·.relation) then some p else none
  | _ => none

/-- Whether a path leads nowhere or over fields that are no relations. -/
def missesRelation (s : Schema) (root : FieldType) (path : String) : Bool :=
  match s.resolve .inclusion root path with
  | .ok none => true
  | .ok (some p) => !p.fields.all (·.relation)
  | .error _ => false

/-- What a plan makes of the clauses of a query: each is bound or listed. -/
structure Places (s : Schema) (root : FieldType) (q : PageQuery) (plan : Plan) : Prop where
  root_eq : plan.root = root
  page_eq : plan.pageNumber = q.pageNumber ∧ plan.pageSize = q.pageSize
  filters_eq : plan.filters.map (·.clause) =
    q.filters.filter fun c => !s.misses .value root c.property
  filters_bound : ∀ b ∈ plan.filters, s.bindFilter root b.clause = .ok (some b)
  sorts_eq : plan.sorts.map (·.clause) = q.sorts.filter fun c => !s.misses .value root c.property
  sorts_bound : ∀ b ∈ plan.sorts, s.resolve .value root b.clause.property = .ok (some b.path)
  positions_eq : plan.sorts.map (·.position) = List.range plan.sorts.length
  includes_eq : plan.includes = q.paths.filterMap (s.relationPath? root)
  skipped_eq : plan.skipped =
    (q.filters.filter fun c => s.misses .value root c.property).map (·.text) ++
      (q.sorts.filter fun c => s.misses .value root c.property).map (·.text) ++
      q.paths.filter (s.missesRelation root)

/-- What binding a filter to a path can come to. -/
inductive BindsTo (s : Schema) (c : FilterClause) (path : FieldPath) :
    Except Fault BoundFilter → Prop
  | pattern (hop : c.operator.isPattern) (htext : s.holdsText path.valueType) :
    BindsTo s c path (.ok ⟨c, path, .text c.value, false⟩)
  | textless (hop : c.operator.isPattern) (htext : ¬ s.holdsText path.valueType) :
    BindsTo s c path (.error (.patternNeedsText c.operator.token c.property path.valueType.label))
  | unordered (hop : c.operator ≠ .compare .equal) (hno : ¬ s.isOrdered path.valueType) :
    BindsTo s c path (.error (.notOrderable c.operator.token c.property))
  | deferred (hop : ¬ c.operator.isPattern) (huntyped : path.valueType.isUntyped) :
    BindsTo s c path (.ok ⟨c, path, .text c.value, true⟩)
  | converted {v : Value} (hop : ¬ c.operator.isPattern)
    (hv : s.convert c.value path.valueType = .ok v) : BindsTo s c path (.ok ⟨c, path, v, false⟩)
  | unconverted {e : Fault} (hop : ¬ c.operator.isPattern)
    (hv : s.convert c.value path.valueType = .error e) : BindsTo s c path (.error e)

theorem bindsTo (s : Schema) (c : FilterClause) (path : FieldPath) :
    s.BindsTo c path (s.bindFilterTo c path) := by
  unfold bindFilterTo
  dsimp only
  split
  · next hop =>
    split
    · next htext => exact .pattern hop htext
    · next htext => exact .textless hop htext
  · next hop =>
    split
    · next hordered => exact .unordered hordered.1 (by simpa using hordered.2)
    · split
      · next huntyped => exact .deferred hop huntyped
      · cases hv : s.convert c.value path.valueType with
        | error e => exact .unconverted hop hv
        | ok v => exact .converted hop hv

/-- What a clause is bound to keeps the clause and the path. -/
theorem bindFilterTo_eq {c : FilterClause} {path : FieldPath} {b : BoundFilter}
    (h : s.bindFilterTo c path = .ok b) : b.clause = c ∧ b.path = path := by
  have hbinds := s.bindsTo c path
  rw [h] at hbinds
  cases hbinds with
  | pattern => exact ⟨rfl, rfl⟩
  | deferred => exact ⟨rfl, rfl⟩
  | converted => exact ⟨rfl, rfl⟩

theorem bindFilter_eq_some {c : FilterClause} {b : BoundFilter}
    (h : s.bindFilter root c = .ok (some b)) :
    b.clause = c ∧ s.resolve .value root c.property = .ok (some b.path) ∧
      s.bindFilterTo c b.path = .ok b := by
  unfold bindFilter at h
  split at h
  · cases h
  · cases h
  · next path hpath =>
    obtain ⟨b', hb, hsome⟩ := exists_of_map_eq_ok h
    obtain rfl := Option.some.inj hsome
    obtain ⟨rfl, rfl⟩ := bindFilterTo_eq hb
    exact ⟨rfl, hpath, hb⟩

theorem isMissed_bindFilter :
    isMissed (s.bindFilter root) = fun c => s.misses .value root c.property := by
  funext c
  unfold isMissed bindFilter misses
  cases s.resolve .value root c.property with
  | error e => rfl
  | ok path? =>
    cases path? with
    | none => rfl
    | some path =>
      dsimp only
      cases s.bindFilterTo c path <;> rfl

theorem bindSort_eq_some {c : SortClause} {bound : SortClause × FieldPath}
    (h : s.bindSort root c = .ok (some bound)) :
    bound.1 = c ∧ s.resolve .value root c.property = .ok (some bound.2) := by
  obtain ⟨path?, hpath, hbound⟩ := exists_of_map_eq_ok h
  obtain ⟨path, rfl, rfl⟩ := Option.map_eq_some_iff.mp hbound
  exact ⟨rfl, hpath⟩

theorem isMissed_bindSort :
    isMissed (s.bindSort root) = fun c => s.misses .value root c.property := by
  funext c
  unfold isMissed bindSort misses
  cases hr : s.resolve .value root c.property with
  | error e => rfl
  | ok path? => cases path? <;> rfl

theorem found?_bindInclude : found? (s.bindInclude root) = s.relationPath? root := by
  funext path
  unfold found? bindInclude relationPath?
  cases hr : s.resolve .inclusion root path with
  | error e => rfl
  | ok path? =>
    cases path? with
    | none => rfl
    | some p =>
      change (Option.filter (fun p => p.fields.all (·.relation)) (some p)) = _
      rw [Option.filter_some]

theorem isMissed_bindInclude : isMissed (s.bindInclude root) = s.missesRelation root := by
  funext path
  unfold isMissed bindInclude missesRelation
  cases s.resolve .inclusion root path with
  | error e => rfl
  | ok path? =>
    cases path? with
    | none => rfl
    | some p =>
      cases hp : p.fields.all (·.relation) <;> simp [Except.map, Option.filter, hp]

theorem bindFilters_ok {bound : List BoundFilter} {skipped : List String}
    (h : s.bindFilters root q.filters = .ok (bound, skipped)) :
    bound.map (·.clause) = (q.filters.filter fun c => !s.misses .value root c.property) ∧
      (∀ b ∈ bound, s.bindFilter root b.clause = .ok (some b)) ∧
      skipped = (q.filters.filter fun c => s.misses .value root c.property).map (·.text) := by
  obtain ⟨rfl, rfl, hall⟩ := bindEach_ok h
  have hkey := map_filterMap_found? hall fun c _ b hb => (bindFilter_eq_some hb).1
  simp only [isMissed_bindFilter] at hkey
  refine ⟨hkey, fun b hb => ?_, by rw [isMissed_bindFilter]⟩
  obtain ⟨c, hc, hfound⟩ := List.mem_filterMap.mp hb
  have hbind := hall c hc
  rw [hfound] at hbind
  rw [(bindFilter_eq_some hbind).1, hbind]

/-- The clauses of sorts that are numbered one after another. -/
theorem map_clause_numbered (found : List (SortClause × FieldPath)) :
    (found.zipIdx.map fun ((c, path), i) => BoundSort.mk c path i).map (·.clause) =
      found.map Prod.fst := by
  calc _ = (found.zipIdx.map Prod.fst).map Prod.fst := by
        rw [List.map_map, List.map_map]
        apply List.map_congr_left
        rintro ⟨⟨c, path⟩, i⟩ -
        rfl
    _ = found.map Prod.fst := by rw [List.zipIdx_map_fst]

theorem map_position_numbered (found : List (SortClause × FieldPath)) :
    (found.zipIdx.map fun ((c, path), i) => BoundSort.mk c path i).map (·.position) =
      List.range found.length := by
  calc _ = found.zipIdx.map Prod.snd := by
        rw [List.map_map]
        apply List.map_congr_left
        rintro ⟨⟨c, path⟩, i⟩ -
        rfl
    _ = List.range found.length := by rw [List.zipIdx_map_snd, ← List.range_eq_range']

theorem bindSorts_ok {bound : List BoundSort} {skipped : List String}
    (h : s.bindSorts root q.sorts = .ok (bound, skipped)) :
    bound.map (·.clause) = (q.sorts.filter fun c => !s.misses .value root c.property) ∧
      (∀ b ∈ bound, s.resolve .value root b.clause.property = .ok (some b.path)) ∧
      bound.map (·.position) = List.range bound.length ∧
      skipped = (q.sorts.filter fun c => s.misses .value root c.property).map (·.text) := by
  obtain ⟨⟨found, texts⟩, hb, hnumbered⟩ := exists_of_map_eq_ok h
  cases hnumbered
  obtain ⟨hfound, hskipped, hall⟩ := bindEach_ok hb
  have hkey := map_filterMap_found? hall fun c _ b hb => (bindSort_eq_some hb).1
  simp only [isMissed_bindSort] at hkey hskipped
  rw [← hfound] at hkey
  refine ⟨(map_clause_numbered _).trans hkey, fun b hb => ?_, ?_, hskipped⟩
  · obtain ⟨⟨⟨c, path⟩, i⟩, hmem, rfl⟩ := List.mem_map.mp hb
    have hmem := List.fst_mem_of_mem_zipIdx hmem
    rw [hfound] at hmem
    obtain ⟨c', hc', hbound⟩ := List.mem_filterMap.mp hmem
    have hbind := hall c' hc'
    rw [hbound] at hbind
    obtain ⟨rfl, hpath⟩ := bindSort_eq_some hbind
    exact hpath
  · rw [List.length_map, List.length_zipIdx]
    exact map_position_numbered _

theorem bindIncludes_ok {bound : List FieldPath} {skipped : List String}
    (h : s.bindIncludes root q.graph = .ok (bound, skipped)) :
    bound = q.paths.filterMap (s.relationPath? root) ∧
      skipped = q.paths.filter (s.missesRelation root) := by
  obtain ⟨rfl, rfl, -⟩ := bindEach_ok h
  exact ⟨by rw [found?_bindInclude]; rfl, by rw [List.map_id, isMissed_bindInclude]; rfl⟩

/-- A plan is made of what is bound of filters, sorts and paths, each on its own. -/
theorem compile_eq (s : Schema) (root : FieldType) (q : PageQuery) :
    s.compile root q =
      (s.bindFilters root q.filters).bind fun filters =>
        (s.bindSorts root q.sorts).bind fun sorts =>
          (s.bindIncludes root q.graph).map fun includes =>
            ⟨root, filters.1, sorts.1, includes.1, q.pageSize, q.pageNumber,
              filters.2 ++ sorts.2 ++ includes.2⟩ := by
  unfold compile
  cases s.bindFilters root q.filters with
  | error e => rfl
  | ok filters =>
    cases s.bindSorts root q.sorts with
    | error e => rfl
    | ok sorts => cases s.bindIncludes root q.graph <;> rfl

theorem places_of_compile (h : s.compile root q = .ok plan) : s.Places root q plan := by
  rw [compile_eq] at h
  obtain ⟨filters, hf, h⟩ := exists_of_bind_eq_ok h
  obtain ⟨sorts, hs, h⟩ := exists_of_bind_eq_ok h
  obtain ⟨includes, hi, rfl⟩ := exists_of_map_eq_ok h
  obtain ⟨hfilters, hboundFilters, hskippedFilters⟩ := bindFilters_ok hf
  obtain ⟨hsorts, hboundSorts, hpositions, hskippedSorts⟩ := bindSorts_ok hs
  obtain ⟨hincludes, hskippedIncludes⟩ := bindIncludes_ok hi
  exact ⟨rfl, ⟨rfl, rfl⟩, hfilters, hboundFilters, hsorts, hboundSorts, hpositions, hincludes,
    by simp only [hskippedFilters, hskippedSorts, hskippedIncludes]⟩

/-- A query without the clauses that are left out, and its graph without such leaves. -/
def pruned (s : Schema) (root : FieldType) (q : PageQuery) : PageQuery :=
  { q with
    filters := q.filters.filter fun c => !s.misses .value root c.property
    sorts := q.sorts.filter fun c => !s.misses .value root c.property
    graph := q.graph.map (·.prune fun path => !s.missesRelation root path) }

theorem paths_pruned : (s.pruned root q).paths =
    q.paths.filter fun path => !s.missesRelation root path := by
  cases hq : q.graph with
  | none => simp [PageQuery.paths, pruned, hq]
  | some graph => simp [PageQuery.paths, pruned, hq, IncludeGraph.flatten_prune]

theorem bindFilters_pruned : s.bindFilters root (s.pruned root q).filters =
    (s.bindFilters root q.filters).map fun (bound, _) => (bound, []) := by
  rw [bindFilters, bindFilters, ← bindEach_filter]
  simp only [isMissed_bindFilter]
  rfl

theorem bindSorts_pruned : s.bindSorts root (s.pruned root q).sorts =
    (s.bindSorts root q.sorts).map fun (bound, _) => (bound, []) := by
  have h : bindEach (s.bindSort root) (·.text) (s.pruned root q).sorts =
      (bindEach (s.bindSort root) (·.text) q.sorts).map fun r => (r.1, []) := by
    rw [← bindEach_filter]
    simp only [isMissed_bindSort]
    rfl
  rw [bindSorts, bindSorts, h]
  cases bindEach (s.bindSort root) (·.text) q.sorts <;> rfl

theorem bindIncludes_pruned : s.bindIncludes root (s.pruned root q).graph =
    (s.bindIncludes root q.graph).map fun (bound, _) => (bound, []) := by
  change bindEach _ _ (s.pruned root q).paths = (bindEach _ _ q.paths).map _
  rw [← bindEach_filter, paths_pruned]
  simp only [isMissed_bindInclude]

/-- Without the clauses that are left out a query has the same plan, with nothing left out, or fails
for the same reason. -/
theorem compile_pruned (s : Schema) (root : FieldType) (q : PageQuery) :
    s.compile root (s.pruned root q) =
      (s.compile root q).map fun plan => { plan with skipped := [] } := by
  rw [compile_eq, compile_eq, bindFilters_pruned, bindSorts_pruned, bindIncludes_pruned]
  cases s.bindFilters root q.filters with
  | error e => rfl
  | ok filters =>
    cases s.bindSorts root q.sorts with
    | error e => rfl
    | ok sorts => cases s.bindIncludes root q.graph <;> rfl

end Schema

namespace Source

/-- What a query's plan leaves out makes no difference to its matches. -/
theorem prepare_pruned (source : Source) (q : PageQuery) :
    source.prepare (source.schema.pruned source.root q) =
      (source.prepare q).map fun p => (p.1, { p.2 with skipped := [] }) := by
  rw [prepare, prepare, Schema.compile_pruned]
  cases source.schema.compile source.root q with
  | error e => rfl
  | ok plan =>
    simp only [Except.map, bind, Except.bind, pure, Except.pure]
    cases (source.including plan.includes).filteredBy plan.filters <;> rfl

theorem runOn_pruned (source : Source) (q : PageQuery) :
    source.runOn (source.schema.pruned source.root q) = source.runOn q := by
  rw [runOn, runOn, prepare_pruned]
  cases source.prepare q <;> rfl

end Source

/-- Every clause of a query is either bound or listed, in the order of the query, and a query
without those that are listed compiles the same and runs the same, on every source. -/
theorem compile_places (s : Schema) (root : FieldType) (source : Source) (q : PageQuery) :
    (∀ plan, s.compile root q = .ok plan → s.Places root q plan) ∧
      s.compile root (s.pruned root q) =
        ((s.compile root q).map fun plan => { plan with skipped := [] }) ∧
      source.run (source.schema.pruned source.root q) = source.run q := by
  refine ⟨fun _ h => Schema.places_of_compile h, s.compile_pruned root q, ?_⟩
  rw [Source.run, Source.run, source.runOn_pruned]

theorem exists_error_of_isNone {α : Type} {r : Except Fault α} (h : r.toOption.isNone) :
    ∃ e, r = .error e := by
  cases r with
  | error e => exact ⟨e, rfl⟩
  | ok a => cases h

/-- Books with an author whose type is given by a text that names none. -/
def orphans : Schema where
  types := [⟨"Book",
    [("title", .scalar .text), ("author", .optional (.forward "()"))], [], .plain, []⟩]

/-- The name of an author leads nowhere, for such a type has no fields. But it has no name either,
so that a query with a filter on it fails, and the same query without the filter does not. -/
theorem orphans_author :
    (∃ m, orphans.model (.forward "()") = .ok m ∧ m.fields = []) ∧
      (∃ e, orphans.compile (.entity "Book")
        { filters := [⟨"Author.Name", .compare .equal, "Austen"⟩] } = .error e) ∧
      ∃ plan, orphans.compile (.entity "Book") {} = .ok plan := by
  have hnone : (orphans.compile (.entity "Book")
      { filters := [⟨"Author.Name", .compare .equal, "Austen"⟩] }).toOption.isNone := by
    decide +kernel
  exact ⟨⟨_, rfl, rfl⟩, exists_error_of_isNone hnone, ⟨_, rfl⟩⟩

end PagedQuery
