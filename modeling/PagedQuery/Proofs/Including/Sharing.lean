import PagedQuery.Proofs.Including.Trie

/-!
# Queries that share the graph of their builder

A built query keeps its clauses and its page window, whatever its builder goes on to do. Its graph
is the builder's own, so that later inclusions show in it, unless there was no graph yet or they
lead nowhere that an earlier inclusion has not been.
-/

namespace PagedQuery

open PagedQuery.Text

namespace IncludeGraph

variable {graph : IncludeGraph} {route : List String} {routes : List (List String)}

/-- A route on which there is something leads to nothing new. -/
theorem insert_of_has (hroute : route ≠ [])
    (h : (IncludeTree.node graph).Has (fun _ => True) route) : graph.insert route = graph := by
  induction route generalizing graph with
  | nil => exact (hroute rfl).elim
  | cons key rest ih =>
    obtain ⟨child, hlookup, hchild⟩ := IncludeTree.has_node_cons.mp h
    by_cases hrest : rest = []
    · subst hrest
      rw [insert, hlookup]
      rfl
    · obtain ⟨next, others, rfl⟩ := List.exists_cons_of_ne_nil hrest
      cases child with
      | leaf => exact (IncludeTree.not_has_leaf_cons hchild).elim
      | node children =>
        have hbelow : childrenAt key graph = children := by rw [childrenAt, hlookup]
        rw [insert_cons hrest, hbelow, ih hrest hchild, putEntry_of_lookup? hlookup]

/-- Insertions change a graph just if one of them leads to something new. -/
theorem foldl_insert_eq_self_iff (hroutes : ∀ route ∈ routes, route ≠ []) :
    routes.foldl insert graph = graph ↔
      ∀ route ∈ routes, (IncludeTree.node graph).Has (fun _ => True) route := by
  constructor
  · intro h route hroute
    rw [← h, has_foldl_insert (fun _ => trivial) hroutes]
    exact .inr ⟨route, hroute, List.prefix_refl route, fun _ => trivial⟩
  · intro h
    induction routes with
    | nil => rfl
    | cons route routes ih =>
      rw [List.foldl_cons, insert_of_has (hroutes route List.mem_cons_self)
        (h route List.mem_cons_self)]
      exact ih (fun r hr => hroutes r (List.mem_cons_of_mem route hr))
        fun r hr => h r (List.mem_cons_of_mem route hr)

end IncludeGraph

/-- The graph with paths included one after the other. -/
def IncludeGraph.including (graph : IncludeGraph) (paths : List String) : IncludeGraph :=
  (paths.map segments).foldl insert graph

theorem IncludeGraph.including_eq_self_iff {graph : IncludeGraph} {paths : List String} :
    graph.including paths = graph ↔
      ∀ path ∈ paths, (IncludeTree.node graph).Has (fun _ => True) (segments path) := by
  rw [including, foldl_insert_eq_self_iff fun _ => QueryBuilder.ne_nil_of_mem_map_segments paths,
    List.forall_mem_map]

/-- Paths that are included one after the other lead along all beginnings of theirs. -/
theorem IncludeGraph.has_including {paths : List String} {path : String} :
    (IncludeTree.node (IncludeGraph.including [] paths)).Has (fun _ => True) (segments path) ↔
      ∃ included ∈ paths, segments path <+: segments included := by
  obtain ⟨key, rest, hkey⟩ := List.exists_cons_of_ne_nil (segments_ne_nil path)
  rw [including, has_foldl_insert (fun _ => trivial)
    fun _ => QueryBuilder.ne_nil_of_mem_map_segments paths]
  simp [hkey, IncludeTree.has_node_cons, lookup?]

/-- The path that a step includes. -/
def BuilderStep.path? : BuilderStep → Option String
  | .inclusion path => some path
  | _ => none

/-- The paths that steps include. -/
def includedBy (steps : List BuilderStep) : List String := steps.filterMap (·.path?)

namespace QueryBuilder

/-- A step leaves the graph as it is, also where it fails, or includes its path. -/
theorem graph_step (b : QueryBuilder) (step : BuilderStep) :
    ((b.step step).toOption.getD b).graph = b.graph.including step.path?.toList := by
  unfold QueryBuilder.step
  split
  · next value => cases value.written <;> rfl
  · next token value => cases operator token <;> cases value.written <;> rfl
  · rfl
  · next token => cases direction token <;> rfl
  · rfl
  · rfl

/-- The graph after steps is that of the inclusions among them. -/
theorem graph_after (b : QueryBuilder) (steps : List BuilderStep) :
    (b.after steps).graph = b.graph.including (includedBy steps) := by
  induction steps generalizing b with
  | nil => rfl
  | cons step steps ih =>
    rw [after, List.foldl_cons, ← after, ih, graph_step]
    unfold IncludeGraph.including
    rw [← List.foldl_append, ← List.map_append]
    cases hstep : step.path? <;> simp [includedBy, hstep]

/-- There is no graph as long as no path has been included. -/
theorem graph_after_eq_nil_iff (steps : List BuilderStep) :
    (after {} steps).graph = [] ↔ includedBy steps = [] := by
  rw [graph_after]
  constructor
  · intro h
    by_contra hne
    obtain ⟨path, paths, hpaths⟩ := List.exists_cons_of_ne_nil hne
    have hhas : (IncludeTree.node []).Has (fun _ => True) (segments path) := by
      rw [← h, hpaths]
      exact IncludeGraph.has_including.mpr ⟨path, List.mem_cons_self, List.prefix_refl _⟩
    obtain ⟨key, rest, hkey⟩ := List.exists_cons_of_ne_nil (segments_ne_nil path)
    simp [hkey, IncludeTree.has_node_cons, lookup?] at hhas
  · intro h
    rw [h]
    rfl

/-- A query that has a graph reads with that of its builder's later state. -/
theorem read_build (b later : QueryBuilder) :
    b.build.read later =
      { b.build.query with graph := if b.graph = [] then none else some later.graph } := by
  unfold BuiltQuery.read build
  cases b.graph <;> rfl

end QueryBuilder

/-- Reading a query when its builder has gone on gives the clauses and the page window with which it
was built. Its graph is the one with which it was built and the later inclusions in it, if it was
given one. So it reads as it was built exactly if no path had been included before, or no later
path leads further than those included before. -/
theorem read_after_steps (earlier later : List BuilderStep) :
    let b := QueryBuilder.after {} earlier
    let built := b.build
    let read := built.read (b.after later)
    read.filters = built.query.filters ∧ read.sorts = built.query.sorts ∧
      read.pageSize = built.query.pageSize ∧ read.pageNumber = built.query.pageNumber ∧
      read.graph = built.query.graph.map (·.including (includedBy later)) ∧
      (read = built.query ↔ includedBy earlier = [] ∨
        ∀ path ∈ includedBy later, ∃ included ∈ includedBy earlier,
          segments path <+: segments included) := by
  intro b built read
  have hread : read = { built.query with
      graph := built.query.graph.map (·.including (includedBy later)) } := by
    rw [show read = _ from b.read_build (b.after later), b.build_graph, b.graph_after later]
    split <;> rfl
  rw [hread]
  refine ⟨rfl, rfl, rfl, rfl, rfl, ?_⟩
  have hgraph : built.query.graph = if b.graph = [] then none else some b.graph := b.build_graph
  have hsame : ({ built.query with
      graph := built.query.graph.map (·.including (includedBy later)) } : PageQuery) = built.query ↔
        built.query.graph.map (·.including (includedBy later)) = built.query.graph :=
    ⟨congrArg PageQuery.graph, fun h => by rw [h]⟩
  rw [hsame, hgraph, ← QueryBuilder.graph_after_eq_nil_iff]
  split
  · next hnil => exact ⟨fun _ => .inl hnil, fun _ => rfl⟩
  · next hne =>
    rw [Option.map_some, Option.some.injEq, IncludeGraph.including_eq_self_iff,
      or_iff_right hne]
    simp only [b, QueryBuilder.graph_after, IncludeGraph.has_including]

/-- A category that is included later is loaded by a query built before it. -/
theorem inclusion_shows_later :
    let author := QueryBuilder.after {} [.inclusion "Author"]
    let later := author.after [.inclusion "Category"]
    author.build.query.paths = ["Author"] ∧
      (author.build.read later).paths = ["Author", "Category"] := by
  decide +kernel

end PagedQuery
