import Mathlib.Tactic
import PagedQuery.Proofs.Binding.Skipped
import PagedQuery.Proofs.Entries
import PagedQuery.Proofs.Including.Routes
import PagedQuery.Query.Builder

/-!
# Rebuilding a graph from its paths

Including the paths of a graph one after the other in a fresh builder gives the graph back, with its
keys normalized and without the subtrees in which there is nothing to load. Each leaf comes after
those before it, so that the keys come in the order in which they stood.
-/

namespace PagedQuery

open PagedQuery.Text

mutual
/-- A tree with its keys normalized and without subtrees that have no leaf; none if it has no leaf
itself. -/
def IncludeTree.settled? : IncludeTree → Option IncludeTree
  | .leaf => some .leaf
  | .node children =>
    match IncludeGraph.settled children with
    | [] => none
    | children => some (.node children)
/-- A graph with its keys normalized and without subtrees that have no leaf. -/
def IncludeGraph.settled : IncludeGraph → IncludeGraph
  | [] => []
  | (key, child) :: rest =>
    match child.settled? with
    | some child => (normalizeProperty key, child) :: IncludeGraph.settled rest
    | none => IncludeGraph.settled rest
end

mutual
theorem IncludeTree.routes_eq_nil_iff :
    ∀ tree : IncludeTree, tree.routes = [] ↔ tree.settled? = none
  | .leaf => by simp [IncludeTree.routes, IncludeTree.settled?]
  | .node children => by
    rw [IncludeTree.routes, IncludeGraph.routes_eq_nil_iff children, IncludeTree.settled?]
    split
    · next h => simp [h]
    · next h => simpa using h
/-- Nothing is left of a graph just if it has no leaf. -/
theorem IncludeGraph.routes_eq_nil_iff :
    ∀ graph : IncludeGraph, graph.routes = [] ↔ graph.settled = []
  | [] => by simp [IncludeGraph.routes, IncludeGraph.settled]
  | (key, child) :: rest => by
    rw [IncludeGraph.routes, List.append_eq_nil_iff, List.map_eq_nil_iff,
      IncludeTree.routes_eq_nil_iff child, IncludeGraph.routes_eq_nil_iff rest,
      IncludeGraph.settled]
    cases child.settled? <;> simp
end

namespace IncludeGraph

variable {key : String} {route : List String} {before graph : IncludeGraph}

theorem insert_cons (hroute : route ≠ []) (graph : IncludeGraph) :
    graph.insert (key :: route) =
      putEntry key (.node (insert (childrenAt key graph) route)) graph := by
  obtain ⟨next, rest, rfl⟩ := List.exists_cons_of_ne_nil hroute
  rfl

/-- A new key at the end of a route comes last. -/
theorem insert_singleton (h : key ∉ before.map (·.1)) :
    before.insert [key] = before ++ [(key, .leaf)] := by
  have hlookup := lookup?_append_of_not_mem h []
  have hput := putEntry_append_of_not_mem h IncludeTree.leaf []
  rw [List.append_nil] at hlookup hput
  rw [insert, hlookup, hput]
  rfl

/-- A route below the last key goes on in the subtree of that key. -/
theorem insert_append_node (h : key ∉ before.map (·.1)) (hroute : route ≠ []) :
    insert (before ++ [(key, .node graph)]) (key :: route) =
      before ++ [(key, .node (graph.insert route))] := by
  have hchildren : childrenAt key (before ++ [(key, .node graph)]) = graph := by
    rw [childrenAt, lookup?_append_of_not_mem h, lookup?, if_pos rfl]
  rw [insert_cons hroute, hchildren, putEntry_append_of_not_mem h, putEntry, if_pos rfl]

/-- A route below a new key opens a subtree at the end. -/
theorem insert_new (h : key ∉ before.map (·.1)) (hroute : route ≠ []) :
    before.insert (key :: route) = before ++ [(key, .node (insert [] route))] := by
  have hchildren : childrenAt key before = [] := by
    have hlookup := lookup?_append_of_not_mem h []
    rw [List.append_nil] at hlookup
    rw [childrenAt, hlookup]
    rfl
  have hput := putEntry_append_of_not_mem h (IncludeTree.node (insert [] route)) []
  rw [List.append_nil] at hput
  rw [insert_cons hroute, hchildren, hput]
  rfl

theorem foldl_insert_append_node (h : key ∉ before.map (·.1)) (routes : List (List String))
    (hroutes : ∀ route ∈ routes, route ≠ []) (graph : IncludeGraph) :
    (routes.map (key :: ·)).foldl insert (before ++ [(key, .node graph)]) =
      before ++ [(key, .node (routes.foldl insert graph))] := by
  induction routes generalizing graph with
  | nil => rfl
  | cons route routes ih =>
    rw [List.map_cons, List.foldl_cons, insert_append_node h (hroutes route List.mem_cons_self),
      ih (fun r hr => hroutes r (List.mem_cons_of_mem route hr)), List.foldl_cons]

/-- Routes below a new key make up one subtree at the end. -/
theorem foldl_insert_new (h : key ∉ before.map (·.1)) {routes : List (List String)}
    (hne : routes ≠ []) (hroutes : ∀ route ∈ routes, route ≠ []) :
    (routes.map (key :: ·)).foldl insert before =
      before ++ [(key, .node (routes.foldl insert []))] := by
  obtain ⟨route, routes, rfl⟩ := List.exists_cons_of_ne_nil hne
  rw [List.map_cons, List.foldl_cons, insert_new h (hroutes route List.mem_cons_self),
    foldl_insert_append_node h routes fun r hr => hroutes r (List.mem_cons_of_mem route hr)]
  rfl

end IncludeGraph

/-! ## All routes -/

mutual
theorem IncludeTree.foldl_insert_routes : ∀ {tree : IncludeTree}, tree.WellKeyed →
    ∀ {before : IncludeGraph} {key : String}, key ∉ before.map (·.1) →
      (tree.routes.map (key :: ·)).foldl IncludeGraph.insert before =
        before ++ (tree.settled?.map (key, ·)).toList
  | .leaf, _, before, key, hkey => by
    rw [IncludeTree.routes, List.map_cons, List.map_nil, List.foldl_cons, List.foldl_nil,
      IncludeGraph.insert_singleton hkey, IncludeTree.settled?]
    rfl
  | .node children, h, before, key, hkey => by
    rw [IncludeTree.WellKeyed] at h
    have hnew : ∀ e ∈ children, normalizeProperty e.1 ∉ ([] : IncludeGraph).map (·.1) :=
      fun _ _ => List.not_mem_nil
    have hchildren : (IncludeGraph.routes children).foldl IncludeGraph.insert [] =
        IncludeGraph.settled children := IncludeGraph.foldl_insert_routes h hnew
    rw [IncludeTree.routes, IncludeTree.settled?]
    split
    · next hnil =>
      rw [(IncludeGraph.routes_eq_nil_iff children).mpr hnil]
      simp
    · next hne =>
      have hroutes : IncludeGraph.routes children ≠ [] := fun hnil =>
        hne ((IncludeGraph.routes_eq_nil_iff children).mp hnil)
      rw [IncludeGraph.foldl_insert_new hkey hroutes fun _ => IncludeGraph.ne_nil_of_mem_routes,
        hchildren]
      rfl
/-- Inserting the routes of a graph after other keys adds the settled graph to them. -/
theorem IncludeGraph.foldl_insert_routes : ∀ {graph : IncludeGraph}, graph.WellKeyed →
    ∀ {before : IncludeGraph}, (∀ e ∈ graph, normalizeProperty e.1 ∉ before.map (·.1)) →
      graph.routes.foldl IncludeGraph.insert before = before ++ graph.settled
  | [], _, before, _ => by
    rw [IncludeGraph.routes, IncludeGraph.settled, List.foldl_nil, List.append_nil]
  | (key, child) :: rest, h, before, hbefore => by
    obtain ⟨-, hkey, hchild, hrest⟩ := h
    have hnew := hbefore _ List.mem_cons_self
    rw [IncludeGraph.routes, List.foldl_append, IncludeTree.foldl_insert_routes hchild hnew,
      IncludeGraph.foldl_insert_routes hrest, IncludeGraph.settled]
    · cases child.settled? <;> simp
    · -- The keys that follow differ from those before and from this one.
      intro e he hmem
      rw [List.map_append, List.mem_append] at hmem
      rcases hmem with hmem | hmem
      · exact hbefore e (List.mem_cons_of_mem _ he) hmem
      · refine hkey (List.mem_map.mpr ⟨e, he, ?_⟩)
        cases hsettled : child.settled? with
        | none => simp [hsettled] at hmem
        | some tree => simpa [hsettled] using hmem
end

/-- Including paths inserts their routes. -/
theorem QueryBuilder.foldl_withPath_graph (paths : List String) (b : QueryBuilder) :
    (paths.foldl withPath b).graph = (paths.map segments).foldl IncludeGraph.insert b.graph := by
  induction paths generalizing b with
  | nil => rfl
  | cons path paths ih =>
    rw [List.foldl_cons, ih, List.map_cons, List.foldl_cons]
    rfl

theorem QueryBuilder.build_graph (b : QueryBuilder) :
    b.build.query.graph = if b.graph = [] then none else some b.graph := by
  unfold build
  cases b.graph <;> rfl

theorem QueryBuilder.build_paths (b : QueryBuilder) :
    b.build.query.paths = IncludeGraph.flatten b.graph := by
  rw [PageQuery.paths, build_graph]
  split
  · next h =>
    rw [h]
    rfl
  · rfl

theorem IncludeGraph.foldl_withPath_flatten {graph : IncludeGraph} (h : graph.WellKeyed) :
    (graph.flatten.foldl QueryBuilder.withPath {}).graph = graph.settled := by
  have hnew : ∀ e ∈ graph, normalizeProperty e.1 ∉ ([] : IncludeGraph).map (·.1) :=
    fun _ _ => List.not_mem_nil
  rw [QueryBuilder.foldl_withPath_graph, segments_flatten h]
  exact foldl_insert_routes h hnew

mutual
theorem IncludeTree.routes_settled? : ∀ tree : IncludeTree,
    ∀ settled, tree.settled? = some settled → settled.routes = tree.routes
  | .leaf => by
    rintro settled h
    rw [IncludeTree.settled?] at h
    rw [← Option.some.inj h]
  | .node children => by
    intro settled h
    rw [IncludeTree.settled?] at h
    split at h
    · cases h
    · rw [← Option.some.inj h, IncludeTree.routes, IncludeTree.routes,
        IncludeGraph.routes_settled children]
/-- A settled graph has the same routes. -/
theorem IncludeGraph.routes_settled : ∀ graph : IncludeGraph, graph.settled.routes = graph.routes
  | [] => by simp [IncludeGraph.settled]
  | (key, child) :: rest => by
    rw [IncludeGraph.settled, IncludeGraph.routes]
    cases hchild : child.settled? with
    | none =>
      rw [IncludeGraph.routes_settled rest, (IncludeTree.routes_eq_nil_iff child).mpr hchild]
      rfl
    | some tree =>
      rw [IncludeGraph.routes, IncludeGraph.routes_settled rest,
        IncludeTree.routes_settled? child tree hchild, normalizeProperty_normalizeProperty]
end

/-- Including the paths of a graph in a fresh builder gives the settled graph, or none if nothing is
left of it, and that has the same paths again. -/
theorem build_flatten (graph : IncludeGraph) (h : graph.WellKeyed) :
    (graph.flatten.foldl QueryBuilder.withPath {}).build.query.graph =
        (if graph.settled = [] then none else some graph.settled) ∧
      (graph.flatten.foldl QueryBuilder.withPath {}).build.query.paths = graph.flatten := by
  have hgraph := IncludeGraph.foldl_withPath_flatten h
  refine ⟨by rw [QueryBuilder.build_graph, hgraph], ?_⟩
  rw [QueryBuilder.build_paths, hgraph, IncludeGraph.flatten_eq, IncludeGraph.routes_settled,
    ← IncludeGraph.flatten_eq]

/-- A publisher below a category, an author without one, and a key with nothing to load. -/
def shelfGraph : IncludeGraph :=
  [("category", .node [("publisher", .leaf), ("parent", .node [])]), ("author", .leaf),
    ("reviews", .node [("reader", .node [])])]

theorem shelfGraph_build :
    shelfGraph.WellKeyed ∧
      (shelfGraph.flatten.foldl QueryBuilder.withPath {}).build.query.graph =
        some [("Category", .node [("Publisher", .leaf)]), ("Author", .leaf)] := by
  have h : shelfGraph.WellKeyed := by
    simp [shelfGraph, IncludeGraph.WellKeyed, IncludeTree.WellKeyed]
    decide
  refine ⟨h, ?_⟩
  rw [(build_flatten shelfGraph h).1]
  rfl

end PagedQuery
