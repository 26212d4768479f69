import Mathlib.Tactic
import PagedQuery.Proofs.Text.Dotted
import PagedQuery.Query.Include

/-!
# Routes through include graphs

The leaves of a graph are reached by routes of normalized keys, and flattening writes these routes
as dotted paths. Where no key holds a dot and the keys beside each other differ, there is one path
for each leaf, and its segments are the route.
-/

namespace PagedQuery

open PagedQuery.Text

mutual
/-- The routes to the leaves of a tree. -/
def IncludeTree.routes : IncludeTree → List (List String)
  | .leaf => [[]]
  | .node children => IncludeGraph.routes children
/-- The routes to the leaves of a graph, in the order of its keys. -/
def IncludeGraph.routes : IncludeGraph → List (List String)
  | [] => []
  | (key, child) :: rest =>
    child.routes.map (normalizeProperty key :: ·) ++ IncludeGraph.routes rest
end

mutual
/-- No key in the tree holds a dot, and keys beside each other differ when they are normalized. -/
def IncludeTree.WellKeyed : IncludeTree → Prop
  | .leaf => True
  | .node children => IncludeGraph.WellKeyed children
/-- No key in the graph holds a dot, and keys beside each other differ when they are normalized. -/
def IncludeGraph.WellKeyed : IncludeGraph → Prop
  | [] => True
  | (key, child) :: rest =>
    '.' ∉ key.toList ∧ normalizeProperty key ∉ rest.map (fun e => normalizeProperty e.1) ∧
      child.WellKeyed ∧ IncludeGraph.WellKeyed rest
end

namespace IncludeGraph

variable {graph : IncludeGraph} {route : List String}

theorem mem_routes_cons {key : String} :
    key :: route ∈ graph.routes ↔
      ∃ e ∈ graph, normalizeProperty e.1 = key ∧ route ∈ e.2.routes := by
  induction graph with
  | nil => simp [routes]
  | cons e rest ih =>
    obtain ⟨k, child⟩ := e
    simp only [routes, List.mem_append, List.mem_map, List.cons.injEq, ih, List.mem_cons,
      exists_eq_or_imp]
    constructor
    · rintro (⟨r, hr, rfl, rfl⟩ | h)
      · exact .inl ⟨rfl, hr⟩
      · exact .inr h
    · rintro (⟨rfl, hr⟩ | h)
      · exact .inl ⟨route, hr, rfl, rfl⟩
      · exact .inr h

theorem ne_nil_of_mem_routes (h : route ∈ graph.routes) : route ≠ [] := by
  induction graph with
  | nil => cases h
  | cons e rest ih =>
    rw [routes, List.mem_append] at h
    rcases h with h | h
    · obtain ⟨r, -, rfl⟩ := List.mem_map.mp h
      exact List.cons_ne_nil _ _
    · exact ih h

/-- A route begins with the normalized key of an entry. -/
theorem exists_key_of_mem_routes {key : String} (h : key :: route ∈ graph.routes) :
    key ∈ graph.map (fun e => normalizeProperty e.1) := by
  obtain ⟨e, he, hkey, -⟩ := mem_routes_cons.mp h
  exact List.mem_map.mpr ⟨e, he, hkey⟩

end IncludeGraph

/-! ## Dotted paths -/

mutual
theorem IncludeTree.paths_eq (path : String) :
    ∀ tree : IncludeTree, tree.paths path =
      tree.routes.map fun route => String.intercalate "." (path :: route)
  | .leaf => by simp [paths, routes]
  | .node children => by
    rw [paths, routes, IncludeTree.pathsBelow_eq (path ++ ".") children]
    refine List.map_congr_left fun route hroute => ?_
    obtain ⟨key, rest, rfl⟩ := List.exists_cons_of_ne_nil (IncludeGraph.ne_nil_of_mem_routes hroute)
    rw [String.intercalate_cons_cons]
theorem IncludeTree.pathsBelow_eq (base : String) :
    ∀ graph : List (String × IncludeTree), IncludeTree.pathsBelow base graph =
      (IncludeGraph.routes graph).map fun route => base ++ String.intercalate "." route
  | [] => rfl
  | (key, child) :: rest => by
    rw [pathsBelow, IncludeGraph.routes, List.map_append, List.map_map,
      IncludeTree.paths_eq (base ++ normalizeProperty key) child,
      IncludeTree.pathsBelow_eq base rest]
    refine congrArg (· ++ _) (List.map_congr_left fun route _ => ?_)
    exact String.intercalate_cons_append
end

/-- Flattening a graph writes its routes. -/
theorem IncludeGraph.flatten_eq (graph : IncludeGraph) :
    graph.flatten = graph.routes.map (String.intercalate ".") := by
  rw [flatten, IncludeTree.pathsBelow_eq]
  exact List.map_congr_left fun route _ => String.empty_append

mutual
theorem IncludeTree.segment_of_mem_routes : ∀ {tree : IncludeTree}, tree.WellKeyed →
    ∀ route ∈ tree.routes, ∀ segment ∈ route,
      '.' ∉ segment.toList ∧ normalizeProperty segment = segment
  | .leaf, _ => by simp [IncludeTree.routes]
  | .node children, h => by
    rw [IncludeTree.WellKeyed] at h
    rw [IncludeTree.routes]
    exact IncludeGraph.segment_of_mem_routes h
/-- The segments of a route hold no dots and are normalized. -/
theorem IncludeGraph.segment_of_mem_routes : ∀ {graph : IncludeGraph}, graph.WellKeyed →
    ∀ route ∈ graph.routes, ∀ segment ∈ route,
      '.' ∉ segment.toList ∧ normalizeProperty segment = segment
  | [], _ => by simp [IncludeGraph.routes]
  | (key, child) :: rest, h => by
    obtain ⟨hdot, -, hchild, hrest⟩ := h
    intro route hroute segment hsegment
    rw [IncludeGraph.routes, List.mem_append, List.mem_map] at hroute
    rcases hroute with ⟨r, hr, rfl⟩ | hroute
    · rcases List.mem_cons.mp hsegment with rfl | hsegment
      · exact ⟨dot_not_mem_normalizeProperty hdot, normalizeProperty_normalizeProperty key⟩
      · exact IncludeTree.segment_of_mem_routes hchild r hr segment hsegment
    · exact IncludeGraph.segment_of_mem_routes hrest route hroute segment hsegment
end

mutual
theorem IncludeTree.nodup_routes : ∀ {tree : IncludeTree}, tree.WellKeyed → tree.routes.Nodup
  | .leaf, _ => by simp [IncludeTree.routes]
  | .node children, h => by
    rw [IncludeTree.WellKeyed] at h
    rw [IncludeTree.routes]
    exact IncludeGraph.nodup_routes h
/-- No two leaves of a graph have the same route. -/
theorem IncludeGraph.nodup_routes : ∀ {graph : IncludeGraph}, graph.WellKeyed → graph.routes.Nodup
  | [], _ => by simp [IncludeGraph.routes]
  | (key, child) :: rest, h => by
    obtain ⟨-, hkey, hchild, hrest⟩ := h
    rw [IncludeGraph.routes, List.nodup_append]
    refine ⟨?_, IncludeGraph.nodup_routes hrest, ?_⟩
    · exact (IncludeTree.nodup_routes hchild).map fun r r' heq => (List.cons.inj heq).2
    · rintro _ hroute _ hroute' rfl
      obtain ⟨r, -, rfl⟩ := List.mem_map.mp hroute
      exact hkey (IncludeGraph.exists_key_of_mem_routes hroute')
end

namespace IncludeGraph

variable {graph : IncludeGraph} {route : List String}

theorem segments_of_mem_routes (h : graph.WellKeyed) (hroute : route ∈ graph.routes) :
    segments (String.intercalate "." route) = route :=
  segments_intercalate (ne_nil_of_mem_routes hroute)
    (fun segment hsegment => (segment_of_mem_routes h route hroute segment hsegment).1)
    fun segment hsegment => (segment_of_mem_routes h route hroute segment hsegment).2

theorem segments_flatten (h : graph.WellKeyed) : graph.flatten.map segments = graph.routes := by
  rw [flatten_eq, List.map_map]
  calc graph.routes.map (segments ∘ String.intercalate ".")
      = graph.routes.map id := List.map_congr_left fun _ hroute => segments_of_mem_routes h hroute
    _ = graph.routes := List.map_id _

/-- No path is written twice. -/
theorem nodup_flatten (h : graph.WellKeyed) : graph.flatten.Nodup := by
  refine List.Nodup.of_map segments ?_
  rw [segments_flatten h]
  exact nodup_routes h

end IncludeGraph

end PagedQuery
