import Mathlib.Tactic
import PagedQuery.Proofs.Including.Rebuild
import PagedQuery.Proofs.Schema.Closed

/-!
# Including paths one after the other

A graph holds at a route a leaf, a subtree or nothing. Inserting a route adds the routes on the way
to it, with subtrees at those that go on, and changes nothing elsewhere; so what a graph holds after
many insertions depends on the routes that were inserted and not on their order. The paths that a
built query loads are those of its inclusions from which no other inclusion goes on.
-/

namespace PagedQuery

open PagedQuery.Text

namespace IncludeTree

/-- What a tree holds at a route. -/
def subtree? (tree : IncludeTree) : List String → Option IncludeTree
  | [] => some tree
  | key :: route =>
    match tree with
    | .leaf => none
    | .node children => (lookup? key children).bind (·.subtree? route)

def isNode : IncludeTree → Bool
  | .leaf => false
  | .node _ => true

/-- A tree holds at a route a subtree with a property. -/
def Has (P : IncludeTree → Prop) (tree : IncludeTree) (route : List String) : Prop :=
  ∃ subtree, tree.subtree? route = some subtree ∧ P subtree

variable {P : IncludeTree → Prop} {tree : IncludeTree} {key : String} {route : List String}
variable {children : IncludeGraph}

theorem subtree?_append (tree : IncludeTree) (route rest : List String) :
    tree.subtree? (route ++ rest) = (tree.subtree? route).bind (·.subtree? rest) := by
  induction route generalizing tree with
  | nil => rfl
  | cons key route ih =>
    cases tree with
    | leaf => rfl
    | node children =>
      rw [List.cons_append, subtree?, subtree?, Option.bind_assoc]
      exact congrArg _ (funext ih)

@[simp] theorem has_nil : tree.Has P [] ↔ P tree := by simp [Has, subtree?]

@[simp] theorem not_has_leaf_cons : ¬ IncludeTree.leaf.Has P (key :: route) := by
  simp [Has, subtree?]

theorem has_node_cons : (IncludeTree.node children).Has P (key :: route) ↔
    ∃ child, lookup? key children = some child ∧ child.Has P route := by
  simp only [Has, subtree?, Option.bind_eq_some_iff]
  constructor
  · rintro ⟨u, ⟨child, hchild, hu⟩, hP⟩
    exact ⟨child, hchild, u, hu, hP⟩
  · rintro ⟨child, hchild, u, hu, hP⟩
    exact ⟨u, ⟨child, hchild, hu⟩, hP⟩

/-- Below a key, a graph holds what the children under that key hold. -/
theorem has_childrenAt (hroute : route ≠ []) :
    (IncludeTree.node (childrenAt key children)).Has P route ↔
      ∃ child, lookup? key children = some child ∧ child.Has P route := by
  obtain ⟨next, rest, rfl⟩ := List.exists_cons_of_ne_nil hroute
  unfold childrenAt
  cases lookup? key children with
  | none => simp [has_node_cons, lookup?]
  | some child =>
    cases child with
    | leaf => simp [has_node_cons, lookup?]
    | node below => simp

/-- A leaf is what is there and is no node. -/
theorem subtree?_eq_leaf_iff : tree.subtree? route = some .leaf ↔
    tree.Has (fun _ => True) route ∧ ¬ tree.Has (·.isNode) route := by
  unfold Has
  cases tree.subtree? route with
  | none => simp
  | some u => cases u <;> simp [isNode]

end IncludeTree

namespace IncludeGraph

variable {graph : IncludeGraph} {key other : String} {route : List String}

theorem lookup?_insert_of_ne (h : other ≠ key) (graph : IncludeGraph) (route : List String) :
    lookup? other (graph.insert (key :: route)) = lookup? other graph := by
  cases route with
  | nil =>
    rw [insert]
    split
    · rfl
    · exact lookup?_putEntry_of_ne h _ _
  | cons next rest => exact lookup?_putEntry_of_ne h _ _

theorem lookup?_insert_singleton (graph : IncludeGraph) (key : String) :
    lookup? key (graph.insert [key]) = some ((lookup? key graph).getD .leaf) := by
  rw [insert]
  cases h : lookup? key graph with
  | none => exact lookup?_putEntry key _ _
  | some tree => exact h

theorem lookup?_insert_cons (hroute : route ≠ []) (graph : IncludeGraph) :
    lookup? key (graph.insert (key :: route)) =
      some (.node (insert (childrenAt key graph) route)) := by
  rw [insert_cons hroute, lookup?_putEntry]

/-- What a graph holds after one insertion: what it held before, and subtrees on the way to the new
route, at the end of which there is a leaf unless something was there. -/
theorem has_insert {P : IncludeTree → Prop} (hnode : ∀ children, P (.node children))
    (hroute : route ≠ []) (graph : IncludeGraph) (at' : List String) :
    (IncludeTree.node (graph.insert route)).Has P at' ↔
      (IncludeTree.node graph).Has P at' ∨ (at' <+: route ∧ (at' = route → P .leaf)) := by
  induction route generalizing graph at' with
  | nil => exact (hroute rfl).elim
  | cons key route ih =>
    cases at' with
    | nil => simp [hnode]
    | cons k rest =>
      rw [IncludeTree.has_node_cons, IncludeTree.has_node_cons, List.cons_prefix_cons]
      by_cases hk : k = key
      · subst hk
        by_cases hnil : route = []
        · subst hnil
          rw [lookup?_insert_singleton]
          cases lookup? k graph with
          | none => cases rest <;> simp
          | some child =>
            -- A leaf that is there already has the property as well.
            cases rest <;> cases child <;> simp [hnode]
        · rw [lookup?_insert_cons hnil]
          simp only [Option.some.injEq, exists_eq_left', ih hnil, true_and, List.cons.injEq]
          by_cases hrest : rest = []
          · subst hrest
            simp [hnode, Ne.symm hnil]
          · rw [IncludeTree.has_childrenAt hrest]
      · rw [lookup?_insert_of_ne hk]
        simp [hk]

/-- What a graph holds after many insertions. -/
theorem has_foldl_insert {P : IncludeTree → Prop} (hnode : ∀ children, P (.node children))
    {routes : List (List String)} (hroutes : ∀ route ∈ routes, route ≠ []) (graph : IncludeGraph)
    (at' : List String) :
    (IncludeTree.node (routes.foldl insert graph)).Has P at' ↔
      (IncludeTree.node graph).Has P at' ∨
        ∃ route ∈ routes, at' <+: route ∧ (at' = route → P .leaf) := by
  induction routes generalizing graph with
  | nil => simp
  | cons route routes ih =>
    rw [List.foldl_cons, ih (fun r hr => hroutes r (List.mem_cons_of_mem route hr)),
      has_insert hnode (hroutes route List.mem_cons_self), or_assoc]
    simp

/-- After insertions into the empty graph, the leaves lie at the inserted routes of which no other
one is a continuation. -/
theorem leaf_foldl_insert {routes : List (List String)} (hroutes : ∀ route ∈ routes, route ≠ [])
    (at' : List String) :
    (IncludeTree.node (routes.foldl insert [])).subtree? at' = some .leaf ↔
      at' ∈ routes ∧ ∀ route ∈ routes, ¬ (at' <+: route ∧ at' ≠ route) := by
  rw [IncludeTree.subtree?_eq_leaf_iff, has_foldl_insert (fun _ => trivial) hroutes,
    has_foldl_insert (fun _ => rfl) hroutes]
  cases at' with
  | nil =>
    have hnil : [] ∉ routes := fun h => hroutes [] h rfl
    simp [IncludeTree.isNode, hnil]
  | cons key rest =>
    simp only [IncludeTree.has_node_cons, lookup?, reduceCtorEq, false_and, exists_false, false_or,
      implies_true, and_true, IncludeTree.isNode, Bool.false_eq_true, imp_false, not_exists]
    constructor
    · rintro ⟨⟨route, hroute, hprefix⟩, hends⟩
      have heq : key :: rest = route := by
        by_contra hne
        exact hends route ⟨hroute, hprefix, hne⟩
      exact ⟨heq ▸ hroute, fun r hr h => hends r ⟨hr, h⟩⟩
    · rintro ⟨hmem, hends⟩
      exact ⟨⟨_, hmem, List.prefix_refl _⟩, fun r h => hends r h.1 h.2⟩

end IncludeGraph

/-! ## Tries -/

mutual
/-- Every node of the tree has children, under normalized keys without dots that differ. -/
def IncludeTree.IsTrie : IncludeTree → Prop
  | .leaf => True
  | .node children => children ≠ [] ∧ IncludeGraph.IsTrie children
/-- Every node below the graph has children, and all keys are normalized, hold no dot, and differ
from those beside them. -/
def IncludeGraph.IsTrie : IncludeGraph → Prop
  | [] => True
  | (key, child) :: rest =>
    ('.' ∉ key.toList ∧ normalizeProperty key = key ∧ child.IsTrie) ∧
      key ∉ rest.map (·.1) ∧ IncludeGraph.IsTrie rest
end

namespace IncludeGraph

variable {graph : IncludeGraph} {key : String} {route : List String}

theorem isTrie_iff : graph.IsTrie ↔
    (∀ e ∈ graph, '.' ∉ e.1.toList ∧ normalizeProperty e.1 = e.1 ∧ e.2.IsTrie) ∧
      (graph.map (·.1)).Nodup := by
  induction graph with
  | nil => simp [IsTrie]
  | cons e rest ih =>
    obtain ⟨key, child⟩ := e
    rw [IsTrie, ih, List.forall_mem_cons, List.map_cons, List.nodup_cons]
    tauto

theorem IsTrie.putEntry (h : graph.IsTrie) (hdot : '.' ∉ key.toList)
    (hnormal : normalizeProperty key = key) {tree : IncludeTree} (ht : tree.IsTrie) :
    IncludeGraph.IsTrie (putEntry key tree graph) := by
  rw [isTrie_iff] at h ⊢
  refine ⟨fun e he => ?_, nodup_putEntry h.2⟩
  rcases mem_putEntry he with rfl | he
  · exact ⟨hdot, hnormal, ht⟩
  · exact h.1 e he

theorem IsTrie.childrenAt (h : graph.IsTrie) (key : String) :
    IncludeGraph.IsTrie (childrenAt key graph) := by
  unfold PagedQuery.childrenAt
  split
  · next children hlookup =>
    have hmem := mem_of_lookup? hlookup
    exact ((isTrie_iff.mp h).1 _ hmem).2.2.2
  · trivial

theorem insert_ne_nil (hroute : route ≠ []) (graph : IncludeGraph) : graph.insert route ≠ [] := by
  obtain ⟨key, route, rfl⟩ := List.exists_cons_of_ne_nil hroute
  cases route with
  | nil =>
    rw [insert]
    split
    · next h =>
      rintro rfl
      cases h
    · exact putEntry_ne_nil
  | cons next rest => exact putEntry_ne_nil

/-- Inserting a route of normalized segments without dots keeps a trie. -/
theorem IsTrie.insert (h : graph.IsTrie) (hroute : route ≠ [])
    (hdot : ∀ segment ∈ route, '.' ∉ segment.toList)
    (hnormal : ∀ segment ∈ route, normalizeProperty segment = segment) :
    IncludeGraph.IsTrie (graph.insert route) := by
  induction route generalizing graph with
  | nil => exact (hroute rfl).elim
  | cons key route ih =>
    have hkey := hdot key List.mem_cons_self
    have hkey' := hnormal key List.mem_cons_self
    by_cases hnil : route = []
    · subst hnil
      rw [IncludeGraph.insert]
      split
      · exact h
      · exact h.putEntry hkey hkey' trivial
    · rw [insert_cons hnil]
      refine h.putEntry hkey hkey' ⟨insert_ne_nil hnil _, ih (h.childrenAt key) hnil ?_ ?_⟩
      · exact fun segment hsegment => hdot segment (List.mem_cons_of_mem key hsegment)
      · exact fun segment hsegment => hnormal segment (List.mem_cons_of_mem key hsegment)

theorem isTrie_foldl_insert (paths : List String) (h : graph.IsTrie) :
    IncludeGraph.IsTrie ((paths.map segments).foldl IncludeGraph.insert graph) := by
  induction paths generalizing graph with
  | nil => exact h
  | cons path paths ih =>
    rw [List.map_cons, List.foldl_cons]
    exact ih (h.insert (segments_ne_nil path) (fun _ => dot_not_mem_of_mem_segments)
      fun _ => normalizeProperty_of_mem_segments)

end IncludeGraph

mutual
theorem IncludeTree.IsTrie.wellKeyed : ∀ {tree : IncludeTree}, tree.IsTrie → tree.WellKeyed
  | .leaf, _ => trivial
  | .node _, h => IncludeGraph.IsTrie.wellKeyed h.2
theorem IncludeGraph.IsTrie.wellKeyed : ∀ {graph : IncludeGraph}, graph.IsTrie → graph.WellKeyed
  | [], _ => trivial
  | (key, child) :: rest, h => by
    obtain ⟨⟨hdot, hnormal, hchild⟩, hkey, hrest⟩ := h
    refine ⟨hdot, ?_, hchild.wellKeyed, IncludeGraph.IsTrie.wellKeyed hrest⟩
    have hkeys : rest.map (fun e => normalizeProperty e.1) = rest.map (·.1) :=
      List.map_congr_left fun e he => ((IncludeGraph.isTrie_iff.mp hrest).1 e he).2.1
    rwa [hkeys, hnormal]
end

mutual
theorem IncludeTree.IsTrie.settled? : ∀ {tree : IncludeTree}, tree.IsTrie →
    tree.settled? = some tree
  | .leaf, _ => rfl
  | .node children, h => by
    rw [IncludeTree.settled?, IncludeGraph.IsTrie.settled h.2]
    split
    · exact (h.1 rfl).elim
    · rfl
/-- A trie has nothing to be left out and nothing to be normalized. -/
theorem IncludeGraph.IsTrie.settled : ∀ {graph : IncludeGraph}, graph.IsTrie →
    graph.settled = graph
  | [], _ => rfl
  | (key, child) :: rest, h => by
    obtain ⟨⟨-, hnormal, hchild⟩, -, hrest⟩ := h
    rw [IncludeGraph.settled, hchild.settled?, IncludeGraph.IsTrie.settled hrest, hnormal]
end

mutual
theorem IncludeTree.mem_routes_iff : ∀ {tree : IncludeTree}, tree.IsTrie →
    ∀ {route : List String}, route ∈ tree.routes ↔ tree.subtree? route = some .leaf
  | .leaf, _, route => by cases route <;> simp [IncludeTree.routes, IncludeTree.subtree?]
  | .node children, h, route => by
    rw [IncludeTree.routes]
    exact IncludeGraph.mem_routes_iff h.2
/-- The routes of a trie are those at which it holds a leaf. -/
theorem IncludeGraph.mem_routes_iff : ∀ {graph : IncludeGraph}, graph.IsTrie →
    ∀ {route : List String}, route ∈ graph.routes ↔
      (IncludeTree.node graph).subtree? route = some .leaf
  | [], _, route => by
    cases route <;> simp [IncludeGraph.routes, IncludeTree.subtree?, lookup?]
  | (key, child) :: rest, h, [] => by
    simpa [IncludeTree.subtree?] using fun hmem => IncludeGraph.ne_nil_of_mem_routes hmem rfl
  | (key, child) :: rest, h, k :: route => by
    obtain ⟨⟨-, hnormal, hchild⟩, hkey, hrest⟩ := h
    have hmem : k :: route ∈ IncludeGraph.routes rest ↔
        (IncludeTree.node rest).subtree? (k :: route) = some .leaf :=
      IncludeGraph.mem_routes_iff hrest
    rw [IncludeTree.subtree?] at hmem
    rw [IncludeGraph.routes, List.mem_append, List.mem_map, hnormal, hmem, IncludeTree.subtree?,
      lookup?]
    by_cases hk : key = k
    · subst hk
      have hnone : lookup? key rest = none := by
        cases hlookup : lookup? key rest with
        | none => rfl
        | some tree =>
          exact (hkey (List.mem_map.mpr ⟨_, mem_of_lookup? hlookup, rfl⟩)).elim
      simp [hnone, IncludeTree.mem_routes_iff hchild]
    · simp [hk]
end

/-- From every place in a trie a leaf is reached. -/
theorem IncludeTree.IsTrie.exists_leaf {tree : IncludeTree} (h : tree.IsTrie) :
    ∃ route, tree.subtree? route = some .leaf := by
  have hne : tree.routes ≠ [] := by
    rw [Ne, IncludeTree.routes_eq_nil_iff, h.settled?]
    exact Option.some_ne_none tree
  obtain ⟨route, rest, hroutes⟩ := List.exists_cons_of_ne_nil hne
  exact ⟨route, (IncludeTree.mem_routes_iff h).mp (hroutes ▸ List.mem_cons_self)⟩

theorem IncludeTree.IsTrie.of_subtree? {tree subtree : IncludeTree} {route : List String}
    (h : tree.IsTrie) (hs : tree.subtree? route = some subtree) : subtree.IsTrie := by
  induction route generalizing tree with
  | nil =>
    rw [IncludeTree.subtree?] at hs
    rwa [← Option.some.inj hs]
  | cons key route ih =>
    cases tree with
    | leaf => cases hs
    | node children =>
      rw [IncludeTree.subtree?, Option.bind_eq_some_iff] at hs
      obtain ⟨child, hlookup, hchild⟩ := hs
      exact ih ((IncludeGraph.isTrie_iff.mp h.2).1 _ (mem_of_lookup? hlookup)).2.2 hchild

/-! ## Built queries -/

/-- A path has the segments of another one and more. -/
def GoesOnFrom (longer shorter : String) : Prop :=
  split '.' shorter <+: split '.' longer ∧ split '.' shorter ≠ split '.' longer

theorem IncludeGraph.mem_flatten_iff {graph : IncludeGraph} (h : graph.WellKeyed) {path : String} :
    path ∈ graph.flatten ↔ split '.' path ∈ graph.routes := by
  rw [flatten_eq, List.mem_map]
  constructor
  · rintro ⟨route, hroute, rfl⟩
    rwa [split_intercalate (ne_nil_of_mem_routes hroute)
      fun segment hsegment => (segment_of_mem_routes h route hroute segment hsegment).1]
  · exact fun hroute => ⟨_, hroute, intercalate_split path⟩

namespace QueryBuilder

variable (paths : List String)

theorem isTrie_foldl_withPath : IncludeGraph.IsTrie (paths.foldl withPath {}).graph := by
  rw [foldl_withPath_graph]
  exact IncludeGraph.isTrie_foldl_insert paths trivial

theorem ne_nil_of_mem_map_segments {route : List String} (h : route ∈ paths.map segments) :
    route ≠ [] := by
  obtain ⟨path, -, rfl⟩ := List.mem_map.mp h
  exact segments_ne_nil path

/-- The routes of a built graph are those of the included paths from which no other one goes on. -/
theorem mem_routes_foldl_withPath {route : List String} :
    route ∈ (paths.foldl withPath {}).graph.routes ↔
      route ∈ paths.map segments ∧
        ∀ other ∈ paths, ¬ (route <+: segments other ∧ route ≠ segments other) := by
  rw [IncludeGraph.mem_routes_iff (isTrie_foldl_withPath paths), foldl_withPath_graph,
    IncludeGraph.leaf_foldl_insert fun _ => ne_nil_of_mem_map_segments paths, List.forall_mem_map]

/-- Every included path leads to a leaf. -/
theorem exists_route_of_mem {included : String} (h : included ∈ paths) :
    ∃ route ∈ (paths.foldl withPath {}).graph.routes, segments included <+: route := by
  have htrie := isTrie_foldl_withPath paths
  -- The graph holds something at the included path, and from there a leaf is reached.
  have hhas : (IncludeTree.node (paths.foldl withPath {}).graph).Has (fun _ => True)
      (segments included) := by
    rw [foldl_withPath_graph, IncludeGraph.has_foldl_insert (fun _ => trivial)
      fun _ => ne_nil_of_mem_map_segments paths]
    exact .inr ⟨_, List.mem_map_of_mem h, List.prefix_refl _, fun _ => trivial⟩
  obtain ⟨subtree, hsubtree, -⟩ := hhas
  have hnode : (IncludeTree.node (paths.foldl withPath {}).graph).IsTrie := by
    refine ⟨fun hnil => ?_, htrie⟩
    obtain ⟨key, rest, hkey⟩ := List.exists_cons_of_ne_nil (segments_ne_nil included)
    rw [hnil, hkey] at hsubtree
    cases hsubtree
  obtain ⟨rest, hrest⟩ := (hnode.of_subtree? hsubtree).exists_leaf
  refine ⟨segments included ++ rest, ?_, List.prefix_append _ rest⟩
  rw [IncludeGraph.mem_routes_iff htrie, IncludeTree.subtree?_append, hsubtree, Option.bind_some,
    hrest]

end QueryBuilder

/-- A query built after including paths loads each of them, normalized, from which no other one goes
on, and nothing else and nothing twice. Every included path is one of these or leads to one, and no
subtree of the graph is without a leaf. -/
theorem build_paths_iff (paths : List String) :
    (paths.foldl QueryBuilder.withPath {}).build.query.paths.Nodup ∧
      (∀ path, path ∈ (paths.foldl QueryBuilder.withPath {}).build.query.paths ↔
        path ∈ paths.map normalizePath ∧
          ∀ other ∈ paths, ¬ GoesOnFrom (normalizePath other) path) ∧
      (∀ included ∈ paths, ∃ path ∈ (paths.foldl QueryBuilder.withPath {}).build.query.paths,
        split '.' (normalizePath included) <+: split '.' path) ∧
      IncludeGraph.settled (paths.foldl QueryBuilder.withPath {}).graph =
        (paths.foldl QueryBuilder.withPath {}).graph := by
  have htrie := QueryBuilder.isTrie_foldl_withPath paths
  have hkeyed := htrie.wellKeyed
  rw [QueryBuilder.build_paths]
  refine ⟨IncludeGraph.nodup_flatten hkeyed, fun path => ?_, fun included hincluded => ?_,
    htrie.settled⟩
  · rw [IncludeGraph.mem_flatten_iff hkeyed, QueryBuilder.mem_routes_foldl_withPath]
    simp only [GoesOnFrom, split_normalizePath]
    refine and_congr_left fun _ => ?_
    -- A path and its segments determine each other.
    constructor
    · intro hmem
      obtain ⟨included, hincluded, heq⟩ := List.mem_map.mp hmem
      refine List.mem_map.mpr ⟨included, hincluded, ?_⟩
      rw [← intercalate_split path, ← heq]
      rfl
    · intro hmem
      obtain ⟨included, hincluded, rfl⟩ := List.mem_map.mp hmem
      rw [split_normalizePath]
      exact List.mem_map_of_mem hincluded
  · obtain ⟨route, hroute, hprefix⟩ := QueryBuilder.exists_route_of_mem paths hincluded
    have hsplit : split '.' (String.intercalate "." route) = route :=
      split_intercalate (IncludeGraph.ne_nil_of_mem_routes hroute) fun segment hsegment =>
        (IncludeGraph.segment_of_mem_routes hkeyed route hroute segment hsegment).1
    refine ⟨String.intercalate "." route, ?_, ?_⟩
    · rwa [IncludeGraph.mem_flatten_iff hkeyed, hsplit]
    · rwa [split_normalizePath, hsplit]

end PagedQuery
