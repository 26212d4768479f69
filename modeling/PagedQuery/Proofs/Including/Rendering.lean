import Mathlib.Tactic
import PagedQuery.Proofs.Binding.Crossing
import PagedQuery.Proofs.Including.Routes
import PagedQuery.Proofs.Schema.Spelling
import PagedQuery.Table.Connection

/-!
# What a graph shows

A graph is read twice: as paths that are resolved against types, and as a tree that is walked over
the rows. Where no key holds a dot and keys beside each other name different relations, both agree:
a mapping holds the columns of its row and then the relations that the graph names there, each with
mappings for the child of its key, so that every path that is bound can be followed through it. The
walk goes down the graph, so rows that lead back to themselves are no matter.
-/

namespace PagedQuery

open PagedQuery.Text

/-! ## Graphs -/

mutual
/-- No key in the tree holds a dot. -/
def IncludeTree.Dotless : IncludeTree → Prop
  | .leaf => True
  | .node children => IncludeGraph.Dotless children
/-- No key in the graph holds a dot. -/
def IncludeGraph.Dotless : IncludeGraph → Prop
  | [] => True
  | (key, child) :: rest => '.' ∉ key.toList ∧ child.Dotless ∧ IncludeGraph.Dotless rest
end

mutual
theorem IncludeTree.dot_not_mem_of_mem_routes : ∀ {tree : IncludeTree}, tree.Dotless →
    ∀ route ∈ tree.routes, ∀ segment ∈ route, '.' ∉ segment.toList
  | .leaf, _ => by simp [IncludeTree.routes]
  | .node children, h => by
    rw [IncludeTree.Dotless] at h
    rw [IncludeTree.routes]
    exact IncludeGraph.dot_not_mem_of_mem_routes h
theorem IncludeGraph.dot_not_mem_of_mem_routes : ∀ {graph : IncludeGraph}, graph.Dotless →
    ∀ route ∈ graph.routes, ∀ segment ∈ route, '.' ∉ segment.toList
  | [], _ => by simp [IncludeGraph.routes]
  | (key, child) :: rest, h => by
    obtain ⟨hdot, hchild, hrest⟩ := h
    intro route hroute segment hsegment
    rw [IncludeGraph.routes, List.mem_append, List.mem_map] at hroute
    obtain ⟨r, hr, rfl⟩ | hroute := hroute
    · obtain rfl | hsegment := List.mem_cons.mp hsegment
      · exact dot_not_mem_normalizeProperty hdot
      · exact IncludeTree.dot_not_mem_of_mem_routes hchild r hr segment hsegment
    · exact IncludeGraph.dot_not_mem_of_mem_routes hrest route hroute segment hsegment
end

namespace Schema

/-- The relation that a key of a graph names in a type. -/
def namedRelation? (s : Schema) (type : FieldType) (key : String) : Option Field :=
  match s.model type with
  | .ok m => (m.lookup key).filter (·.relation)
  | .error _ => none

/-- The names of the columns of a type. -/
def columnNames (s : Schema) : FieldType → List String
  | .entity name =>
    ((s.stored? name).map fun t => (t.fields.filter (!·.relation)).map (·.name)).getD []
  | _ => []

end Schema

mutual
/-- Keys beside each other in a tree around entities of a type name different relations. -/
def IncludeTree.NamesApart (s : Schema) (type : FieldType) : IncludeTree → Prop
  | .leaf => True
  | .node children => IncludeGraph.NamesApart s type children
/-- Keys beside each other in a graph around entities of a type name different relations. -/
def IncludeGraph.NamesApart (s : Schema) (type : FieldType) : IncludeGraph → Prop
  | [] => True
  | (key, child) :: rest =>
    (∀ f, s.namedRelation? type key = some f →
      (∀ e ∈ rest, ∀ g, s.namedRelation? type e.1 = some g → g.name ≠ f.name) ∧
        child.NamesApart s f.type) ∧
    IncludeGraph.NamesApart s type rest
end

theorem IncludeGraph.NamesApart.nodup_names {s : Schema} {type : FieldType} {graph : IncludeGraph}
    (h : graph.NamesApart s type) :
    (graph.filterMap fun e => (s.namedRelation? type e.1).map (·.name)).Nodup := by
  induction graph with
  | nil => exact List.nodup_nil
  | cons e graph ih =>
    obtain ⟨key, child⟩ := e
    obtain ⟨hkey, hgraph⟩ := h
    cases hf : s.namedRelation? type key with
    | none =>
      rw [List.filterMap_cons_none (by rw [hf]; rfl)]
      exact ih hgraph
    | some f =>
      rw [List.filterMap_cons_some (b := f.name) (by rw [hf]; rfl), List.nodup_cons]
      refine ⟨fun hmem => ?_, ih hgraph⟩
      obtain ⟨e, he, hname⟩ := List.mem_filterMap.mp hmem
      obtain ⟨g, hg, hname⟩ := Option.map_eq_some_iff.mp hname
      exact (hkey f hf).1 e he g hg hname

/-! ## Mappings -/

/-- A mapping as a value of another one. -/
def mappingValue (entries : List (String × Value)) : Value :=
  .dict (entries.map fun (name, v) => (.text name, v))

/-- The values of a relation: to one entity a mapping or nothing, to many a list of mappings. -/
inductive RelationValue (P : List (String × Value) → Prop) : Bool → Value → Prop
  | missing : RelationValue P false .null
  | one {entries : List (String × Value)} : P entries → RelationValue P false (mappingValue entries)
  | each {all : List (List (String × Value))} : (∀ entries ∈ all, P entries) →
      RelationValue P true (.list (all.map mappingValue))

theorem RelationValue.imp {P Q : List (String × Value) → Prop} {many : Bool} {v : Value}
    (hpq : ∀ {entries}, P entries → Q entries) (h : RelationValue P many v) :
    RelationValue Q many v := by
  cases h with
  | missing => exact .missing
  | one h => exact .one (hpq h)
  | each h => exact .each fun entries hentries => hpq (h entries hentries)

/-- A mapping in which fields can be followed one after the other, up to a missing value or a list
without mappings. -/
def Leads : List Field → List (String × Value) → Prop
  | [], _ => True
  | f :: rest, entries =>
    ∃ v, lookup? f.name entries = some v ∧ RelationValue (Leads rest) f.many v

mutual
/-- What a tree shows of an entity of a type: its columns, and then the relations that the tree
names, each with what its child shows. -/
def IncludeTree.Shows (s : Schema) (type : FieldType) :
    IncludeTree → List (String × Value) → Prop
  | .leaf, entries => entries.map (·.1) = s.columnNames type
  | .node children, entries =>
    entries.map (·.1) = s.columnNames type ++
        children.filterMap (fun e => (s.namedRelation? type e.1).map (·.name)) ∧
      IncludeGraph.ShowsEach s type children entries
/-- Each relation that the graph names is there, with what its child shows. -/
def IncludeGraph.ShowsEach (s : Schema) (type : FieldType) :
    IncludeGraph → List (String × Value) → Prop
  | [], _ => True
  | (key, child) :: rest, entries =>
    (∀ f, s.namedRelation? type key = some f →
      ∃ v, lookup? f.name entries = some v ∧
        RelationValue (fun inner => child.Shows s f.type inner) f.many v) ∧
    IncludeGraph.ShowsEach s type rest entries
end

namespace Schema

variable {s : Schema} {type : FieldType}

theorem showsEach_iff {graph : IncludeGraph} {entries : List (String × Value)} :
    graph.ShowsEach s type entries ↔
      ∀ e ∈ graph, ∀ f, s.namedRelation? type e.1 = some f →
        ∃ v, lookup? f.name entries = some v ∧
          RelationValue (fun inner => e.2.Shows s f.type inner) f.many v := by
  induction graph with
  | nil => simp [IncludeGraph.ShowsEach]
  | cons e rest ih => rw [IncludeGraph.ShowsEach, List.forall_mem_cons, ih]

/-- A normalized key names what the key names. -/
theorem namedRelation?_normalizeProperty (key : String) :
    s.namedRelation? type (normalizeProperty key) = s.namedRelation? type key := by
  simp only [namedRelation?, EntityModel.lookup, normalizeProperty_normalizeProperty]

/-- Relations that a route of a tree names can be followed through what the tree shows. -/
theorem Names.leads {tree : IncludeTree} {entries : List (String × Value)} {route : List String}
    {fields : List Field} (hnames : s.Names type route fields) (hroute : route ∈ tree.routes)
    (hrelation : ∀ f ∈ fields, f.relation = true) (hshows : tree.Shows s type entries) :
    Leads fields entries := by
  induction hnames generalizing tree entries with
  | nil => trivial
  | @cons type segment rest m f fields hne hm hf hrest ih =>
    obtain ⟨hrelationf, hrelation⟩ := List.forall_mem_cons.mp hrelation
    cases tree with
    | leaf => simp [IncludeTree.routes] at hroute
    | node children =>
      rw [IncludeTree.routes] at hroute
      obtain ⟨e, he, rfl, hlater⟩ := IncludeGraph.mem_routes_cons.mp hroute
      have hnamed : s.namedRelation? type e.1 = some f := by
        rw [← namedRelation?_normalizeProperty, namedRelation?, hm]
        simp [hf, hrelationf]
      rw [IncludeTree.Shows] at hshows
      obtain ⟨v, hv, hvalue⟩ := showsEach_iff.mp hshows.2 e he f hnamed
      exact ⟨v, hv, hvalue.imp fun hinner => ih hlater hrelation hinner⟩

end Schema

/-! ## Rows -/

/-- A relation as a field of entities. -/
def Relation.field (r : Relation) : Field := ⟨r.name, .entity r.target, r.many, true⟩

/-- The table of a table's fields, by their names in requests. -/
def Table.fieldTable (t : Table) : List (String × Field) :=
  PagedQuery.fieldTable (t.storedType.fields.map fun f =>
    (f.name, ⟨f.name, f.type, f.many, f.relation⟩))

namespace Database

/-- The entity types are those of the tables: relations lead to tables, columns hold values of
types with names, and no two attributes of a table have one name. -/
structure IsMapped (db : Database) : Prop where
  stored : db.schema.stored = db.tables.map Table.storedType
  target : ∀ t ∈ db.tables, ∀ r ∈ t.relations, (db.table? r.target).isSome
  column : ∀ t ∈ db.tables, ∀ c ∈ t.columns,
    c.type.isKey ∧ c.type.name?.isSome ∧ ∀ name, c.type ≠ .entity name
  nodup : ∀ t ∈ db.tables, (t.columns.map (·.name) ++ t.relations.map (·.name)).Nodup

variable {db : Database} {t target : Table} {row : Row} {key : String}

theorem mem_tables (ht : db.table? t.name = some t) : t ∈ db.tables := List.mem_of_find?_eq_some ht

theorem name_of_table? {name : String} (h : db.table? name = some t) : t.name = name := by
  simpa using List.find?_some h

theorem mem_storedType_fields {f : StoredField} (h : f ∈ t.storedType.fields) :
    (∃ c ∈ t.columns, f = ⟨c.name, c.type, false, false⟩) ∨
      ∃ r ∈ t.relations, f = ⟨r.name, .entity r.target, r.many, true⟩ := by
  obtain h | h := List.mem_append.mp h
  · obtain ⟨c, hc, rfl⟩ := List.mem_map.mp h
    exact .inl ⟨c, hc, rfl⟩
  · obtain ⟨r, hr, rfl⟩ := List.mem_map.mp h
    exact .inr ⟨r, hr, rfl⟩

/-- The types that paths over the tables lead to: those of the tables and of their columns. -/
def mappedTypes (db : Database) : List FieldType :=
  db.tables.flatMap fun t => .entity t.name :: t.columns.map (·.type)

theorem mem_mappedTypes {type : FieldType} : type ∈ db.mappedTypes ↔
    ∃ t ∈ db.tables, type = .entity t.name ∨ ∃ c ∈ t.columns, c.type = type := by
  simp [mappedTypes, List.mem_flatMap]

namespace IsMapped

variable (hdb : db.IsMapped)
include hdb

theorem stored?_eq (name : String) :
    db.schema.stored? name = (db.table? name).map Table.storedType := by
  rw [Schema.stored?, hdb.stored, List.find?_map]
  rfl

theorem attributes_eq (ht : db.table? t.name = some t) :
    db.schema.attributes t.name =
      .ok (t.storedType.fields.map fun f => (f.name, ⟨f.name, f.type, f.many, f.relation⟩)) := by
  rw [Schema.attributes, hdb.stored?_eq, ht]
  rfl

theorem columnNames_eq (ht : db.table? t.name = some t) :
    db.schema.columnNames (.entity t.name) = t.columns.map (·.name) := by
  rw [Schema.columnNames, hdb.stored?_eq, ht]
  simp [Table.storedType, List.filter_map, Function.comp_def]

theorem namedRelation?_eq (ht : db.table? t.name = some t) (key : String) :
    db.schema.namedRelation? (.entity t.name) key =
      (lookup? (normalizeProperty key) t.fieldTable).filter (·.relation) := by
  rw [Schema.namedRelation?, Schema.model_entity, hdb.attributes_eq ht]
  rfl

/-- A key names a relation of a table, or none. -/
theorem named_cases (ht : db.table? t.name = some t) (key : String) :
    (db.schema.namedRelation? (.entity t.name) key = none ∧
      (lookup? (normalizeProperty key) t.fieldTable).bind (fun f => t.relation? f.name) = none) ∨
    ∃ r ∈ t.relations, ∃ target, db.table? r.target = some target ∧
      db.schema.namedRelation? (.entity t.name) key = some r.field ∧
      (lookup? (normalizeProperty key) t.fieldTable).bind (fun f => t.relation? f.name) =
        some r := by
  rw [hdb.namedRelation?_eq ht]
  obtain ⟨-, hrelations, hapart⟩ := List.nodup_append.mp (hdb.nodup t (mem_tables ht))
  cases hf : lookup? (normalizeProperty key) t.fieldTable with
  | none => exact .inl ⟨rfl, rfl⟩
  | some f =>
    obtain ⟨⟨n, g⟩, hg, rfl⟩ := List.mem_map.mp (mem_fieldTable (mem_of_lookup? hf))
    obtain ⟨stored, hstored, hg⟩ := List.mem_map.mp hg
    cases hg
    obtain ⟨c, hc, rfl⟩ | ⟨r, hr, rfl⟩ := mem_storedType_fields hstored
    · refine .inl ⟨rfl, List.find?_eq_none.mpr fun r hr hname => ?_⟩
      exact hapart _ (List.mem_map_of_mem hc) _ (List.mem_map_of_mem hr) (beq_iff_eq.mp hname).symm
    · obtain ⟨target, htarget⟩ := Option.isSome_iff_exists.mp (hdb.target t (mem_tables ht) r hr)
      exact .inr ⟨r, hr, target, htarget, rfl, find?_of_nodup hrelations hr⟩

/-- Relations that a graph names have names of their own, apart from those of the columns. -/
theorem nodup_columns_relations (ht : db.table? t.name = some t) {graph : IncludeGraph}
    (h : graph.NamesApart db.schema (.entity t.name)) :
    (t.columns.map (·.name) ++ graph.filterMap fun e =>
      (db.schema.namedRelation? (.entity t.name) e.1).map (·.name)).Nodup := by
  obtain ⟨hcolumns, -, hapart⟩ := List.nodup_append.mp (hdb.nodup t (mem_tables ht))
  refine List.nodup_append.mpr ⟨hcolumns, h.nodup_names, fun name hname other hother => ?_⟩
  obtain ⟨e, -, hother⟩ := List.mem_filterMap.mp hother
  obtain ⟨hnone, -⟩ | ⟨r, hr, -, -, hnamed, -⟩ := hdb.named_cases ht e.1
  · rw [hnone] at hother
    cases hother
  · rw [hnamed] at hother
    cases hother
    exact hapart name hname _ (List.mem_map_of_mem hr)

end IsMapped

/-- The value of a relation to the rows of a table, with what a tree names around them. -/
def relationValue (db : Database) (r : Relation) (target : Table) (row : Row) (tree : IncludeTree) :
    Value :=
  let shown := (db.related r row).map fun other => mappingValue (db.render target other tree)
  if r.many then .list shown else shown.head?.getD .null

/-- What a key of a graph and the tree below it add to the mapping of a row. -/
def shownPair? (db : Database) (t : Table) (row : Row) (e : String × IncludeTree) :
    Option (String × Value) :=
  ((lookup? (normalizeProperty e.1) t.fieldTable).bind fun f => t.relation? f.name).bind fun r =>
    (db.table? r.target).map fun target => (r.name, db.relationValue r target row e.2)

theorem renderAll_eq (graph : IncludeGraph) (seen : List (String × Value)) :
    db.renderAll t row seen graph = putEntries (graph.filterMap (db.shownPair? t row)) seen := by
  induction graph generalizing seen with
  | nil => rw [renderAll]; rfl
  | cons e graph ih =>
    obtain ⟨key, child⟩ := e
    rw [renderAll, List.filterMap_cons, shownPair?, ← Table.fieldTable]
    cases (lookup? (normalizeProperty key) t.fieldTable).bind fun f => t.relation? f.name with
    | none => exact ih seen
    | some r =>
      dsimp only [Option.bind_some]
      cases db.table? r.target with
      | none => exact ih seen
      | some target => exact ih _

theorem relationValue_of_forall {P : List (String × Value) → Prop} {r : Relation}
    {tree : IncludeTree} (h : ∀ other, P (db.render target other tree)) :
    RelationValue P r.many (db.relationValue r target row tree) := by
  unfold relationValue
  cases r.many with
  | false =>
    cases db.related r row with
    | nil => exact .missing
    | cons other others => exact .one (h other)
  | true =>
    have hall : ∀ entries ∈ (db.related r row).map fun other => db.render target other tree,
        P entries := by simpa using fun other _ => h other
    simpa [Function.comp_def] using RelationValue.each hall

namespace IsMapped

variable (hdb : db.IsMapped)
include hdb

theorem keys_shownPairs (ht : db.table? t.name = some t) (graph : IncludeGraph) (row : Row) :
    (graph.filterMap (db.shownPair? t row)).map (·.1) = graph.filterMap fun e =>
      (db.schema.namedRelation? (.entity t.name) e.1).map (·.name) := by
  rw [List.map_filterMap]
  refine List.filterMap_congr fun e _ => ?_
  obtain ⟨hnone, hkey⟩ | ⟨r, -, target, htarget, hnamed, hkey⟩ := hdb.named_cases ht e.1
  · rw [shownPair?, hkey, hnone]
    rfl
  · rw [shownPair?, hkey, hnamed, Option.bind_some, htarget]
    rfl

/-- A row is shown with its columns and then with what the keys of a graph add. -/
theorem render_node (ht : db.table? t.name = some t) {graph : IncludeGraph}
    (h : graph.NamesApart db.schema (.entity t.name)) (row : Row) :
    db.render t row (.node graph) =
      db.attributes t row ++ graph.filterMap (db.shownPair? t row) := by
  rw [render, renderAll_eq]
  refine putEntries_of_nodup ?_
  rw [hdb.keys_shownPairs ht, attributes, List.map_map]
  exact hdb.nodup_columns_relations ht h

/-- What a key adds is found under the name of its relation. -/
theorem lookup?_render_node (ht : db.table? t.name = some t) {graph : IncludeGraph}
    (h : graph.NamesApart db.schema (.entity t.name)) {e : String × IncludeTree} (he : e ∈ graph)
    {r : Relation}
    (hr : (lookup? (normalizeProperty e.1) t.fieldTable).bind (fun f => t.relation? f.name) =
      some r) (htarget : db.table? r.target = some target) :
    lookup? r.name (db.render t row (.node graph)) = some (db.relationValue r target row e.2) := by
  have hmem : (r.name, db.relationValue r target row e.2) ∈
      graph.filterMap (db.shownPair? t row) :=
    List.mem_filterMap.mpr ⟨e, he, by rw [shownPair?, hr, Option.bind_some, htarget]; rfl⟩
  have hnodup : ((db.render t row (.node graph)).map (·.1)).Nodup := by
    rw [hdb.render_node ht h, List.map_append, hdb.keys_shownPairs ht, attributes, List.map_map]
    exact hdb.nodup_columns_relations ht h
  rw [← List.append_nil (db.render t row (.node graph))]
  refine lookup?_append_of_mem hnodup ?_ []
  rw [hdb.render_node ht h]
  exact List.mem_append_right _ hmem

theorem exists_table {name : String} (h : .entity name ∈ db.mappedTypes) :
    ∃ t, db.table? name = some t := by
  obtain ⟨t, ht, hentity | ⟨c, hc, hcolumn⟩⟩ := mem_mappedTypes.mp h
  · cases hentity
    exact Option.isSome_iff_exists.mp (List.find?_isSome.mpr ⟨t, ht, by simp⟩)
  · exact absurd hcolumn ((hdb.column t ht c hc).2.2 name)

/-- What a field of a table holds is one of the types again. -/
theorem type_mem_mappedTypes (ht : t ∈ db.tables) {f : StoredField}
    (hf : f ∈ t.storedType.fields) : f.type ∈ db.mappedTypes := by
  obtain ⟨c, hc, rfl⟩ | ⟨r, hr, rfl⟩ := mem_storedType_fields hf
  · exact mem_mappedTypes.mpr ⟨t, ht, .inr ⟨c, hc, rfl⟩⟩
  · obtain ⟨target, htarget⟩ := Option.isSome_iff_exists.mp (hdb.target t ht r hr)
    have hname := name_of_table? htarget
    exact mem_mappedTypes.mpr
      ⟨target, List.mem_of_find?_eq_some htarget, .inl (by rw [hname])⟩

theorem closed : db.schema.Closed db.mappedTypes where
  isKey := by
    intro type h
    obtain ⟨t, ht, rfl | ⟨c, hc, rfl⟩⟩ := mem_mappedTypes.mp h
    · rfl
    · exact (hdb.column t ht c hc).1
  isSome_name? := by
    intro type h
    obtain ⟨t, ht, rfl | ⟨c, hc, rfl⟩⟩ := mem_mappedTypes.mp h
    · rfl
    · exact (hdb.column t ht c hc).2.1
  known := by
    intro name h
    obtain ⟨t, ht⟩ := hdb.exists_table h
    obtain rfl := name_of_table? ht
    exact ⟨_, hdb.attributes_eq ht⟩
  mem := by
    intro name h f hf
    obtain ⟨t, ht⟩ := hdb.exists_table h
    obtain rfl := name_of_table? ht
    rw [Schema.fieldsAt, hdb.attributes_eq ht] at hf
    simp only [List.map_map, List.mem_map] at hf
    obtain ⟨stored, hstored, rfl⟩ := hf
    exact hdb.type_mem_mappedTypes (mem_tables ht) hstored

theorem bindIncludes_isOk (ht : db.table? t.name = some t) (graph : Option IncludeGraph) :
    ∃ bound skipped, db.schema.bindIncludes (.entity t.name) graph = .ok (bound, skipped) := by
  obtain ⟨⟨bound, skipped⟩, hbound⟩ := hdb.closed.bindIncludes_isOk
    (mem_mappedTypes.mpr ⟨t, mem_tables ht, .inl rfl⟩) graph
  exact ⟨bound, skipped, hbound⟩

end IsMapped

mutual
/-- A row is shown with its columns and with the relations that a tree names, all the way down. -/
theorem IsMapped.shows_render (hdb : db.IsMapped) : ∀ (tree : IncludeTree) {t : Table},
    db.table? t.name = some t → tree.NamesApart db.schema (.entity t.name) → ∀ row,
    tree.Shows db.schema (.entity t.name) (db.render t row tree)
  | .leaf, t, ht, _, row => by
    rw [IncludeTree.Shows, render, hdb.columnNames_eq ht, attributes, List.map_map]
    rfl
  | .node graph, t, ht, h, row => by
    rw [IncludeTree.NamesApart] at h
    rw [IncludeTree.Shows]
    constructor
    · rw [hdb.render_node ht h, List.map_append, hdb.keys_shownPairs ht, hdb.columnNames_eq ht,
        attributes, List.map_map]
      rfl
    · refine Schema.showsEach_iff.mpr fun e he f hf => ?_
      obtain ⟨hnone, -⟩ | ⟨r, -, target, htarget, hnamed, hkey⟩ := hdb.named_cases ht e.1
      · rw [hnone] at hf
        cases hf
      · rw [hnamed] at hf
        cases hf
        refine ⟨_, hdb.lookup?_render_node ht h he hkey htarget, ?_⟩
        exact relationValue_of_forall fun other =>
          hdb.shows_children graph h e he hnamed htarget other
/-- The rows that a key leads to are shown with the tree below it. -/
theorem IsMapped.shows_children (hdb : db.IsMapped) : ∀ (graph : IncludeGraph) {type : FieldType},
    graph.NamesApart db.schema type → ∀ e ∈ graph, ∀ {r : Relation},
    db.schema.namedRelation? type e.1 = some r.field → ∀ {target : Table},
    db.table? r.target = some target → ∀ row,
    e.2.Shows db.schema r.field.type (db.render target row e.2)
  | [], _, _, e, he, _, _, _, _, _ => by cases he
  | (key, child) :: rest, type, h, e, he, r, hnamed, target, htarget, row => by
    obtain ⟨hkey, hrest⟩ := h
    obtain rfl | he := List.mem_cons.mp he
    · have hname := name_of_table? htarget
      have hchild := (hkey r.field hnamed).2
      rw [Relation.field, ← hname] at hchild ⊢
      exact hdb.shows_render child (hname ▸ htarget) hchild row
    · exact hdb.shows_children rest hrest e he hnamed htarget row
end

end Database

/-- The paths that are bound of a graph without dots are read off its routes. -/
theorem Schema.names_of_bindIncludes {s : Schema} {root : FieldType} {graph : IncludeGraph}
    (hdotless : graph.Dotless) {bound : List FieldPath} {skipped : List String}
    (h : s.bindIncludes root (some graph) = .ok (bound, skipped)) :
    ∀ p ∈ bound, ∃ route ∈ graph.routes, s.Names root route p.fields := by
  intro p hp
  obtain ⟨rfl, -, -⟩ := bindEach_ok h
  obtain ⟨path, hpath, hfound⟩ := List.mem_filterMap.mp hp
  have hpath : path ∈ graph.flatten := hpath
  rw [graph.flatten_eq] at hpath
  obtain ⟨route, hroute, rfl⟩ := List.mem_map.mp hpath
  have hresolve : s.resolve .inclusion root (String.intercalate "." route) = .ok (some p) := by
    rw [found?_bindInclude, relationPath?] at hfound
    split at hfound
    · next hresolve =>
      split at hfound <;> cases hfound
      exact hresolve
    · cases hfound
  obtain ⟨-, hfields⟩ := resolve_eq_some_iff.mp hresolve
  rw [split_intercalate (IncludeGraph.ne_nil_of_mem_routes hroute)
    (IncludeGraph.dot_not_mem_of_mem_routes hdotless route hroute)] at hfields
  exact ⟨route, hroute, (fieldsOf?_eq_some_iff_names.mp hfields).1⟩

/-- Of a graph without dots whose keys beside each other name different relations, binding gives
paths that can all be followed through the mapping of a row, and the mapping holds at every depth
the columns and the relations that the graph names there, nothing else. -/
theorem render_follows_graph {db : Database} (hdb : db.IsMapped) {t : Table}
    (ht : db.table? t.name = some t) {graph : IncludeGraph} (hdotless : graph.Dotless)
    (hapart : graph.NamesApart db.schema (.entity t.name)) (row : Row) :
    ∃ bound skipped,
      db.schema.bindIncludes (.entity t.name) (some graph) = .ok (bound, skipped) ∧
      (∀ p ∈ bound, Leads p.fields (db.render t row (.node graph))) ∧
      IncludeTree.Shows db.schema (.entity t.name) (.node graph)
        (db.render t row (.node graph)) ∧
      (t.row? row.key.toNat = some row →
        db.mapping (some graph) (db.entity t row) = db.render t row (.node graph)) := by
  obtain ⟨bound, skipped, hbound⟩ := hdb.bindIncludes_isOk ht (some graph)
  have hshows := hdb.shows_render (.node graph) ht hapart row
  refine ⟨bound, skipped, hbound, fun p hp => ?_, hshows, fun hrow => ?_⟩
  · obtain ⟨route, hroute, hnames⟩ := Schema.names_of_bindIncludes hdotless hbound p hp
    have hroute : route ∈ (IncludeTree.node graph).routes := by rwa [IncludeTree.routes]
    exact hnames.leads hroute (Schema.relation_of_bindIncludes hbound p hp) hshows
  · simp only [Database.mapping, Database.entity, ht, Option.bind_some, hrow, Option.map_some]

/-- The sample library is mapped, whatever is in its tables. -/
theorem Sample.isMapped_mappedDatabase (books : List Value) : (mappedDatabase books).IsMapped := by
  have htargets : ∀ form ∈ forms, ∀ r ∈ (mappedTable [] form).relations,
      ∃ target ∈ forms, target.type = r.target := by decide
  have hcolumns : ∀ form ∈ forms, ∀ c ∈ columnsOf form,
      c.type.isKey ∧ c.type.name?.isSome ∧ c.type.isDirect := by decide
  have hgadgets : ∀ c ∈ gadgets.columns,
      c.type.isKey ∧ c.type.name?.isSome ∧ c.type.isDirect := by decide
  have hnames : ∀ form ∈ forms, ((columnsOf form).map (·.name) ++
      (mappedTable [] form).relations.map (·.name)).Nodup := by decide
  have htables : ∀ t ∈ (mappedDatabase books).tables,
      (∃ form ∈ forms, t = mappedTable books form) ∨ t = gadgets := by
    simp [mappedDatabase, Database.ofTables, eq_comm]
  have hentity : ∀ {type : FieldType}, type.isDirect → ∀ name, type ≠ .entity name := by
    rintro type h name rfl
    cases h
  refine ⟨rfl, fun t ht r hr => ?_, fun t ht c hc => ?_, fun t ht => ?_⟩
  · obtain ⟨form, hform, rfl⟩ | rfl := htables t ht
    · obtain ⟨target, htarget, hname⟩ := htargets form hform r hr
      refine List.find?_isSome.mpr
        ⟨mappedTable books target, ?_, by simpa [mappedTable] using hname⟩
      exact List.mem_append_left _ (List.mem_map_of_mem htarget)
    · cases hr
  · have hdirect : c.type.isKey ∧ c.type.name?.isSome ∧ c.type.isDirect := by
      obtain ⟨form, hform, rfl⟩ | rfl := htables t ht
      · exact hcolumns form hform c hc
      · exact hgadgets c hc
    exact ⟨hdirect.1, hdirect.2.1, hentity hdirect.2.2⟩
  · obtain ⟨form, hform, rfl⟩ | rfl := htables t ht
    · exact hnames form hform
    · decide

/-- A book and its author, whose book it is. -/
def shelfDatabase : Database := .ofTables []
  [{ name := "Book", identifier := "id"
     columns := [⟨"id", .scalar .int⟩, ⟨"author_id", .scalar .int⟩]
     relations := [⟨"author", "Author", "author_id", false⟩]
     rows := [⟨1, [("id", .integer 1), ("author_id", .integer 1)]⟩] },
   { name := "Author", identifier := "id"
     columns := [⟨"id", .scalar .int⟩]
     relations := [⟨"books", "Book", "author_id", true⟩]
     rows := [⟨1, [("id", .integer 1)]⟩] }]

/-- The author of a book, the books of that one and their author again, and a name that no author
has. -/
def roundGraph : IncludeGraph :=
  [("Author", .node [("books", .node [("author", .leaf)]), ("shelf", .leaf)])]

theorem isMapped_shelfDatabase : shelfDatabase.IsMapped where
  stored := rfl
  target := by decide
  column := by simp [shelfDatabase, Database.ofTables, FieldType.isKey, FieldType.name?]
  nodup := by decide

theorem namesApart_roundGraph :
    roundGraph.NamesApart shelfDatabase.schema (.entity "Book") := by
  have hauthor : ∀ key ∈ ["Author", "author"],
      shelfDatabase.schema.namedRelation? (.entity "Book") key =
        some ⟨"author", .entity "Author", false, true⟩ := by decide
  have hbooks : shelfDatabase.schema.namedRelation? (.entity "Author") "books" =
      some ⟨"books", .entity "Book", true, true⟩ := by decide
  have hshelf : shelfDatabase.schema.namedRelation? (.entity "Author") "shelf" = none := by decide
  simp [roundGraph, IncludeGraph.NamesApart, IncludeTree.NamesApart, hauthor, hbooks, hshelf]

/-- Rows that lead back to themselves are shown as far as the graph goes. -/
theorem shelfDatabase_follows_graph :
    ∃ bound skipped,
      shelfDatabase.schema.bindIncludes (.entity "Book") (some roundGraph) =
        .ok (bound, skipped) ∧
      (∀ p ∈ bound, Leads p.fields (shelfDatabase.render shelfDatabase.tables[0]
        shelfDatabase.tables[0].rows[0] (.node roundGraph))) ∧
      IncludeTree.Shows shelfDatabase.schema (.entity "Book") (.node roundGraph)
        (shelfDatabase.render shelfDatabase.tables[0] shelfDatabase.tables[0].rows[0]
          (.node roundGraph)) := by
  have hdotless : roundGraph.Dotless := by
    simp [roundGraph, IncludeGraph.Dotless, IncludeTree.Dotless]
  obtain ⟨bound, skipped, hbound, hleads, hshows, -⟩ := render_follows_graph
    isMapped_shelfDatabase (t := shelfDatabase.tables[0]) rfl hdotless namesApart_roundGraph
    shelfDatabase.tables[0].rows[0]
  exact ⟨bound, skipped, hbound, hleads, hshows⟩

end PagedQuery
