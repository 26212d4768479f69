import PagedQuery.Proofs.Binding.Crossing
import PagedQuery.Proofs.Binding.Returning
import PagedQuery.Proofs.Ordering.Equality
import PagedQuery.Proofs.Sources.Partition

/-!
# Looking up an entity

An entity is looked up by its identifier, which is found in the table of its type and compared as it
stands. A filter on the identifier finds the same field by its path, converts the text alike, and
compares after aligning moments, of which none is an identifier's value. So both find the same
entity, whatever has been put on the source before the lookup. But a lookup binds its graph first,
and has no fault for an identifier that cannot be written.
-/

namespace PagedQuery

open Enumeration (sameValue)
open PagedQuery.Number PagedQuery.Text

/-! ## Calls on a source -/

/-- A call that makes a source in memory from another one. -/
inductive MemoryCall
  | select (filters : List BoundFilter)
  | order (sorts : List BoundSort)
  | load (paths : List FieldPath)

namespace MemorySource

variable (s : MemorySource)

def call (s : MemorySource) : MemoryCall → MemorySource
  | .select filters => s.filteredBy filters
  | .order sorts => s.orderedBy sorts
  | .load paths => s.including paths

/-- A source after calls one after the other. -/
def called (s : MemorySource) (calls : List MemoryCall) : MemorySource := calls.foldl call s

/-- A call keeps the entities. -/
theorem call_keeps (c : MemoryCall) :
    (s.call c).schema = s.schema ∧ (s.call c).root = s.root ∧ (s.call c).items = s.items := by
  cases c with
  | select filters =>
    exact ⟨s.filteredBy_schema filters, s.filteredBy_root filters, s.filteredBy_items filters⟩
  | order sorts =>
    exact ⟨s.orderedBy_schema sorts, s.orderedBy_root sorts, s.orderedBy_items sorts⟩
  | load paths => exact ⟨rfl, rfl, rfl⟩

theorem called_keeps (calls : List MemoryCall) : (s.called calls).schema = s.schema ∧
    (s.called calls).root = s.root ∧ (s.called calls).items = s.items := by
  induction calls generalizing s with
  | nil => exact ⟨rfl, rfl, rfl⟩
  | cons c calls ih =>
    obtain ⟨hschema, hroot, hitems⟩ := s.call_keeps c
    obtain ⟨hschema', hroot', hitems'⟩ := ih (s.call c)
    exact ⟨hschema'.trans hschema, hroot'.trans hroot, hitems'.trans hitems⟩

/-- Entities are looked for one after the other. -/
theorem findBy_eq {path : List Field} {identifier : Value} {items : List Value}
    (h : ∀ x ∈ items, Value.compare .equal (FieldPath.follow path x) identifier =
      .ok (sameValue (FieldPath.follow path x) identifier)) :
    findBy path identifier items =
      .ok (items.find? fun x => sameValue (FieldPath.follow path x) identifier) := by
  induction items with
  | nil => rfl
  | cons x items ih =>
    obtain ⟨hx, hitems⟩ := List.forall_mem_cons.mp h
    rw [findBy, hx, List.find?_cons]
    cases sameValue (FieldPath.follow path x) identifier with
    | true => rfl
    | false => exact ih hitems

end MemorySource

/-- Where at most one element has a property, the elements with it are the first of them. -/
theorem filter_eq_toList_find? {α : Type} {p : α → Bool} {xs : List α}
    (h : xs.Pairwise fun x y => ¬ (p x ∧ p y)) : xs.filter p = (xs.find? p).toList := by
  induction xs with
  | nil => rfl
  | cons x xs ih =>
    obtain ⟨hx, hxs⟩ := List.pairwise_cons.mp h
    rw [List.filter_cons, List.find?_cons]
    cases hp : p x with
    | false => exact ih hxs
    | true =>
      have hnone : xs.filter p = [] :=
        List.filter_eq_nil_iff.mpr fun y hy hpy => hx y hy ⟨hp, hpy⟩
      rw [if_pos rfl, hnone]
      rfl

/-! ## Identifiers -/

namespace FieldType

/-- The types whose values identify entities: numbers, texts, identifiers, days and members of
enumerations. -/
def identifies : FieldType → Bool
  | .scalar .int | .scalar .text | .scalar .uuid | .scalar .date | .enumeration _ => true
  | _ => false

variable {t : FieldType}

theorem isAtomic_of_identifies (h : t.identifies) : t.isAtomic := by
  unfold identifies at h
  split at h <;> first | rfl | cases h

theorem isDirect_of_identifies (h : t.identifies) : t.isDirect := by
  unfold identifies at h
  split at h <;> first | rfl | cases h

/-- What is described as a field of values is no relation. -/
theorem relation_of_isDirect {name : String} {f : Field} (h : t.describe? name = some f)
    (hdirect : f.type.isDirect) : f.relation = false := by
  unfold describe? at h
  split at h
  · cases h
  · obtain rfl := Option.some.inj h
    clear h
    split at hdirect
    · split at hdirect
      · next hcollection => simpa [hcollection] using hdirect
      · next hcollection => simp [hcollection]
    · rfl
    · rfl
    · rfl
    · simpa using hdirect

end FieldType

theorem Value.written_member (type name : String) (base : EnumBase) (v : Value) :
    (Value.member type base name v).written = .ok (Value.member type base name v).toText ∨
      (Value.member type base name v).written = .error .longInteger ∧
        ∃ n, base = .integer ∧ v = .int n ∧ isLong n := by
  cases base with
  | integer =>
    cases v with
    | int n =>
      have hwritable : (Value.member type .integer name (.int n)).unwritable? =
        if isLong n then some .longInteger else none := rfl
      rw [Value.written, hwritable]
      cases hn : isLong n with
      | true => exact .inr ⟨rfl, n, rfl, rfl, hn⟩
      | false => exact .inl rfl
    | _ => exact .inl rfl
  | _ => exact .inl rfl

namespace Schema

variable {s : Schema} {t : FieldType} {name raw : String} {f : Field} {v w : Value}

/-- Instances of a type that identifies are keyed, or moments in the place of days. -/
theorem isKeyed_of_isInstance (ht : t.identifies) (h : s.isInstance t v) :
    v.isKeyed ∨ ∃ m, v = .dateTime m := by
  cases t with
  | scalar k =>
    cases k with
    | int | text | uuid | date =>
      cases v <;> first | exact .inl rfl | exact .inr ⟨_, rfl⟩ | cases h
    | _ => cases ht
  | enumeration name => cases v <;> first | exact .inl rfl | cases h
  | _ => cases ht

theorem isNull_of_isInstance (ht : t.identifies) (h : s.isInstance t v) : v.isNull = false := by
  obtain hkeyed | ⟨m, rfl⟩ := isKeyed_of_isInstance ht h
  · cases v <;> first | rfl | cases hkeyed
  · rfl

theorem read_of_convert_identifies (ht : t.identifies) (h : s.convert raw t = .ok w) :
    s.read raw t = .ok w := by
  refine read_of_convert ?_ h
  obtain ⟨k, rfl⟩ | ⟨name, rfl⟩ :=
    FieldType.exists_of_isAtomic (FieldType.isAtomic_of_identifies ht)
  · simp
  · simp

/-- What a text is read as by a type that identifies: an integer that can be written, a text, an
identifier, a day, or a member of the enumeration. -/
inductive IsIdentifierOf : FieldType → Value → Prop
  | int {n : ℤ} (h : isLong n = false) : IsIdentifierOf (.scalar .int) (.int n)
  | text (r : String) : IsIdentifierOf (.scalar .text) (.text r)
  | uuid (n : ℕ) : IsIdentifierOf (.scalar .uuid) (.uuid n)
  | date (d : Time.Date) : IsIdentifierOf (.scalar .date) (.date d)
  | member (e : Enumeration) (m : String × Value) (name : String) :
      IsIdentifierOf (.enumeration name) (e.valueOf m)

theorem isIdentifierOf_of_readUuid (h : Scalar.readUuid raw = .ok w) :
    IsIdentifierOf (.scalar .uuid) w := by
  unfold Scalar.readUuid at h
  split at h
  · cases h
    exact .uuid _
  · cases h
  · cases h

theorem isIdentifierOf_of_readInteger (h : Scalar.readInteger raw = .ok w) :
    IsIdentifierOf (.scalar .int) w := by
  unfold Scalar.readInteger at h
  split at h
  · next n hn =>
    cases h
    exact .int (isLong_of_readPlain hn)
  · cases h

theorem isIdentifierOf_of_convert (ht : t.identifies) (h : s.convert raw t = .ok w) :
    IsIdentifierOf t w := by
  replace h := read_of_convert_identifies ht h
  cases t with
  | scalar k =>
    simp only [Schema.read] at h
    cases k with
    | int =>
      simp only [Scalar.read] at h
      exact isIdentifierOf_of_readInteger h
    | text =>
      simp only [Scalar.read] at h
      cases h
      exact .text raw
    | uuid =>
      simp only [Scalar.read] at h
      exact isIdentifierOf_of_readUuid h
    | date =>
      simp only [Scalar.read] at h
      obtain ⟨d, rfl, -⟩ := Scalar.readDate_valid h
      exact .date d
    | _ => cases ht
  | enumeration name =>
    cases he : s.enumeration? name with
    | none =>
      simp only [Schema.read, he] at h
      cases h
    | some e =>
      simp only [Schema.read, he] at h
      obtain ⟨m, -, rfl⟩ := Enumeration.exists_member_of_read h
      exact .member e m name
  | _ => cases ht

theorem IsIdentifierOf.isKeyed (h : IsIdentifierOf t w) : w.isKeyed := by
  cases h <;> rfl

/-- Such a value is written, but for a member that stands for an integer of too many digits. -/
theorem IsIdentifierOf.written_eq (h : IsIdentifierOf t w) :
    w.written = .ok w.toText ∨ w.written = .error .longInteger ∧
      ∃ e type member n, t = .enumeration e ∧ w = .member type .integer member (.int n) ∧
        isLong n := by
  cases h with
  | int h => exact .inl (Enumeration.written_int h)
  | text r => exact .inl rfl
  | uuid n => exact .inl rfl
  | date d => exact .inl rfl
  | member e m name =>
    obtain hwritten | ⟨hlong, n, hbase, hvalue, hn⟩ := Value.written_member e.name m.1 e.base m.2
    · exact .inl hwritten
    · refine .inr ⟨hlong, name, e.name, m.1, n, rfl, ?_, hn⟩
      rw [Enumeration.valueOf, hbase, hvalue]

/-! ## The field of the identifier -/

/-- The identifier of an entity type without a table is the field that a path to it names. -/
theorem exists_model_of_identifier (hplain : s.stored? name = none)
    (hid : s.identifier (.entity name) = .ok (some f)) :
    ∃ m, s.model (.entity name) = .ok m ∧ m.lookup "id" = some f ∧ ∃ n, ∃ t : FieldType,
      t.describe? n = some f := by
  have hnormal : normalizeProperty "id" = "Id" := by decide
  unfold identifier at hid
  rw [model_entity, hplain] at hid ⊢
  cases ha : s.attributes name with
  | error e =>
    rw [ha] at hid
    cases hid
  | ok attributes =>
    rw [ha] at hid
    have hlookup : lookup? "Id" (fieldTable attributes) = some f := Except.ok.inj hid
    obtain ⟨⟨n, f'⟩, hmem, rfl⟩ := List.mem_map.mp (mem_fieldTable (mem_of_lookup? hlookup))
    refine ⟨_, rfl, ?_, n, exists_describe? hplain ha hmem⟩
    rw [EntityModel.lookup, hnormal]
    exact hlookup

theorem resolve_identifier (hplain : s.stored? name = none)
    (hid : s.identifier (.entity name) = .ok (some f)) (hmany : f.many = false)
    (htype : f.type.identifies) :
    s.resolve .value (.entity name) "id" = .ok (some ⟨.entity name, [f]⟩) := by
  obtain ⟨m, hm, hlookup, n, t, hdescribed⟩ := exists_model_of_identifier hplain hid
  have hrelation : f.relation = false :=
    FieldType.relation_of_isDirect hdescribed (FieldType.isDirect_of_identifies htype)
  have hsplit : split '.' "id" = ["id"] := by decide
  rw [resolve_eq_some_iff, hsplit]
  exact ⟨rfl, fieldsOf?_cons_eq_some_iff.mpr
    ⟨by decide, m, f, [], hm, rfl, hlookup, rfl, rfl, fun _ => ⟨hmany, fun _ => hrelation⟩⟩⟩

end Schema

/-! ## Both ways to an entity -/

/-- Entities in memory that an identifier tells apart: their type has no table, and they hold
instances of the identifier's type, no two of which are equal. -/
structure Identified (s : Schema) (name : String) (f : Field) (items : List Value) : Prop where
  plain : s.stored? name = none
  identifier : s.identifier (.entity name) = .ok (some f)
  single : f.many = false
  identifies : f.type.identifies
  instances : ∀ x ∈ items, s.isInstance f.type (FieldPath.follow [f] x)
  distinct : items.Pairwise fun x y =>
    sameValue (FieldPath.follow [f] x) (FieldPath.follow [f] y) = false

/-- The fault for an identifier that no entity has. -/
def unknownEntity (name : String) (identifier : Value) : Fault :=
  match identifier.written with
  | .ok text => .entityNotFound name text
  | .error e => e

/-- What a lookup by a text finds on a source on which calls have been made. -/
def lookedUp (s : Schema) (name : String) (items : List Value) (calls : List MemoryCall)
    (raw : String) (graph : GraphParameter) : Except Fault Value :=
  ((Source.memory (MemorySource.called { schema := s, root := .entity name, items } calls)).getOn
    (.text raw) graph).map (·.2)

/-- What a filter on the identifier lists. -/
def listedById (s : Schema) (name : String) (items : List Value) (raw : String) :
    Except Fault (List Value) :=
  ((Source.memory { schema := s, root := .entity name, items }).run
    (({} : QueryBuilder).filter "id" (.compare .equal) (.text raw)).build.query).map (·.elements)

section Lookup

variable {s : Schema} {name raw : String} {f : Field} {items : List Value} {w : Value}
  {graph : GraphParameter} {g : IncludeGraph}

theorem unknownEntity_eq (name : String) (h : Schema.IsIdentifierOf f.type w) :
    unknownEntity name w = .entityNotFound name w.toText ∨
      unknownEntity name w = .longInteger ∧
        ∃ e type member n, f.type = .enumeration e ∧
          w = .member type .integer member (.int n) ∧ isLong n := by
  unfold unknownEntity
  obtain hwritten | ⟨hlong, hmember⟩ := h.written_eq
  · rw [hwritten]
    exact .inl rfl
  · rw [hlong]
    exact .inr ⟨rfl, hmember⟩

/-- A lookup whose graph is bound converts the text and looks for an entity with this identifier. -/
theorem getOn_memory {m : MemorySource} (hid : m.schema.identifier m.root = .ok (some f))
    (hgraph : Source.requiredGraph graph = .ok g) {bound : List FieldPath × List String}
    (hbound : m.schema.bindIncludes m.root (some g) = .ok bound) :
    ((Source.memory m).getOn (.text raw) graph).map (·.2) = (do
      let w ← m.schema.convert raw f.type
      match ← MemorySource.findBy [f] w m.items with
      | some e => return e
      | none => .error (unknownEntity m.root.label w)) := by
  have hbound' : (Source.memory m).schema.bindIncludes (Source.memory m).root (some g) =
      .ok bound := hbound
  have hconverted : (Source.memory m).identifier (.text raw) = m.schema.convert raw f.type := by
    have hid' : (Source.memory m).schema.identifier (Source.memory m).root = .ok (some f) := hid
    simp only [Source.identifier, Value.text?, hid']
    rfl
  have hfind : ∀ w, ((Source.memory m).including bound.1).find w =
      MemorySource.findBy [f] w m.items := by
    intro w
    have hfind : ((Source.memory m).including bound.1).find w =
        (m.including bound.1).find w := rfl
    have hid' : (m.including bound.1).schema.identifier (m.including bound.1).root =
        .ok (some f) := hid
    rw [hfind, MemorySource.find, hid']
    rfl
  simp only [Source.getOn, hgraph, hbound', hconverted, bind, Except.bind, hfind]
  cases m.schema.convert raw f.type with
  | error e => rfl
  | ok w =>
    dsimp only
    cases MemorySource.findBy [f] w m.items with
    | error e => rfl
    | ok found =>
      cases found with
      | some e => rfl
      | none =>
        dsimp only [unknownEntity]
        cases w.written <;> rfl

/-- A lookup fails as the binding of its graph does. -/
theorem getOn_memory_of_error {m : MemorySource} (hgraph : Source.requiredGraph graph = .ok g)
    {e : Fault} (hbound : m.schema.bindIncludes m.root (some g) = .error e) :
    ((Source.memory m).getOn (.text raw) graph).map (·.2) = .error e := by
  have hbound' : (Source.memory m).schema.bindIncludes (Source.memory m).root (some g) =
      .error e := hbound
  simp only [Source.getOn, hgraph, hbound', bind, Except.bind]
  rfl

namespace Identified

variable (h : Identified s name f items)

include h

theorem compare_eq (hw : w.isKeyed) {x : Value} (hx : x ∈ items) :
    Value.compare .equal (FieldPath.follow [f] x) w =
      .ok (sameValue (FieldPath.follow [f] x) w) :=
  (Value.compare_equal (Schema.isKeyed_of_isInstance h.identifies (h.instances x hx)) hw).1

/-- At most one entity has an identifier. -/
theorem filter_eq (hw : w.isKeyed) :
    items.filter (fun x => sameValue (FieldPath.follow [f] x) w) =
      (items.find? fun x => sameValue (FieldPath.follow [f] x) w).toList := by
  have hkeyed := fun x hx => Schema.isKeyed_of_isInstance h.identifies (h.instances x hx)
  refine filter_eq_toList_find? (h.distinct.imp_of_mem fun {x y} hx hy hne hboth => ?_)
  have hsame := Value.sameValue_of_sameValue (hkeyed x hx) (hkeyed y hy) hw hboth.1 hboth.2
  rw [hne] at hsame
  cases hsame

/-- What a lookup finds, whatever has been put on the source. -/
theorem found_eq (calls : List MemoryCall) (hgraph : Source.requiredGraph graph = .ok g)
    {bound : List FieldPath × List String}
    (hbound : s.bindIncludes (.entity name) (some g) = .ok bound) :
    lookedUp s name items calls raw graph = (do
      let w ← s.convert raw f.type
      match items.find? fun x => sameValue (FieldPath.follow [f] x) w with
      | some e => return e
      | none => .error (unknownEntity name w)) := by
  obtain ⟨hschema, hroot, hitems⟩ :=
    MemorySource.called_keeps { schema := s, root := .entity name, items } calls
  have hlabel : (FieldType.entity name).label = name := rfl
  rw [lookedUp, getOn_memory (f := f) (by rw [hschema, hroot]; exact h.identifier) hgraph
    (by rw [hschema, hroot]; exact hbound), hschema, hroot, hitems, hlabel]
  cases hconvert : s.convert raw f.type with
  | error e => rfl
  | ok w =>
    have hw := (Schema.isIdentifierOf_of_convert h.identifies hconvert).isKeyed
    simp only [bind, Except.bind, MemorySource.findBy_eq fun x hx => h.compare_eq hw hx]

/-- What a filter on the identifier lists. -/
theorem listed_eq : (Source.memory { schema := s, root := .entity name, items }).run
      (({} : QueryBuilder).filter "id" (.compare .equal) (.text raw)).build.query = (do
    let w ← s.convert raw f.type
    paginate (items.filter fun x => sameValue (FieldPath.follow [f] x) w) 1 10) := by
  let source : MemorySource := { schema := s, root := .entity name, items }
  let path : FieldPath := ⟨.entity name, [f]⟩
  have hatomic : path.valueType.isAtomic := FieldType.isAtomic_of_identifies h.identifies
  have hpath := Schema.resolve_identifier h.plain h.identifier h.single h.identifies
  have hplan := Schema.compile_built hpath hatomic (.text raw)
  have htext : (Value.text raw).toText = raw := rfl
  rw [htext, ← Schema.convert_of_isAtomic hatomic] at hplan
  cases hconvert : s.convert raw f.type with
  | error e =>
    have hvalue : s.convert raw path.valueType = .error e := hconvert
    rw [hvalue] at hplan
    exact run_of_compile_error hplan
  | ok w =>
    have hvalue : s.convert raw path.valueType = .ok w := hconvert
    rw [hvalue] at hplan
    have hw := (Schema.isIdentifierOf_of_convert h.identifies hconvert).isKeyed
    refine run_singleton (s := source) hplan rfl rfl fun x hx => ?_
    have hnull : (path.get x).isNull = false :=
      Schema.isNull_of_isInstance h.identifies (h.instances x hx)
    rw [BoundFilter.holds_of_isNull_eq_false rfl rfl hnull, BoundFilter.compare,
      Value.align_of_isKeyed hw]
    have hcompare := h.compare_eq hw hx
    simp only [FieldPath.get, hcompare]

/-- A lookup and a filter find one entity, or none, or fail on the text. -/
theorem outcome (raw : String) (calls : List MemoryCall)
    (hgraph : Source.requiredGraph graph = .ok g) {bound : List FieldPath × List String}
    (hbound : s.bindIncludes (.entity name) (some g) = .ok bound) :
    (∃ e, lookedUp s name items calls raw graph = .ok e ∧
      listedById s name items raw = .ok [e]) ∨
    (∃ w, s.convert raw f.type = .ok w ∧
      lookedUp s name items calls raw graph = .error (unknownEntity name w) ∧
      listedById s name items raw = .ok []) ∨
    ∃ target reason,
      lookedUp s name items calls raw graph = .error (.conversion raw target reason) ∧
      listedById s name items raw = .error (.conversion raw target reason) := by
  rw [h.found_eq calls hgraph hbound, listedById, h.listed_eq]
  cases hconvert : s.convert raw f.type with
  | error e =>
    obtain ⟨target, reason, rfl⟩ := Schema.exists_conversion_of_convert hconvert
    exact .inr (.inr ⟨target, reason, rfl, rfl⟩)
  | ok w =>
    have hw := (Schema.isIdentifierOf_of_convert h.identifies hconvert).isKeyed
    simp only [bind, Except.bind, h.filter_eq hw]
    cases items.find? fun x => sameValue (FieldPath.follow [f] x) w with
    | some e =>
      have hlength : (((some e).toList.length : ℕ) : ℤ) ≤ 10 := by simp
      refine .inl ⟨e, rfl, ?_⟩
      rw [paginate_eq _ (by decide) le_rfl, pagePart_one _ hlength]
      rfl
    | none =>
      refine .inr (.inl ⟨w, rfl, rfl, ?_⟩)
      rw [paginate_eq _ (by decide) le_rfl, pagePart_one _ (by decide)]
      rfl

end Identified

/-- A lookup by a text fails as the binding of its graph does. Once the graph is bound, it agrees
with a filter of the identifier by the text, whatever calls have been made on the source before: it
finds an entity if the filter lists that one alone, fails on the text if the filter does, and if the
filter lists none fails as there is no such entity, unless the text is read as a member that stands
for an integer of too many digits, which the message cannot hold. -/
theorem getOn_agrees_with_filter (h : Identified s name f items) (raw : String)
    (calls : List MemoryCall) (hgraph : Source.requiredGraph graph = .ok g) :
    (∀ e, s.bindIncludes (.entity name) (some g) = .error e →
      lookedUp s name items calls raw graph = .error e) ∧
    ∀ bound, s.bindIncludes (.entity name) (some g) = .ok bound →
      (∀ e, lookedUp s name items calls raw graph = .ok e ↔
        listedById s name items raw = .ok [e]) ∧
      ((∃ w, s.convert raw f.type = .ok w ∧
          lookedUp s name items calls raw graph = .error (.entityNotFound name w.toText)) ∨
        lookedUp s name items calls raw graph = .error .longInteger ↔
          listedById s name items raw = .ok []) ∧
      (lookedUp s name items calls raw graph = .error .longInteger →
        ∃ e type member n, f.type = .enumeration e ∧
          s.convert raw f.type = .ok (.member type .integer member (.int n)) ∧ isLong n) ∧
      ∀ target reason,
        lookedUp s name items calls raw graph = .error (.conversion raw target reason) ↔
          listedById s name items raw = .error (.conversion raw target reason) := by
  refine ⟨fun e hbound => ?_, fun bound hbound => ?_⟩
  · obtain ⟨hschema, hroot, -⟩ :=
      MemorySource.called_keeps { schema := s, root := .entity name, items } calls
    exact getOn_memory_of_error hgraph (by rw [hschema, hroot]; exact hbound)
  · obtain ⟨e, hfound, hlisted⟩ | ⟨w, hconvert, hfound, hlisted⟩ |
      ⟨target, reason, hfound, hlisted⟩ := h.outcome raw calls hgraph hbound
    · simp [hfound, hlisted]
    · obtain hknown | ⟨hlong, e, type, member, n, htype, rfl, hn⟩ := unknownEntity_eq name
        (Schema.isIdentifierOf_of_convert h.identifies hconvert)
      · simp [hfound, hlisted, hknown, hconvert]
      · rw [hlong] at hfound
        exact ⟨by simp [hfound, hlisted], by simp [hfound, hlisted],
          fun _ => ⟨e, type, member, n, htype, hconvert, hn⟩, by simp [hfound, hlisted]⟩
    · simp [hfound, hlisted]

end Lookup

/-- Tickets with a number and a guest. -/
def tickets : Schema where
  types := [⟨"Ticket", [("id", .scalar .int), ("guest", .entity "Guest")], [], .plain, []⟩,
    ⟨"Guest", [("name", .scalar .text)], [], .plain, []⟩]

def ticketNumber : Field := ⟨"id", .scalar .int, false, false⟩

def ticketAt (number : ℕ) : Value := .entity "Ticket" {} number [("id", .int number)]

/-- Only the seventh ticket, from the last one to the first. -/
def seventhTicket : List MemoryCall :=
  [.select [⟨⟨"Id", .compare .equal, "7"⟩, ⟨.entity "Ticket", [ticketNumber]⟩, .int 7, false⟩],
   .order [⟨⟨"Id", .descending⟩, ⟨.entity "Ticket", [ticketNumber]⟩, 0⟩]]

theorem tickets_identified :
    Identified tickets "Ticket" ticketNumber [ticketAt 5, ticketAt 6, ticketAt 7] where
  plain := rfl
  identifier := rfl
  single := rfl
  identifies := rfl
  instances := by decide
  distinct := by decide

/-- The sixth ticket is found by its number on a source of the seventh alone. -/
theorem sixthTicket_agrees :
    Identified tickets "Ticket" ticketNumber [ticketAt 5, ticketAt 6, ticketAt 7] ∧
    Source.requiredGraph (.mapping [(.text "guest", .missing)]) = .ok [("guest", .leaf)] ∧
    listedById tickets "Ticket" [ticketAt 5, ticketAt 6, ticketAt 7] " 6" = .ok [ticketAt 6] ∧
    lookedUp tickets "Ticket" [ticketAt 5, ticketAt 6, ticketAt 7] seventhTicket " 6"
      (.mapping [(.text "guest", .missing)]) = .ok (ticketAt 6) := by
  have hgraph : Source.requiredGraph (.mapping [(.text "guest", .missing)]) =
    .ok [("guest", .leaf)] := rfl
  have hlisted : listedById tickets "Ticket" [ticketAt 5, ticketAt 6, ticketAt 7] " 6" =
    .ok [ticketAt 6] := rfl
  have hbound : tickets.bindIncludes (.entity "Ticket") (some [("guest", .leaf)]) =
    .ok ([⟨.entity "Ticket", [⟨"guest", .entity "Guest", false, true⟩]⟩], []) := rfl
  obtain ⟨hfound, -⟩ :=
    (getOn_agrees_with_filter tickets_identified " 6" seventhTicket hgraph).2 _ hbound
  exact ⟨tickets_identified, hgraph, hlisted, (hfound (ticketAt 6)).mpr hlisted⟩

/-- Books with reviews, of which only the name is known. -/
def reviewed : Schema where
  types := [⟨"Book", [("id", .scalar .int),
    ("reviews", .generic true .list [.forward "()"])], [], .plain, []⟩]

def reviewedBook : Value := .entity "Book" {} 1 [("id", .int 1)]

/-- The reviews are found, but what is beyond them has no name. -/
theorem reviewed_bindIncludes :
    reviewed.bindIncludes (.entity "Book") (some [("Reviews", .node [("Author", .leaf)])]) =
      .error (.typeWithoutName (.forward "()")) := by
  obtain ⟨beyond, hbeyond⟩ : ∃ m, reviewed.model (.forward "()") = .ok m := ⟨_, rfl⟩
  obtain ⟨book, hbook, hreviews⟩ : ∃ m, reviewed.model (.entity "Book") = .ok m ∧
    m.lookup "Reviews" = some ⟨"reviews", .forward "()", true, false⟩ := ⟨_, rfl, rfl⟩
  have hreached : reviewed.isReachable (.entity "Book") := rfl
  have hunreached : reviewed.isReachable (.forward "()") = false := by decide +kernel
  have hrest : reviewed.fieldsOf? .inclusion (.forward "()") ["Author"] =
      .error (.typeWithoutName (.forward "()")) := by
    rw [Schema.fieldsOf?, hbeyond]
    simp [hunreached]
  have hfields : reviewed.fieldsOf? .inclusion (.entity "Book") ["Reviews", "Author"] =
      .error (.typeWithoutName (.forward "()")) := by
    rw [Schema.fieldsOf?, hbook]
    simp [hreached, hreviews, hrest]
  have hsplit : split '.' "Reviews.Author" = ["Reviews", "Author"] := by decide
  have hpath : reviewed.bindInclude (.entity "Book") "Reviews.Author" =
      .error (.typeWithoutName (.forward "()")) := by
    rw [Schema.bindInclude, Schema.resolve, hsplit, hfields]
    rfl
  have hpaths : IncludeGraph.flatten [("Reviews", .node [("Author", .leaf)])] =
    ["Reviews.Author"] := rfl
  rw [Schema.bindIncludes, Option.map_some, hpaths, Option.getD_some, Schema.bindEach, hpath]

/-- A filter lists a book that a lookup fails on, as its graph leads past the reviews. -/
theorem reviewedBook_not_found :
    Identified reviewed "Book" ⟨"id", .scalar .int, false, false⟩ [reviewedBook] ∧
    Source.requiredGraph (.mapping [(.text "Reviews", .mapping [(.text "Author", .missing)])]) =
      .ok [("Reviews", .node [("Author", .leaf)])] ∧
    listedById reviewed "Book" [reviewedBook] "1" = .ok [reviewedBook] ∧
    lookedUp reviewed "Book" [reviewedBook] [] "1"
        (.mapping [(.text "Reviews", .mapping [(.text "Author", .missing)])]) =
      .error (.typeWithoutName (.forward "()")) := by
  refine ⟨⟨rfl, rfl, rfl, rfl, ?_, ?_⟩, rfl, rfl, getOn_memory_of_error rfl reviewed_bindIncludes⟩
  · decide
  · decide

end PagedQuery
