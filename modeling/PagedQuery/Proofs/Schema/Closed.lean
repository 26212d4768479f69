import Mathlib.Tactic
import PagedQuery.Plan.Basic
import PagedQuery.Proofs.Entries

/-!
# Closed sets of types

The fields of a path are attributes of the types on its way. Where the attributes of some types lead
to these types only, and all of them are known, no path from one of them fails: each is found or
not.
-/

namespace PagedQuery

open PagedQuery.Text

theorem mem_putNew {α : Type} {key : String} {v : α} {entries : List (String × α)}
    {e : String × α} (h : e ∈ putNew key v entries) : e ∈ entries ∨ e.2 = v := by
  unfold putNew at h
  split at h
  · exact .inl h
  · rcases List.mem_append.mp h with h | h
    · exact .inl h
    · exact .inr (List.mem_singleton.mp h ▸ rfl)

theorem mem_foldl_putNew {attributes : List (String × Field)} {e : String × Field}
    (start : List (String × Field))
    (h : e ∈ attributes.foldl (fun table (name, f) =>
      putNew (pascalCase name) f (putNew (normalizeProperty name) f table)) start) :
    e ∈ start ∨ e.2 ∈ attributes.map (·.2) := by
  induction attributes generalizing start with
  | nil => exact .inl h
  | cons a attributes ih =>
    rw [List.map_cons, List.mem_cons]
    rcases ih _ h with hmem | hmem
    · rcases mem_putNew hmem with hmem | heq
      · exact (mem_putNew hmem).imp_right .inl
      · exact .inr (.inl heq)
    · exact .inr (.inr hmem)

/-- The fields of a table are those of the attributes. -/
theorem mem_fieldTable {attributes : List (String × Field)} {e : String × Field}
    (h : e ∈ fieldTable attributes) : e.2 ∈ attributes.map (·.2) :=
  (mem_foldl_putNew [] h).resolve_left List.not_mem_nil

namespace Schema

variable {s : Schema} {type : FieldType} {types : List FieldType}

/-- The fields of an entity type, none if its attributes are not known. -/
def fieldsAt (s : Schema) (name : String) : List Field :=
  match s.attributes name with
  | .ok attributes => attributes.map (·.2)
  | .error _ => []

theorem model_entity (s : Schema) (name : String) :
    s.model (.entity name) = (s.attributes name).map fun attributes =>
      ⟨.entity name, fieldTable attributes,
        match s.stored? name with
        | some t => t.identifier.bind fun n => lookup? n attributes
        | none => lookup? "Id" (fieldTable attributes)⟩ := by
  have hkey : (FieldType.entity name).isKey := rfl
  simp only [model, hkey, Bool.not_true, Bool.false_eq_true, if_false]
  cases s.attributes name <;> rfl

theorem fields_eq_nil {m : EntityModel} (hm : s.model type = .ok m)
    (ht : ∀ name, type ≠ .entity name) : m.fields = [] := by
  unfold model at hm
  cases hkey : type.isKey with
  | false =>
    rw [hkey] at hm
    cases hm
  | true =>
    rw [hkey] at hm
    cases type with
    | entity name => exact (ht name rfl).elim
    | _ => exact Except.ok.inj hm ▸ rfl

/-- Only entity types have fields, and these are their attributes. -/
theorem mem_fieldsAt_of_lookup {m : EntityModel} {segment : String} {f : Field}
    (hm : s.model type = .ok m) (hf : m.lookup segment = some f) :
    ∃ name, type = .entity name ∧ f ∈ s.fieldsAt name := by
  have hmem := mem_of_lookup? hf
  by_cases ht : ∃ name, type = .entity name
  · obtain ⟨name, rfl⟩ := ht
    refine ⟨name, rfl, ?_⟩
    rw [model_entity] at hm
    unfold fieldsAt
    cases ha : s.attributes name with
    | error e =>
      rw [ha] at hm
      cases hm
    | ok attributes =>
      rw [ha] at hm
      cases hm
      exact mem_fieldTable hmem
  · rw [fields_eq_nil hm fun name h => ht ⟨name, h⟩] at hmem
    cases hmem

/-- The first field of a path is found in the table of its type, and the others from there on. -/
theorem fieldsOf?_cons_eq_some_iff {mode : PathMode} {segment : String} {rest : List String}
    {fields : List Field} :
    s.fieldsOf? mode type (segment :: rest) = .ok (some fields) ↔
      segment ≠ "" ∧ ∃ m f later, s.model type = .ok m ∧ s.isReachable type ∧
        m.lookup segment = some f ∧ fields = f :: later ∧
        s.fieldsOf? mode f.type rest = .ok (some later) ∧
        (mode = .value → f.many = false ∧ (rest = [] → f.relation = false)) := by
  constructor
  · intro h
    rw [fieldsOf?] at h
    split at h
    · cases h
    · next hsegment =>
      refine ⟨hsegment, ?_⟩
      split at h
      · cases h
      · next m hm =>
        split at h
        · cases h
        · next hreachable =>
          split at h
          · cases h
          · next f hf =>
            split at h
            · cases h
            · next hends =>
              cases hlater : s.fieldsOf? mode f.type rest with
              | error e =>
                rw [hlater] at h
                cases h
              | ok later? =>
                rw [hlater] at h
                cases later? with
                | none => cases h
                | some later =>
                  cases h
                  refine ⟨m, f, later, hm, by simpa using hreachable, hf, rfl, hlater, ?_⟩
                  rintro rfl
                  simpa [not_or] using hends
  · rintro ⟨hsegment, m, f, later, hm, hreachable, hf, rfl, hlater, hends⟩
    have hpasses : ¬ (mode = .value ∧ (f.many ∨ (rest = [] ∧ f.relation))) := by
      rintro ⟨hmode, hstop⟩
      obtain ⟨hmany, hrelation⟩ := hends hmode
      rcases hstop with h | ⟨hrest, h⟩
      · exact Bool.false_ne_true (hmany ▸ h)
      · exact Bool.false_ne_true (hrelation hrest ▸ h)
    rw [fieldsOf?]
    simp only [hsegment, if_false, hm, hreachable, Bool.not_true, Bool.false_eq_true, hf, hpasses,
      hlater, Option.map_some]

/-- The first field of a path is one of its type, and the others are found from there on. -/
theorem fieldsOf?_cons {mode : PathMode} {segment : String} {rest : List String}
    {fields : List Field} (h : s.fieldsOf? mode type (segment :: rest) = .ok (some fields)) :
    ∃ name f later, type = .entity name ∧ f ∈ s.fieldsAt name ∧ fields = f :: later ∧
      s.fieldsOf? mode f.type rest = .ok (some later) ∧
      (mode = .value → f.many = false ∧ (rest = [] → f.relation = false)) := by
  obtain ⟨-, m, f, later, hm, -, hf, hrest⟩ := fieldsOf?_cons_eq_some_iff.mp h
  obtain ⟨name, hname, hmem⟩ := mem_fieldsAt_of_lookup hm hf
  exact ⟨name, f, later, hname, hmem, hrest⟩

/-- A path is found if its segments are. -/
theorem resolve_eq_some_iff {mode : PathMode} {path : String} {p : FieldPath} :
    s.resolve mode type path = .ok (some p) ↔
      p.root = type ∧ s.fieldsOf? mode type (split '.' path) = .ok (some p.fields) := by
  unfold resolve
  split
  · next hpath =>
    have hsplit : split '.' path = [""] := by rw [hpath]; rfl
    simp [hsplit, fieldsOf?]
  · split
    · next hfields => simp [hfields]
    · next hfields =>
      split <;> simp [hfields]
    · next fields hfields =>
      obtain ⟨root, fs⟩ := p
      simp only [hfields, Except.ok.injEq, Option.some.injEq, FieldPath.mk.injEq]
      exact and_congr_left fun _ => eq_comm

/-- Whether a path of values is resolved to given fields. -/
def resolvesTo (s : Schema) (root : FieldType) (path : String) (p : FieldPath) : Bool :=
  match s.resolve .value root path with
  | .ok (some q) => q == p
  | _ => false

theorem resolvesTo_iff {s : Schema} {root : FieldType} {path : String} {p : FieldPath} :
    s.resolvesTo root path p ↔ s.resolve .value root path = .ok (some p) := by
  unfold resolvesTo
  split
  · next q hq => simp [hq]
  · next hne => exact iff_of_false Bool.false_ne_true (hne p)

/-- The types that paths lead to from some types on are among these, and all of them are known. -/
structure Closed (s : Schema) (types : List FieldType) : Prop where
  isKey : ∀ t ∈ types, t.isKey
  isSome_name? : ∀ t ∈ types, t.name?.isSome
  known : ∀ name, .entity name ∈ types → ∃ attributes, s.attributes name = .ok attributes
  mem : ∀ name, .entity name ∈ types → ∀ f ∈ s.fieldsAt name, f.type ∈ types

namespace Closed

theorem model_isOk (h : s.Closed types) (ht : type ∈ types) : ∃ m, s.model type = .ok m := by
  by_cases hentity : ∃ name, type = .entity name
  · obtain ⟨name, rfl⟩ := hentity
    obtain ⟨attributes, ha⟩ := h.known name ht
    rw [model_entity, ha]
    exact ⟨_, rfl⟩
  · unfold model
    rw [h.isKey type ht]
    cases type with
    | entity name => exact (hentity ⟨name, rfl⟩).elim
    | _ => exact ⟨_, rfl⟩

theorem fieldsOf?_isOk (h : s.Closed types) (mode : PathMode) (segments : List String)
    (ht : type ∈ types) : ∃ fields?, s.fieldsOf? mode type segments = .ok fields? := by
  induction segments generalizing type with
  | nil => exact ⟨_, rfl⟩
  | cons segment rest ih =>
    obtain ⟨m, hm⟩ := h.model_isOk ht
    have hreachable : s.isReachable type := by rw [isReachable, h.isSome_name? type ht]; rfl
    rw [fieldsOf?]
    split
    · exact ⟨none, rfl⟩
    · simp only [hm, hreachable, Bool.not_true, Bool.false_eq_true, if_false]
      cases hf : m.lookup segment with
      | none => exact ⟨none, rfl⟩
      | some f =>
        obtain ⟨name, rfl, hmem⟩ := mem_fieldsAt_of_lookup hm hf
        obtain ⟨fields?, hfields⟩ := ih (h.mem name ht f hmem)
        simp only [hfields]
        split <;> exact ⟨_, rfl⟩

/-- No path fails. -/
theorem resolve_isOk (h : s.Closed types) (mode : PathMode) (ht : type ∈ types) (path : String) :
    ∃ path?, s.resolve mode type path = .ok path? := by
  unfold resolve
  split
  · exact ⟨_, rfl⟩
  · obtain ⟨fields?, hfields⟩ := h.fieldsOf?_isOk mode (split '.' path) ht
    rw [hfields, h.isSome_name? type ht]
    cases fields? <;> exact ⟨_, rfl⟩

end Closed

theorem bindEach_isOk {α β : Type} {bind : α → Except Fault (Option β)} {text : α → String}
    {as : List α} (h : ∀ a ∈ as, ∃ bound?, bind a = .ok bound?) :
    ∃ bound, bindEach bind text as = .ok bound := by
  induction as with
  | nil => exact ⟨_, rfl⟩
  | cons a as ih =>
    obtain ⟨bound?, ha⟩ := h a List.mem_cons_self
    obtain ⟨bound, has⟩ := ih fun c hc => h c (List.mem_cons_of_mem a hc)
    rw [bindEach, ha, has]
    exact ⟨_, rfl⟩

theorem bindEach_congr {α β : Type} {bind bind' : α → Except Fault (Option β)} {text : α → String}
    {as : List α} (h : ∀ a ∈ as, bind a = bind' a) :
    bindEach bind text as = bindEach bind' text as := by
  induction as with
  | nil => rfl
  | cons a as ih =>
    rw [bindEach, bindEach, h a List.mem_cons_self, ih fun c hc => h c (List.mem_cons_of_mem a hc)]

/-- No path of relations fails. -/
theorem Closed.bindIncludes_isOk (h : s.Closed types) (ht : type ∈ types)
    (graph : Option IncludeGraph) : ∃ bound, s.bindIncludes type graph = .ok bound := by
  refine bindEach_isOk fun path _ => ?_
  obtain ⟨path?, hpath⟩ := h.resolve_isOk .inclusion ht path
  exact ⟨_, congrArg (Except.map _) hpath⟩

end Schema

end PagedQuery
