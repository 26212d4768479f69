import Mathlib.Data.List.Forall2
import PagedQuery.Proofs.Saved.Registering

/-!
# Loading queries

A load reads all definitions of its document before it registers the first of them. So a load that
fails, at whichever definition, changes nothing, and one that succeeds changes what its definitions
name and nothing else.
-/

namespace PagedQuery

open SavedQueries

/-! ## Definitions -/

/-- The names of definitions, in the order in which they first come. -/
def definedNames (definitions : List (Value × Value)) : List String :=
  (definitions.map (·.1.toText)).eraseDups

/-- The definition of a name, the last one if there are several. -/
def definitionOf? (name : String) (definitions : List (Value × Value)) : Option Value :=
  lookup? name (definitions.map fun (key, v) => (key.toText, v)).reverse

theorem Value.written_eq_ok_iff {v : Value} {s : String} :
    v.written = .ok s ↔ v.unwritable? = none ∧ v.toText = s := by
  unfold Value.written
  cases v.unwritable? <;> simp

theorem unknownKeys_eq_ok_iff {name : Value} {keys : List Value} :
    unknownKeys name keys = .ok () ↔ keys = [] := by
  constructor
  · intro h
    cases keys with
    | nil => rfl
    | cons k ks =>
      unfold unknownKeys at h
      cases hname : name.written with
      | error e =>
        rw [hname] at h
        cases h
      | ok text =>
        simp only [hname, bind, Except.bind] at h
        split at h
        · cases h
        · split at h <;> cases h
  · rintro rfl
    rfl

namespace RequestPolicy

variable (policy : RequestPolicy)

/-- Whether an entry of a document defines a query under a name. -/
def Defines (entry : Value × Value) (named : String × SavedQuery) : Prop :=
  entry.1.toText = named.1 ∧ policy.definition entry.1 entry.2 = .ok named.2

variable {policy} {definitions : List (Value × Value)} {seen queries : List (String × SavedQuery)}

/-- What a definition has to be for a query. -/
theorem definition_eq_ok_iff {name v : Value} {q : SavedQuery} :
    policy.definition name v = .ok q ↔ ∃ entries graph query, v = .dict entries ∧
      strangeKeys entries = [] ∧
      GraphParameter.ofValue? (definitionEntry "graph" entries) = some graph ∧
      policy.parse (.ofDefinition entries graph) = .ok query ∧ name.unwritable? = none ∧
      ⟨query, definitionEntry "description" entries⟩ = q := by
  constructor
  · intro h
    unfold definition at h
    split at h
    · next entries =>
      cases hkeys : unknownKeys name (strangeKeys entries) with
      | error e =>
        rw [hkeys] at h
        cases h
      | ok _ =>
        simp only [hkeys, bind, Except.bind] at h
        split at h
        · cases hname : name.written <;> simp [hname, throw, throwThe, MonadExceptOf.throw] at h
        · next graph hgraph =>
          split at h
          · cases h
          · next query hparse =>
            split at h
            · cases h
            · next text hname =>
              exact ⟨entries, graph, query, rfl, unknownKeys_eq_ok_iff.mp hkeys, hgraph, hparse,
                (Value.written_eq_ok_iff.mp hname).1, Except.ok.inj h⟩
    · cases hname : name.written <;>
        simp [hname, bind, Except.bind, throw, throwThe, MonadExceptOf.throw] at h
  · rintro ⟨entries, graph, query, rfl, hkeys, hgraph, hparse, hname, rfl⟩
    have hwritten : name.written = .ok name.toText := Value.written_eq_ok_iff.mpr ⟨hname, rfl⟩
    simp only [definition, unknownKeys_eq_ok_iff.mpr hkeys, hgraph, hparse, hwritten, bind,
      Except.bind, pure, Except.pure]

/-- A query does not depend on how its name is given. -/
theorem definition_text {name v : Value} {q : SavedQuery} (h : policy.definition name v = .ok q) :
    policy.definition (.text name.toText) v = .ok q := by
  rw [definition_eq_ok_iff] at h ⊢
  obtain ⟨entries, graph, query, hv, hkeys, hgraph, hparse, -, hq⟩ := h
  exact ⟨entries, graph, query, hv, hkeys, hgraph, hparse, rfl, hq⟩

theorem exists_defines_of_definitionsFrom
    (h : policy.definitionsFrom seen definitions = .ok queries) :
    ∃ named, List.Forall₂ policy.Defines definitions named ∧ queries = putEntries named seen := by
  induction definitions generalizing seen with
  | nil => exact ⟨[], .nil, (Except.ok.inj h).symm⟩
  | cons d definitions ih =>
    obtain ⟨key, v⟩ := d
    cases hv : policy.definition key v with
    | error e =>
      rw [definitionsFrom, hv] at h
      cases h
    | ok q =>
      rw [definitionsFrom, hv] at h
      obtain ⟨named, hdefines, rfl⟩ := ih h
      exact ⟨(key.toText, q) :: named, .cons ⟨rfl, hv⟩ hdefines, rfl⟩

/-- Definitions are refused for the first of them that is. -/
theorem exists_refused_of_definitionsFrom {e : Fault}
    (h : policy.definitionsFrom seen definitions = .error e) :
    ∃ earlier d later, definitions = earlier ++ d :: later ∧
      (∀ d ∈ earlier, ∃ q, policy.definition d.1 d.2 = .ok q) ∧
      policy.definition d.1 d.2 = .error e := by
  induction definitions generalizing seen with
  | nil => cases h
  | cons d definitions ih =>
    obtain ⟨key, v⟩ := d
    cases hv : policy.definition key v with
    | error e' =>
      rw [definitionsFrom, hv] at h
      cases h
      exact ⟨[], (key, v), definitions, rfl, by simp, hv⟩
    | ok q =>
      rw [definitionsFrom, hv] at h
      obtain ⟨earlier, d, later, rfl, hearlier, hd⟩ := ih h
      exact ⟨(key, v) :: earlier, d, later, rfl, List.forall_mem_cons.mpr ⟨⟨q, hv⟩, hearlier⟩, hd⟩

theorem accepted_of_defines {named : List (String × SavedQuery)}
    (h : List.Forall₂ policy.Defines definitions named) :
    ∀ d ∈ definitions, ∃ q, policy.definition d.1 d.2 = .ok q := by
  induction h with
  | nil => simp
  | @cons _ q _ _ hd _ ih => exact List.forall_mem_cons.mpr ⟨⟨q.2, hd.2⟩, ih⟩

theorem names_of_defines {named : List (String × SavedQuery)}
    (h : List.Forall₂ policy.Defines definitions named) :
    named.map (·.1) = definitions.map (·.1.toText) := by
  induction h with
  | nil => rfl
  | cons hd _ ih => rw [List.map_cons, List.map_cons, ih, hd.1]

/-- The query of a name is that of its last definition. -/
theorem lookup?_of_defines {named : List (String × SavedQuery)} {name : String} {v : Value}
    (h : List.Forall₂ policy.Defines definitions named)
    (hv : definitionOf? name definitions = some v) :
    ∃ q, policy.definition (.text name) v = .ok q ∧ lookup? name named.reverse = some q := by
  rw [definitionOf?, ← List.map_reverse] at hv
  have hreverse := List.forall₂_reverse_iff.mpr h
  generalize definitions.reverse = ds, named.reverse = qs at hreverse hv
  induction hreverse with
  | nil => cases hv
  | @cons d q ds qs hd _ ih =>
    obtain ⟨hname, hdefinition⟩ := hd
    rw [List.map_cons, lookup?] at hv
    rw [lookup?, ← hname]
    split at hv
    · next hd =>
      cases hv
      exact ⟨q.2, hd ▸ definition_text hdefinition, if_pos hd⟩
    · next hd => simpa only [if_neg hd] using ih hv

end RequestPolicy

/-! ## Loads -/

/-- What queries are loaded from. -/
inductive Loading
  | document (text : String)
  | file (files : FileTree) (path : String)

namespace Loading

variable (policy : RequestPolicy) (l : Loading)

def run : Loading → EStateM Fault SavedQueries Nat
  | document text => addDocument policy none text
  | file files path => addFile policy files path

/-- The file that queries are loaded from. -/
def origin? : Loading → Option String
  | document _ => none
  | file _ path => some (cleanPath path)

/-- The document that queries are loaded from. -/
def text : Loading → Except Fault String
  | document text => .ok text
  | file files path => documentOf files path

/-- The value of the document. -/
def value : Except Fault Value := do
  (Yaml.read savedLevels (← l.text)).mapError Yaml.DocumentError.fault

/-- The queries of the document. -/
def queries : Except Fault (List (String × SavedQuery)) := do policy.definitions (← l.value)

/-- Why a load fails: there is no document, it holds no mapping, or a definition is refused, of
which the first counts. -/
inductive FailsWith : Fault → Prop
  | unreadable (e : Fault) : l.value = .error e → FailsWith e
  | shape (v : Value) : l.value = .ok v → (∀ definitions, v ≠ .dict definitions) →
      FailsWith (.savedShape v.typeName)
  | definition (earlier : List (Value × Value)) (d : Value × Value)
      (later : List (Value × Value)) (e : Fault) : l.value = .ok (.dict (earlier ++ d :: later)) →
      (∀ d ∈ earlier, ∃ q, policy.definition d.1 d.2 = .ok q) →
      policy.definition d.1 d.2 = .error e → FailsWith e

variable {policy l} (saved : SavedQueries)

theorem registering_run (origin : Option String) (queries : List (String × SavedQuery)) :
    (queries.forM fun (name, query) =>
        modify (·.register name query origin) : EStateM Fault SavedQueries Unit).run saved =
      .ok () (saved.registerAll (registrationsFrom origin queries)) := by
  induction queries generalizing saved with
  | nil => rfl
  | cons q queries ih => exact ih _

theorem ofExcept_run {α : Type} (outcome : Except Fault α) :
    (MonadExcept.ofExcept outcome : EStateM Fault SavedQueries α).run saved =
      match outcome with
      | .ok a => .ok a saved
      | .error e => .error e saved := by
  cases outcome <;> rfl

theorem addDocument_run (origin : Option String) (document : String) :
    (addDocument policy origin document).run saved =
      match policy.read document with
      | .ok queries => .ok queries.length (saved.registerAll (registrationsFrom origin queries))
      | .error e => .error e saved := by
  rw [addDocument, EStateM.run_bind, ofExcept_run]
  cases policy.read document with
  | error e => rfl
  | ok queries =>
    dsimp only
    rw [EStateM.run_bind, registering_run]
    rfl

/-- The queries of a load are those that its document is read as. -/
theorem queries_eq : l.queries policy = l.text.bind policy.read := by
  unfold queries value
  cases l.text with
  | error e => rfl
  | ok text =>
    change ((Yaml.read savedLevels text).mapError Yaml.DocumentError.fault).bind
      policy.definitions = policy.read text
    unfold RequestPolicy.read
    cases Yaml.read savedLevels text <;> rfl

/-- Nothing is registered before all queries have been read. -/
theorem run_eq :
    (l.run policy).run saved =
      match l.queries policy with
      | .ok queries => .ok queries.length (saved.registerAll (registrationsFrom l.origin? queries))
      | .error e => .error e saved := by
  rw [queries_eq]
  cases l with
  | document text => exact addDocument_run saved none text
  | file files path =>
    rw [run, addFile, EStateM.run_bind, ofExcept_run, text]
    cases documentOf files path with
    | error e => rfl
    | ok text => exact addDocument_run saved _ text

theorem failsWith_of_queries {e : Fault} (h : l.queries policy = .error e) :
    l.FailsWith policy e := by
  unfold queries at h
  cases hvalue : l.value with
  | error e' =>
    rw [hvalue] at h
    cases h
    exact .unreadable e hvalue
  | ok v =>
    rw [hvalue] at h
    cases v with
    | dict definitions =>
      obtain ⟨earlier, d, later, rfl, hearlier, hd⟩ :=
        RequestPolicy.exists_refused_of_definitionsFrom h
      exact .definition earlier d later e hvalue hearlier hd
    | _ => cases h; exact .shape _ hvalue (by simp)

theorem exists_definitions_of_queries {queries : List (String × SavedQuery)}
    (h : l.queries policy = .ok queries) :
    ∃ definitions, l.value = .ok (.dict definitions) ∧
      policy.definitions (.dict definitions) = .ok queries := by
  unfold Loading.queries at h
  cases hvalue : l.value with
  | error e =>
    rw [hvalue] at h
    cases h
  | ok v =>
    rw [hvalue] at h
    cases v with
    | dict definitions => exact ⟨definitions, rfl, h⟩
    | _ => cases h

end Loading

/-! ## What a load adds -/

/-- How saved queries change as those of definitions are added to them: the names that are not there
yet follow the others, and each name gets what its last definition says. -/
structure Adds (policy : RequestPolicy) (definitions : List (Value × Value))
    (saved added : SavedQueries) (count : Nat) : Prop where
  accepted : ∀ d ∈ definitions, ∃ q, policy.definition d.1 d.2 = .ok q
  count_eq : count = (definedNames definitions).length
  names_eq : added.names = saved.names ++ (definedNames definitions).filter (· ∉ saved.names)
  defined : ∀ name ∈ definedNames definitions, ∃ v q, definitionOf? name definitions = some v ∧
    policy.definition (.text name) v = .ok q ∧
    added.get name = .ok q.query ∧ added.describe name = .ok q.description
  kept : ∀ name ∉ definedNames definitions, added.get name = saved.get name ∧
    added.describe name = saved.describe name ∧ added.origin? name = saved.origin? name ∧
    added.contains name = saved.contains name

theorem adds_of_definitions {policy : RequestPolicy} {definitions : List (Value × Value)}
    {queries : List (String × SavedQuery)}
    (h : policy.definitions (.dict definitions) = .ok queries) (saved : SavedQueries)
    (origin : Option String) :
    Adds policy definitions saved (saved.registerAll (registrationsFrom origin queries))
      queries.length := by
  obtain ⟨named, hdefines, rfl⟩ := RequestPolicy.exists_defines_of_definitionsFrom h
  have hnodup : ((putEntries named []).map (·.1)).Nodup := nodup_putEntries named List.nodup_nil
  have hnames : (putEntries named []).map (·.1) = definedNames definitions := by
    rw [keys_putEntries, RequestPolicy.names_of_defines hdefines]
    simp [definedNames]
  have hregistered : (registrationsFrom origin (putEntries named [])).map (·.name) =
      definedNames definitions := by
    rw [← hnames, registrationsFrom, List.map_map]
    rfl
  have hlast := fun name => head?_registrationsOf_from hnodup name origin
  refine ⟨RequestPolicy.accepted_of_defines hdefines, ?_, ?_, fun name hname => ?_,
    fun name hname => ?_⟩
  · rw [← hnames, List.length_map]
  · rw [names_registerAll, hregistered, eraseDups_of_nodup (hnames ▸ hnodup)]
  · obtain ⟨v, hv⟩ : ∃ v, definitionOf? name definitions = some v := by
      rw [← Option.isSome_iff_exists, definitionOf?, isSome_lookup?_iff]
      simpa [definedNames] using hname
    obtain ⟨q, hq, hfound⟩ := RequestPolicy.lookup?_of_defines hdefines hv
    refine ⟨v, q, hv, hq, ?_, ?_⟩
    · rw [get_registerAll, hlast, lookup?_putEntries, hfound]
      rfl
    · rw [describe_registerAll, hlast, lookup?_putEntries, hfound]
      rfl
  · have hnone : registrationsOf name (registrationsFrom origin (putEntries named [])) = [] := by
      rw [← List.head?_eq_none_iff, hlast, lookup?_eq_none_iff.mpr (hnames ▸ hname)]
      rfl
    rw [← isOk_get, ← isOk_get, get_registerAll, describe_registerAll, origin?_registerAll, hnone]
    exact ⟨rfl, rfl, rfl, rfl⟩

end PagedQuery
