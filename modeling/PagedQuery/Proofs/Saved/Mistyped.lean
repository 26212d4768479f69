import PagedQuery.Proofs.Paging.Parameters
import PagedQuery.Proofs.Saved.Loading
import PagedQuery.Proofs.Sorting.Sort

/-!
# Mistyped definitions

The values of a definition go where the texts of a request go. A value of a type that is not
expected there, a key that is no text, or a name that cannot be told, makes the definition fail
without being refused. There is no other way.
-/

namespace PagedQuery

open PagedQuery.Number PagedQuery.Text

/-- A request, or a definition of one, is refused. -/
def Fault.Refuses (e : Fault) : Prop := e.kind = .validation ∨ e.kind = .grammar

instance (e : Fault) : Decidable e.Refuses := inferInstanceAs (Decidable (_ ∨ _))

/-! ## Filters and sorts -/

theorem kind_of_drop {α : Type} {profile : Profile} {fault e : Fault}
    (hfault : fault.kind = .grammar)
    (h : (profile.drop fault : Except Fault (Option α)) = .error e) : e.kind = .grammar := by
  cases profile with
  | lenient => cases h
  | strict => cases h; exact hfault

theorem kind_of_parseFilterPiece {profile : Profile} {piece : List Char} {e : Fault}
    (h : parseFilterPiece profile piece = .error e) : e.kind = .grammar := by
  unfold parseFilterPiece at h
  dsimp only at h
  split at h
  · exact kind_of_drop rfl h
  · split at h
    · cases h
      rfl
    · split at h
      · exact kind_of_drop rfl h
      · cases h

theorem kind_of_parseSortPiece {profile : Profile} {piece : List Char} {e : Fault}
    (h : parseSortPiece profile piece = .error e) : e.kind = .grammar := by
  unfold parseSortPiece at h
  dsimp only at h
  split at h
  · exact kind_of_drop rfl h
  · split at h
    · exact kind_of_drop rfl h
    · split at h
      · cases h
      · cases h
      · cases h
        rfl

section Expressions

variable {α : Type} {parse : List Char → Except Fault (Option α)} {e : Fault}

theorem kind_of_parsePieces (hparse : ∀ {piece e}, parse piece = .error e → e.kind = .grammar)
    {pieces : List (List Char)} (h : parsePieces parse pieces = .error e) : e.kind = .grammar := by
  induction pieces with
  | nil => cases h
  | cons piece pieces ih =>
    unfold parsePieces at h
    split at h
    · next hpiece =>
      cases h
      exact hparse hpiece
    · split at h
      · next hpieces =>
        cases h
        exact ih hpieces
      · cases h

theorem kind_of_parseExpression
    (hparse : ∀ {piece e}, parse piece = .error e → e.kind = .grammar) {expression : Option String}
    (h : parseExpression parse expression = .error e) : e.kind = .grammar := by
  unfold parseExpression at h
  split at h
  · cases h
  · split at h
    · cases h
    · exact kind_of_parsePieces hparse h

end Expressions

/-- The faults, other than a refusal, of a value in the place of an expression. -/
inductive ExpressionFault : Value → Fault → Prop
  | bytes {bs : List UInt8} : bs.all isByteBlank = false →
      ExpressionFault (.bytes bs) .expressionIsBytes
  | value {v : Value} : v.isNull = false → (∀ bs, v ≠ .bytes bs) → v.text? = none →
      ExpressionFault v (.expressionNotText v.qualifiedTypeName)

section Parameters

variable {α : Type} {parse : Option String → Except Fault (List α)} {v : Value} {e : Fault}

theorem ExpressionFault.parse_eq (h : ExpressionFault v e) :
    (ExpressionParameter.ofValue v).parse parse = .error e := by
  cases h with
  | bytes hblank => simp [ExpressionParameter.ofValue, ExpressionParameter.parse, hblank]
  | value hnull hbytes htext =>
    cases v with
    | null => cases hnull
    | text => cases htext
    | bytes bs => exact absurd rfl (hbytes bs)
    | _ => simp [ExpressionParameter.ofValue, ExpressionParameter.parse, htext]

theorem expressionFault_of_parse (hparse : ∀ {s e}, parse s = .error e → e.kind = .grammar)
    (h : (ExpressionParameter.ofValue v).parse parse = .error e) :
    e.kind = .grammar ∨ ExpressionFault v e := by
  cases v with
  | text => exact .inl (hparse h)
  | null => cases h
  | bytes bs =>
    simp only [ExpressionParameter.ofValue, ExpressionParameter.parse] at h
    split at h
    · cases h
    · next hblank =>
      cases h
      exact .inr (.bytes (by simpa using hblank))
  | _ =>
    simp only [ExpressionParameter.ofValue, ExpressionParameter.parse] at h
    split at h
    · exact .inl (hparse h)
    · next htext =>
      cases h
      exact .inr (.value rfl nofun htext)

theorem ExpressionFault.not_refuses (h : ExpressionFault v e) : ¬ e.Refuses := by
  cases h with
  | bytes => exact (by decide)
  | value => rintro (hkind | hkind) <;> cases hkind

end Parameters

/-! ## Unknown keys -/

section UnknownKeys

variable {name : Value} {keys : List Value} {e : Fault}

/-- Among texts there is no first value that is none. -/
theorem find?_noText_eq_none {vs : List Value} (h : ∀ v ∈ vs, ∃ s, v.text? = some s) :
    (vs.zipIdx.find? fun (v, _) => v.text?.isNone) = none := by
  rw [List.find?_eq_none]
  rintro ⟨v, i⟩ hv
  obtain ⟨s, hs⟩ := h v (List.fst_mem_of_mem_zipIdx hv)
  simp [hs]

theorem exists_find?_noText {vs : List Value} {v : Value} (hv : v ∈ vs) (hnoText : v.text? = none) :
    ∃ w i, (vs.zipIdx.find? fun (v, _) => v.text?.isNone) = some (w, i) := by
  obtain ⟨i, hi⟩ := List.mem_iff_getElem?.mp hv
  have hfound : (vs.zipIdx.find? fun (v, _) => v.text?.isNone).isSome := by
    rw [List.find?_isSome]
    exact ⟨(v, i), List.mk_mem_zipIdx_iff_getElem?.mpr hi, by simp [hnoText]⟩
  obtain ⟨⟨w, j⟩, hw⟩ := Option.isSome_iff_exists.mp hfound
  exact ⟨w, j, hw⟩

/-- Unknown keys that are texts are told in order. -/
theorem unknownKeys_of_texts (hname : name.unwritable? = none) (hne : keys ≠ [])
    (htexts : ∀ k ∈ keys, ∃ s, k.text? = some s) :
    ∃ sorted : List Value, sorted.Perm keys ∧
      unknownKeys name keys = .error (.definitionKeys name.toText (sorted.map (·.toText))) := by
  have hwritten : name.written = .ok name.toText := Value.written_eq_ok_iff.mpr ⟨hname, rfl⟩
  obtain ⟨k, ks, rfl⟩ := List.exists_cons_of_ne_nil hne
  cases hsort : Sorting.sort (fun k l => Value.compare .less k l) (k :: ks) with
  | error c =>
    obtain ⟨x, hx, y, hy, hxy⟩ := Sorting.sort_eq_error hsort
    obtain ⟨s, hs⟩ := htexts x hx
    obtain ⟨t, ht⟩ := htexts y hy
    have hposition : Kind.text.position? x = some s := hs
    rw [Kind.compare_eq_compareAtoms hposition, Kind.compareAtoms_text hs ht] at hxy
    cases hxy
  | ok sorted =>
    have hperm := Sorting.sort_perm hsort
    refine ⟨sorted, hperm, ?_⟩
    have hnone := find?_noText_eq_none fun l hl => htexts l (hperm.mem_iff.mp hl)
    simp only [unknownKeys, hwritten, hsort, hnone, bind, Except.bind]
    rfl

/-- An unknown key that is no text cannot be told. -/
theorem unknownKeys_of_noText (hname : name.unwritable? = none) {k : Value} (hk : k ∈ keys)
    (hnoText : k.text? = none) :
    ∃ e, unknownKeys name keys = .error e ∧ ¬ e.Refuses := by
  have hwritten : name.written = .ok name.toText := Value.written_eq_ok_iff.mpr ⟨hname, rfl⟩
  obtain ⟨l, ls, rfl⟩ := List.exists_cons_of_ne_nil (List.ne_nil_of_mem hk)
  cases hsort : Sorting.sort (fun k l => Value.compare .less k l) (l :: ls) with
  | error c =>
    refine ⟨.incomparable c, ?_, ?_⟩
    · simp only [unknownKeys, hwritten, hsort, bind, Except.bind]
      rfl
    · cases c <;> rintro (hkind | hkind) <;> cases hkind
  | ok sorted =>
    have hsorted : k ∈ sorted := (Sorting.sort_perm hsort).mem_iff.mpr hk
    obtain ⟨l, j, hfirst⟩ := exists_find?_noText hsorted hnoText
    refine ⟨.definitionKeyType j l.qualifiedTypeName, ?_, ?_⟩
    · simp only [unknownKeys, hwritten, hsort, hfirst, bind, Except.bind]
      rfl
    · rintro (hkind | hkind) <;> cases hkind

/-- Unknown keys are refused, unless one of them is no text. -/
theorem unknownKeys_cases (hname : name.unwritable? = none) (hne : keys ≠ []) :
    ∃ e, unknownKeys name keys = .error e ∧ (e.Refuses ∨ ∃ k ∈ keys, k.text? = none) := by
  by_cases hnoText : ∃ k ∈ keys, k.text? = none
  · obtain ⟨k, hk, hnone⟩ := hnoText
    obtain ⟨e, he, -⟩ := unknownKeys_of_noText hname hk hnone
    exact ⟨e, he, .inr ⟨k, hk, hnone⟩⟩
  · have htexts : ∀ k ∈ keys, ∃ s, k.text? = some s := fun k hk =>
      Option.ne_none_iff_exists'.mp fun hnone => hnoText ⟨k, hk, hnone⟩
    obtain ⟨sorted, -, he⟩ := unknownKeys_of_texts hname hne htexts
    exact ⟨_, he, .inl (.inr rfl)⟩

theorem unknownKeys_of_unwritable (hname : name.unwritable? = some e) (hne : keys ≠ []) :
    unknownKeys name keys = .error e := by
  obtain ⟨k, ks, rfl⟩ := List.exists_cons_of_ne_nil hne
  simp only [unknownKeys, Value.written, hname, bind, Except.bind]

end UnknownKeys

/-! ## Definitions -/

theorem not_refuses_of_unwritable? {v : Value} {e : Fault} (h : v.unwritable? = some e) :
    ¬ e.Refuses := by
  obtain ⟨type, field, rfl⟩ | rfl := fault_of_unwritable? h
  · rintro (hkind | hkind) <;> cases hkind
  · exact (by decide)

/-- A key is written unless its value is left out of the graph. -/
theorem unwritableKey?_cons (key : Value) (source : GraphSource)
    (rest : List (Value × GraphSource)) :
    unwritableKey? ((key, source) :: rest) = unwritableKey? rest ∨
      unwritableKey? ((key, source) :: rest) =
        (source.unwritable?.or key.unwritable?).or (unwritableKey? rest) := by
  cases source with
  | other => exact .inl (by rw [unwritableKey?])
  | missing => exact .inr (by rw [unwritableKey?]; simp)
  | mapping => exact .inr (by rw [unwritableKey?]; simp)

mutual
theorem GraphSource.not_refuses {e : Fault} : ∀ source : GraphSource,
    source.unwritable? = some e → ¬ e.Refuses
  | .missing, h => by cases h
  | .other, h => by cases h
  | .mapping entries, h => not_refuses_of_unwritableKey? entries h
/-- A key of a graph that has no text is no refusal. -/
theorem not_refuses_of_unwritableKey? {e : Fault} : ∀ entries : List (Value × GraphSource),
    unwritableKey? entries = some e → ¬ e.Refuses
  | [], h => by cases h
  | (key, source) :: rest, h => by
    obtain hcons | hcons := unwritableKey?_cons key source rest
    · exact not_refuses_of_unwritableKey? rest (hcons ▸ h)
    · rw [hcons] at h
      obtain h | ⟨-, h⟩ := Option.or_eq_some_iff.mp h
      · obtain h | ⟨-, h⟩ := Option.or_eq_some_iff.mp h
        · exact source.not_refuses h
        · exact not_refuses_of_unwritable? h
      · exact not_refuses_of_unwritableKey? rest h
end

namespace RequestPolicy

variable (policy : RequestPolicy)

/-- Whether all keys that stay in a graph have texts. -/
def HasWritableGraph (definition : List (Value × Value)) : Prop :=
  ∀ entries, definitionEntry "graph" definition = .dict entries →
    unwritableKey? (entriesOfValues entries) = none

/-- The faults, other than a refusal, of the parameters of a definition. -/
inductive ParametersFault (definition : List (Value × Value)) : Fault → Prop
  | window {e : Fault} :
      policy.WindowFault (definitionEntry "page_size" definition)
        (definitionEntry "page_number" definition) e → ParametersFault definition e
  | graph {window : Int × Int} {entries : List (Value × Value)} {e : Fault} :
      policy.pageWindow (definitionEntry "page_size" definition)
        (definitionEntry "page_number" definition) = .ok window →
      definitionEntry "graph" definition = .dict entries →
      unwritableKey? (entriesOfValues entries) = some e → ParametersFault definition e
  | filter {window : Int × Int} {e : Fault} :
      policy.pageWindow (definitionEntry "page_size" definition)
        (definitionEntry "page_number" definition) = .ok window →
      HasWritableGraph definition →
      ExpressionFault (definitionEntry "filter" definition) e → ParametersFault definition e
  | sort {window : Int × Int} {filters : List FilterClause} {e : Fault} :
      policy.pageWindow (definitionEntry "page_size" definition)
        (definitionEntry "page_number" definition) = .ok window →
      HasWritableGraph definition →
      (ExpressionParameter.ofValue (definitionEntry "filter" definition)).parse
        (parseFilter policy.profile) = .ok filters →
      ExpressionFault (definitionEntry "sort" definition) e → ParametersFault definition e

/-- The faults, other than a refusal, of a definition under a name. -/
inductive DefinitionFault (name v : Value) : Fault → Prop
  /-- The name cannot be told, in a refusal or as that of the query. -/
  | name {e : Fault} : name.unwritable? = some e →
      (∀ entries graph, v = .dict entries → strangeKeys entries = [] →
        GraphParameter.ofValue? (definitionEntry "graph" entries) = some graph →
        ∃ query, policy.parse (.ofDefinition entries graph) = .ok query) →
      DefinitionFault name v e
  /-- An unknown key is no text. -/
  | key {entries : List (Value × Value)} {k : Value} {e : Fault} : v = .dict entries →
      name.unwritable? = none → k ∈ strangeKeys entries → k.text? = none →
      unknownKeys name (strangeKeys entries) = .error e → DefinitionFault name v e
  | parameters {entries : List (Value × Value)} {graph : GraphParameter} {e : Fault} :
      v = .dict entries → strangeKeys entries = [] →
      GraphParameter.ofValue? (definitionEntry "graph" entries) = some graph →
      policy.ParametersFault entries e → DefinitionFault name v e

variable {policy} {definition : List (Value × Value)} {graph : GraphParameter} {e : Fault}

theorem ofValue?_cases {v : Value} (h : GraphParameter.ofValue? v = some graph) :
    (∃ entries, v = .dict entries ∧ graph = .mapping (entriesOfValues entries)) ∨
      (∀ entries, v ≠ .dict entries) ∧ ∃ s, graph = .expression s := by
  cases v with
  | null => exact .inr ⟨nofun, none, (Option.some.inj h).symm⟩
  | text s => exact .inr ⟨nofun, some s, (Option.some.inj h).symm⟩
  | dict entries => exact .inl ⟨entries, rfl, (Option.some.inj h).symm⟩
  | _ => cases h

/-- The graph of a definition is read if its keys have texts. -/
theorem read_of_ofValue?
    (h : GraphParameter.ofValue? (definitionEntry "graph" definition) = some graph) :
    (HasWritableGraph definition ∧ ∃ g, graph.read = .ok g) ∨
      ∃ entries e, definitionEntry "graph" definition = .dict entries ∧
        unwritableKey? (entriesOfValues entries) = some e ∧ graph.read = .error e := by
  obtain ⟨entries, hentries, rfl⟩ | ⟨hother, s, rfl⟩ := ofValue?_cases h
  · cases hkey : unwritableKey? (entriesOfValues entries) with
    | none =>
      refine .inl ⟨fun entries' h => ?_, some (buildGraph (entriesOfValues entries)), ?_⟩
      · rw [hentries] at h
        cases h
        exact hkey
      · simp only [GraphParameter.read, readMapping, hkey]
        rfl
    | some e =>
      refine .inr ⟨entries, e, hentries, hkey, ?_⟩
      simp only [GraphParameter.read, readMapping, hkey]
      rfl
  · exact .inl ⟨fun entries h => absurd h (hother entries), parseGraph s, rfl⟩

theorem windowFault_of_pageWindow {size number : Value}
    (h : policy.pageWindow size number = .error e) :
    e.Refuses ∨ policy.WindowFault size number e := by
  obtain ⟨s, n, -, -, -, -, hok⟩ | ⟨e', herror, hcases⟩ := policy.pageWindow_cases size number
  · rw [hok] at h
    cases h
  · rw [herror] at h
    cases h
    obtain hfault | hrefuses | ⟨-, -, -, hrefuses⟩ := hcases
    · exact .inr hfault
    · exact .inl (.inl hrefuses.1)
    · exact .inl (.inl hrefuses.kind_eq.1)

/-- The parameters of a definition give a query, or are refused, or have one of their faults. -/
theorem parse_cases (policy : RequestPolicy)
    (hgraph : GraphParameter.ofValue? (definitionEntry "graph" definition) = some graph) :
    (∃ query, policy.parse (.ofDefinition definition graph) = .ok query) ∨
      ∃ e, policy.parse (.ofDefinition definition graph) = .error e ∧
        (e.Refuses ∨ policy.ParametersFault definition e) := by
  simp only [parse, RequestParameters.ofDefinition]
  cases hwindow : policy.pageWindow (definitionEntry "page_size" definition)
      (definitionEntry "page_number" definition) with
  | error e => exact .inr ⟨e, rfl, (windowFault_of_pageWindow hwindow).imp_right .window⟩
  | ok window =>
    obtain ⟨hwritable, g, hread⟩ | ⟨entries, e, hentries, hkey, hread⟩ := read_of_ofValue? hgraph
    · simp only [hread, bind, Except.bind]
      cases hfilter : (ExpressionParameter.ofValue (definitionEntry "filter" definition)).parse
          (parseFilter policy.profile) with
      | error e =>
        refine .inr ⟨e, rfl, ?_⟩
        exact (expressionFault_of_parse (kind_of_parseExpression kind_of_parseFilterPiece)
          hfilter).imp .inr (.filter hwindow hwritable)
      | ok filters =>
        cases hsort : (ExpressionParameter.ofValue (definitionEntry "sort" definition)).parse
            (parseSort policy.profile) with
        | error e =>
          refine .inr ⟨e, rfl, ?_⟩
          exact (expressionFault_of_parse (kind_of_parseExpression kind_of_parseSortPiece)
            hsort).imp .inr (.sort hwindow hwritable hfilter)
        | ok sorts => exact .inl ⟨_, rfl⟩
    · simp only [hread, bind, Except.bind]
      exact .inr ⟨e, rfl, .inr (.graph hwindow hentries hkey)⟩

theorem ParametersFault.parse_eq (h : policy.ParametersFault definition e)
    (hgraph : GraphParameter.ofValue? (definitionEntry "graph" definition) = some graph) :
    policy.parse (.ofDefinition definition graph) = .error e := by
  simp only [RequestPolicy.parse, RequestParameters.ofDefinition]
  cases h with
  | window h => simp only [h.pageWindow, bind, Except.bind]
  | graph hwindow hentries hkey =>
    obtain ⟨hwritable, -⟩ | ⟨entries', e', hentries', hkey', hread⟩ := read_of_ofValue? hgraph
    · rw [hwritable _ hentries] at hkey
      cases hkey
    · rw [hentries] at hentries'
      cases hentries'
      rw [hkey] at hkey'
      cases hkey'
      simp only [hwindow, hread, bind, Except.bind]
  | filter hwindow hwritable hfilter =>
    obtain ⟨-, g, hread⟩ | ⟨entries, e', hentries, hkey, -⟩ := read_of_ofValue? hgraph
    · simp only [hwindow, hread, hfilter.parse_eq, bind, Except.bind]
    · rw [hwritable _ hentries] at hkey
      cases hkey
  | sort hwindow hwritable hfilter hsort =>
    obtain ⟨-, g, hread⟩ | ⟨entries, e', hentries, hkey, -⟩ := read_of_ofValue? hgraph
    · simp only [hwindow, hread, hfilter, hsort.parse_eq, bind, Except.bind]
    · rw [hwritable _ hentries] at hkey
      cases hkey

theorem ParametersFault.not_refuses (h : policy.ParametersFault definition e) : ¬ e.Refuses := by
  cases h with
  | window h => exact not_or.mpr h.kind_ne
  | graph _ _ hkey => exact not_refuses_of_unwritableKey? _ hkey
  | filter _ _ h => exact h.not_refuses
  | sort _ _ _ h => exact h.not_refuses

theorem definition_of_unwritable {name v : Value} (hname : name.unwritable? = some e)
    (hparse : ∀ entries graph, v = .dict entries → strangeKeys entries = [] →
      GraphParameter.ofValue? (definitionEntry "graph" entries) = some graph →
      ∃ query, policy.parse (.ofDefinition entries graph) = .ok query) :
    policy.definition name v = .error e := by
  have hwritten : name.written = .error e := by rw [Value.written, hname]
  cases v with
  | dict entries =>
    rw [RequestPolicy.definition]
    by_cases hkeys : strangeKeys entries = []
    · cases hgraph : GraphParameter.ofValue? (definitionEntry "graph" entries) with
      | none => simp only [unknownKeys_eq_ok_iff.mpr hkeys, hwritten, bind, Except.bind]
      | some graph =>
        obtain ⟨query, hquery⟩ := hparse entries graph rfl hkeys hgraph
        simp only [unknownKeys_eq_ok_iff.mpr hkeys, hquery, hwritten, bind, Except.bind]
    · simp only [unknownKeys_of_unwritable hname hkeys, bind, Except.bind]
  | _ => simp only [RequestPolicy.definition, hwritten, bind, Except.bind]

/-- Each fault of a definition does occur. -/
theorem DefinitionFault.definition_eq {name v : Value} (h : policy.DefinitionFault name v e) :
    policy.definition name v = .error e := by
  cases h with
  | name hname hparse => exact definition_of_unwritable hname hparse
  | key hv hname hk hnoText he =>
    rw [hv, RequestPolicy.definition, he]
    rfl
  | parameters hv hkeys hgraph h =>
    rw [hv, RequestPolicy.definition]
    simp only [unknownKeys_eq_ok_iff.mpr hkeys, hgraph, h.parse_eq hgraph, bind, Except.bind]

theorem DefinitionFault.not_refuses {name v : Value} (h : policy.DefinitionFault name v e) :
    ¬ e.Refuses := by
  cases h with
  | name hname => exact not_refuses_of_unwritable? hname
  | key _ hname hk hnoText he =>
    obtain ⟨e', he', hrefuses⟩ := unknownKeys_of_noText hname hk hnoText
    rw [he'] at he
    cases he
    exact hrefuses
  | parameters _ _ _ h => exact h.not_refuses

theorem definition_of_parse_eq_error {name : Value} (hkeys : strangeKeys definition = [])
    (hgraph : GraphParameter.ofValue? (definitionEntry "graph" definition) = some graph)
    (h : policy.parse (.ofDefinition definition graph) = .error e) :
    policy.definition name (.dict definition) = .error e := by
  simp only [RequestPolicy.definition, unknownKeys_eq_ok_iff.mpr hkeys, hgraph, h, bind,
    Except.bind]

theorem definition_of_other {name v : Value} (hname : name.unwritable? = none)
    (hv : ∀ entries, v ≠ .dict entries) :
    policy.definition name v = .error (.definitionShape name.toText v.typeName) := by
  have hwritten : name.written = .ok name.toText := Value.written_eq_ok_iff.mpr ⟨hname, rfl⟩
  cases v with
  | dict entries => exact absurd rfl (hv entries)
  | _ =>
    simp only [RequestPolicy.definition, hwritten, bind, Except.bind]
    rfl

/-- A mapping under a name that can be told, whose parameters do not fail, gives a query, or is
refused, or has an unknown key that is no text. -/
theorem definition_dict_cases {name : Value} (hname : name.unwritable? = none)
    (hquery : ∀ graph, strangeKeys definition = [] →
      GraphParameter.ofValue? (definitionEntry "graph" definition) = some graph →
      ∃ query, policy.parse (.ofDefinition definition graph) = .ok query) :
    (∃ q, policy.definition name (.dict definition) = .ok q) ∨
      ∃ e, policy.definition name (.dict definition) = .error e ∧
        (e.Refuses ∨ policy.DefinitionFault name (.dict definition) e) := by
  have hwritten : name.written = .ok name.toText := Value.written_eq_ok_iff.mpr ⟨hname, rfl⟩
  by_cases hkeys : strangeKeys definition = []
  · cases hgraph : GraphParameter.ofValue? (definitionEntry "graph" definition) with
    | none =>
      refine .inr ⟨.definitionGraph name.toText, ?_, .inl (.inr rfl)⟩
      simp only [RequestPolicy.definition, unknownKeys_eq_ok_iff.mpr hkeys, hgraph, hwritten, bind,
        Except.bind]
      rfl
    | some graph =>
      obtain ⟨query, hok⟩ := hquery graph hkeys hgraph
      exact .inl ⟨_, definition_eq_ok_iff.mpr
        ⟨definition, graph, query, rfl, hkeys, hgraph, hok, hname, rfl⟩⟩
  · obtain ⟨e, he, hcases⟩ := unknownKeys_cases hname hkeys
    have herror : policy.definition name (.dict definition) = .error e := by
      rw [RequestPolicy.definition, he]
      rfl
    obtain hrefuses | ⟨k, hk, hnoText⟩ := hcases
    · exact .inr ⟨e, herror, .inl hrefuses⟩
    · exact .inr ⟨e, herror, .inr (.key rfl hname hk hnoText he)⟩

/-- A definition gives a query, or is refused, or has one of its faults. -/
theorem definition_cases (policy : RequestPolicy) (name v : Value) :
    (∃ q, policy.definition name v = .ok q) ∨
      ∃ e, policy.definition name v = .error e ∧
        (e.Refuses ∨ policy.DefinitionFault name v e) := by
  by_cases hparse : ∃ entries graph e, v = .dict entries ∧ strangeKeys entries = [] ∧
      GraphParameter.ofValue? (definitionEntry "graph" entries) = some graph ∧
      policy.parse (.ofDefinition entries graph) = .error e
  · obtain ⟨entries, graph, e, rfl, hkeys, hgraph, herror⟩ := hparse
    refine .inr ⟨e, definition_of_parse_eq_error hkeys hgraph herror, ?_⟩
    obtain ⟨query, hok⟩ | ⟨e', herror', hcases⟩ := parse_cases policy hgraph
    · rw [hok] at herror
      cases herror
    · rw [herror'] at herror
      cases herror
      exact hcases.imp_right (.parameters rfl hkeys hgraph)
  · have hquery : ∀ entries graph, v = .dict entries → strangeKeys entries = [] →
        GraphParameter.ofValue? (definitionEntry "graph" entries) = some graph →
        ∃ query, policy.parse (.ofDefinition entries graph) = .ok query := by
      intro entries graph hv hkeys hgraph
      cases hresult : policy.parse (.ofDefinition entries graph) with
      | ok query => exact ⟨query, rfl⟩
      | error e => exact absurd ⟨entries, graph, e, hv, hkeys, hgraph, hresult⟩ hparse
    cases hname : name.unwritable? with
    | some e =>
      exact .inr ⟨e, definition_of_unwritable hname hquery, .inr (.name hname hquery)⟩
    | none =>
      by_cases hdict : ∃ entries, v = .dict entries
      · obtain ⟨entries, rfl⟩ := hdict
        exact definition_dict_cases hname fun graph => hquery entries graph rfl
      · exact .inr ⟨_, definition_of_other hname (not_exists.mp hdict), .inl (.inr rfl)⟩

end RequestPolicy

/-! ## Loads -/

/-- The faults, other than a refusal, of a document: those of its first definition that gives no
query. -/
def RequestPolicy.DocumentFault (policy : RequestPolicy) (v : Value) (e : Fault) : Prop :=
  ∃ earlier d later, v = .dict (earlier ++ d :: later) ∧
    (∀ d ∈ earlier, ∃ q, policy.definition d.1 d.2 = .ok q) ∧ policy.DefinitionFault d.1 d.2 e

theorem RequestPolicy.definitionsFrom_of_refused {policy : RequestPolicy} {e : Fault}
    {earlier later : List (Value × Value)} {d : Value × Value}
    (hearlier : ∀ d ∈ earlier, ∃ q, policy.definition d.1 d.2 = .ok q)
    (hd : policy.definition d.1 d.2 = .error e) (seen : List (String × SavedQuery)) :
    policy.definitionsFrom seen (earlier ++ d :: later) = .error e := by
  induction earlier generalizing seen with
  | nil =>
    rw [List.nil_append, definitionsFrom, hd]
    rfl
  | cons d' earlier ih =>
    obtain ⟨⟨q, hq⟩, hearlier⟩ := List.forall_mem_cons.mp hearlier
    rw [List.cons_append, definitionsFrom, hq]
    exact ih hearlier _

namespace Loading

variable {policy : RequestPolicy} {l : Loading} {v : Value} {e : Fault}

theorem queries_of_value (hv : l.value = .ok v) : l.queries policy = policy.definitions v := by
  rw [Loading.queries, hv]
  rfl

theorem run_of_documentFault (hv : l.value = .ok v) (h : policy.DocumentFault v e)
    (saved : SavedQueries) : (l.run policy).run saved = .error e saved := by
  obtain ⟨earlier, d, later, rfl, hearlier, hd⟩ := h
  have hresult : policy.definitions (.dict (earlier ++ d :: later)) = .error e :=
    RequestPolicy.definitionsFrom_of_refused hearlier hd.definition_eq []
  rw [Loading.run_eq, queries_of_value hv, hresult]

theorem documentFault_of_definitions (hv : l.value = .ok v)
    (h : policy.definitions v = .error e) : e.Refuses ∨ policy.DocumentFault v e := by
  cases failsWith_of_queries ((queries_of_value hv).trans h) with
  | unreadable _ hunreadable =>
    rw [hv] at hunreadable
    cases hunreadable
  | shape => exact .inl (.inr rfl)
  | definition earlier d later _ hvalue hearlier hd =>
    rw [hv] at hvalue
    cases hvalue
    obtain ⟨q, hok⟩ | ⟨e', herror, hcases⟩ := policy.definition_cases d.1 d.2
    · rw [hok] at hd
      cases hd
    · rw [herror] at hd
      cases hd
      exact hcases.imp_right fun hfault => ⟨earlier, d, later, rfl, hearlier, hfault⟩

end Loading

/-- A document with a query whose filter is a number. -/
def mistypedDocument : Loading := .document "a: {filter: 5}"

/-- Whether one query is read, whose only entry is a filter that is a number. -/
def isMistyped : Except Fault Value → Bool
  | .ok (.dict [(.text "a", .dict [(.text "filter", .int 5)])]) => true
  | _ => false

theorem eq_of_isMistyped {r : Except Fault Value} (h : isMistyped r) :
    r = .ok (.dict [(.text "a", .dict [(.text "filter", .int 5)])]) := by
  unfold isMistyped at h
  split at h
  · rfl
  · cases h

theorem value_mistypedDocument :
    mistypedDocument.value = .ok (.dict [(.text "a", .dict [(.text "filter", .int 5)])]) :=
  eq_of_isMistyped (by decide +kernel)

theorem documentFault_mistypedDocument :
    RequestPolicy.DocumentFault {} (.dict [(.text "a", .dict [(.text "filter", .int 5)])])
      (.expressionNotText "int") := by
  have hkeys : strangeKeys [(.text "filter", .int 5)] = [] := by decide
  have hfilter : sameKey (.text "filter") (.text "filter") = true := by decide
  have hother : ∀ key ∈ ["page_size", "page_number", "graph"],
      definitionEntry key [(.text "filter", .int 5)] = .null := by
    intro key hkey
    have hne : sameKey (.text key) (.text "filter") = false := by
      revert key
      decide
    rw [definitionEntry, valueAt?, hne]
    rfl
  have hgraph : GraphParameter.ofValue? (definitionEntry "graph" [(.text "filter", .int 5)]) =
      some (.expression none) := by
    rw [hother "graph" (by simp)]
    rfl
  have hwindow : RequestPolicy.pageWindow {} (definitionEntry "page_size" [(.text "filter", .int 5)])
      (definitionEntry "page_number" [(.text "filter", .int 5)]) = .ok (10, 1) := by
    rw [hother "page_size" (by simp), hother "page_number" (by simp)]
    rfl
  refine ⟨[], (.text "a", .dict [(.text "filter", .int 5)]), [], rfl, by simp, ?_⟩
  refine .parameters rfl hkeys hgraph (.filter hwindow ?_ ?_)
  · intro entries hentries
    rw [hother "graph" (by simp)] at hentries
    cases hentries
  · rw [definitionEntry, valueAt?, hfilter]
    exact .value rfl nofun rfl

end PagedQuery
