import PagedQuery.Proofs.Saved.Loading

/-!
# Histories of saved queries

Over any history of registrations, loads and clearings, what is kept is what the registrations
since the last clearing give, those of loads that failed left out. A load changes what its
definitions name or nothing. The file that is kept for a name need not be that of its query.
-/

namespace PagedQuery

/-- A step on saved queries. -/
inductive SavedStep
  | register (r : Registration)
  | load (l : Loading)
  | clear

namespace SavedQueries

variable (policy : RequestPolicy)

/-- The saved queries after a step, also after a load that fails. -/
def step (saved : SavedQueries) : SavedStep → SavedQueries
  | .register r => saved.register r.name r.query r.origin
  | .load l =>
    match (l.run policy).run saved with
    | .ok _ added | .error _ added => added
  | .clear => {}

/-- The saved queries after a history that begins with none. -/
def after (steps : List SavedStep) : SavedQueries := steps.foldl (·.step policy ·) {}

/-- The registrations of a load, none if it fails. -/
def loaded (l : Loading) : List Registration :=
  match l.queries policy with
  | .ok queries => registrationsFrom l.origin? queries
  | .error _ => []

/-- The registrations since the last clearing, after a step. -/
def registeredBy (registrations : List Registration) : SavedStep → List Registration
  | .register r => registrations ++ [r]
  | .load l => registrations ++ loaded policy l
  | .clear => []

/-- The registrations in a history since its last clearing. -/
def registeredSince (steps : List SavedStep) : List Registration :=
  steps.foldl (registeredBy policy) []

/-- The registrations of a name since the last clearing, the last one first. -/
def historyOf (steps : List SavedStep) (name : String) : List Registration :=
  registrationsOf name (registeredSince policy steps)

theorem step_registerAll (registrations : List Registration) (step : SavedStep) :
    (registerAll {} registrations).step policy step =
      registerAll {} (registeredBy policy registrations step) := by
  cases step with
  | register r => exact (registerAll_append {} registrations [r]).symm
  | load l =>
    rw [SavedQueries.step, Loading.run_eq, registeredBy, registerAll_append, loaded]
    cases l.queries policy <;> rfl
  | clear => rfl

/-- What is kept is what the registrations since the last clearing give. -/
theorem after_eq_registerAll (steps : List SavedStep) :
    after policy steps = registerAll {} (registeredSince policy steps) := by
  induction steps using List.reverseRecOn with
  | nil => rfl
  | append_singleton steps step ih =>
    rw [after, registeredSince, List.foldl_append, List.foldl_append, ← after, ← registeredSince,
      ih]
    exact step_registerAll ..

theorem isAligned_after (steps : List SavedStep) : (after policy steps).IsAligned := by
  rw [after_eq_registerAll]
  exact isAligned_empty.registerAll _

end SavedQueries

open SavedQueries

/-- After any history, the queries and descriptions are those of the names that are listed, each
once. A load then fails and changes nothing, or counts the names that are defined and adds their
queries. -/
theorem load_after (policy : RequestPolicy) (steps : List SavedStep) (l : Loading) :
    (after policy steps).IsAligned ∧
    (∀ name, ((after policy steps).contains name ↔ name ∈ (after policy steps).names) ∧
      (((after policy steps).get name).isOk ↔ name ∈ (after policy steps).names) ∧
      (((after policy steps).describe name).isOk ↔ name ∈ (after policy steps).names)) ∧
    match (l.run policy).run (after policy steps) with
    | .error e kept => kept = after policy steps ∧ l.FailsWith policy e
    | .ok count added => ∃ definitions, l.value = .ok (.dict definitions) ∧
        Adds policy definitions (after policy steps) added count := by
  refine ⟨isAligned_after policy steps, fun name => ?_, ?_⟩
  · rw [isOk_get, isOk_describe, contains_iff]
    exact ⟨.rfl, .rfl, .rfl⟩
  · rw [Loading.run_eq]
    cases hqueries : l.queries policy with
    | error e => exact ⟨rfl, Loading.failsWith_of_queries hqueries⟩
    | ok queries =>
      obtain ⟨definitions, hvalue, hread⟩ := Loading.exists_definitions_of_queries hqueries
      exact ⟨definitions, hvalue, adds_of_definitions hread _ _⟩

/-- The query and the description of a name are those of its last registration since the last
clearing, and its file is that of the last of them that gives one. So it is the file of the last one
unless that gives none and an earlier one does. -/
theorem origin?_after (policy : RequestPolicy) (steps : List SavedStep) (name : String) :
    (after policy steps).origin? name =
      (historyOf policy steps name).findSome? (·.origin) ∧
    ((after policy steps).origin? name = (historyOf policy steps name).head?.bind (·.origin) ↔
      ∀ latest ∈ (historyOf policy steps name).head?, latest.origin = none →
        ∀ r ∈ historyOf policy steps name, r.origin = none) ∧
    ((after policy steps).contains name ↔ historyOf policy steps name ≠ []) ∧
    ∀ latest ∈ (historyOf policy steps name).head?,
      (after policy steps).get name = .ok latest.query.query ∧
      (after policy steps).describe name = .ok latest.query.description := by
  have horigin : (after policy steps).origin? name =
      (historyOf policy steps name).findSome? (·.origin) := by
    rw [after_eq_registerAll, origin?_registerAll]
    exact Option.or_none
  refine ⟨horigin, ?_, ?_, ?_⟩
  · rw [horigin]
    cases historyOf policy steps name with
    | nil => simp
    | cons latest earlier =>
      cases hlatest : latest.origin with
      | none => simp [hlatest]
      | some path => simp [hlatest]
  · rw [← isOk_get, after_eq_registerAll, get_registerAll, ← historyOf]
    cases historyOf policy steps name with
    | nil => exact ⟨fun h => absurd h Bool.false_ne_true, fun h => absurd rfl h⟩
    | cons latest earlier => exact ⟨fun _ => List.cons_ne_nil _ _, fun _ => rfl⟩
  · intro latest hlatest
    rw [after_eq_registerAll, get_registerAll, describe_registerAll, ← historyOf,
      Option.mem_def.mp hlatest]
    exact ⟨rfl, rfl⟩

/-- A file that defines a query. -/
def queryFile : FileTree := { files := [(["q.yaml"], "a: \x7bpage_size: 5\x7d")] }

/-- A query from a file, and one of its name from elsewhere. -/
def redefinition : List SavedStep :=
  [.load (.file queryFile "q.yaml"), .load (.document "a: \x7bpage_size: 6\x7d")]

/-- The file of a name can be that of a registration before its last one. -/
theorem redefinition_origin :
    (historyOf {} redefinition "a").head?.map (·.origin) = some none ∧
      (after {} redefinition).origin? "a" = some "q.yaml" := by
  have hshort : queryFile.isTooLong "q.yaml" = false := by decide
  have hentry : queryFile.entry? "q.yaml" = some (.file "a: \x7bpage_size: 5\x7d") := by
    decide
  have htext : (Loading.file queryFile "q.yaml").text = .ok "a: \x7bpage_size: 5\x7d" := by
    rw [Loading.text, documentOf, FileTree.look, if_neg (by decide), hshort, hentry]
    rfl
  have hfirst : (Loading.file queryFile "q.yaml").queries {} =
      RequestPolicy.read {} "a: \x7bpage_size: 5\x7d" := by
    rw [Loading.queries_eq, htext, Except.bind]
  have hsince : registeredSince {} redefinition =
      loaded {} (.file queryFile "q.yaml") ++ loaded {} (.document "a: \x7bpage_size: 6\x7d") := by
    simp only [registeredSince, redefinition, List.foldl_cons, List.foldl_nil, registeredBy,
      List.nil_append]
  rw [after_eq_registerAll, historyOf, hsince, loaded, hfirst]
  decide +kernel

end PagedQuery
