import Mathlib.Tactic
import PagedQuery.Proofs.Binding.Skipped
import PagedQuery.Proofs.Paging.Walk
import PagedQuery.Proofs.Related

/-!
# What several filters select

The first of several filters that an entity does not satisfy settles the matter, so that their order
decides which of them are evaluated at all, and with that whether an evaluation fails. Where none
does, the filters select what each of them selects alone: neither their order nor how often one is
given shows in a page.
-/

namespace PagedQuery

section AllHold

variable {α : Type} {test : α → Except Fault Bool} {as : List α}

theorem allHold_eq_ok_true_iff : allHold test as = .ok true ↔ ∀ a ∈ as, test a = .ok true := by
  induction as with
  | nil => simp [allHold]
  | cons a as ih =>
    rw [allHold, List.forall_mem_cons]
    split
    · next h => rw [ih, h, eq_self_iff_true, true_and]
    · next hne => exact ⟨fun h => (hne h).elim, fun h => h.1⟩

/-- Tests that hold not all together are settled by one that does not hold. -/
theorem exists_of_allHold_eq_ok_false (h : allHold test as = .ok false) :
    ∃ a ∈ as, test a = .ok false := by
  induction as with
  | nil => cases h
  | cons a as ih =>
    rw [allHold] at h
    split at h
    · obtain ⟨a', ha', hfalse⟩ := ih h
      exact ⟨a', List.mem_cons_of_mem a ha', hfalse⟩
    · exact ⟨a, List.mem_cons_self, h⟩

theorem allHold_singleton (a : α) : allHold test [a] = test a := by
  rw [allHold]
  split
  · next h => exact h.symm
  · rfl

end AllHold

/-! ## Predicates of clauses -/

namespace Schema

variable {s : Schema} {root : FieldType} {clauses : List FilterClause} {c : FilterClause}
  {entity : Value}

/-- Whether an entity satisfies the filters of clauses, once these are bound. -/
def accepts (s : Schema) (root : FieldType) (clauses : List FilterClause) (entity : Value) :
    Except Fault Bool := do
  let (bound, _) ← s.bindFilters root clauses
  s.satisfies bound entity

theorem accepts_of_bindFilters {bound : List BoundFilter} {skipped : List String}
    (h : s.bindFilters root clauses = .ok (bound, skipped)) :
    s.accepts root clauses entity = s.satisfies bound entity := by
  rw [accepts, h]
  rfl

theorem bindFilters_singleton {bound? : Option BoundFilter} (h : s.bindFilter root c = .ok bound?) :
    ∃ skipped, s.bindFilters root [c] = .ok (bound?.toList, skipped) := by
  rw [bindFilters, bindEach, h]
  cases bound? with
  | none => exact ⟨[c.text], rfl⟩
  | some b => exact ⟨[], rfl⟩

theorem accepts_singleton {b : BoundFilter} (h : s.bindFilter root c = .ok (some b)) :
    s.accepts root [c] entity = b.holds s entity := by
  obtain ⟨skipped, hbound⟩ := bindFilters_singleton h
  rw [accepts_of_bindFilters hbound]
  exact allHold_singleton b

/-- A clause whose path is not found accepts all entities. -/
theorem accepts_singleton_of_none (h : s.bindFilter root c = .ok none) :
    s.accepts root [c] entity = .ok true := by
  obtain ⟨skipped, hbound⟩ := bindFilters_singleton h
  rw [accepts_of_bindFilters hbound]
  rfl

/-- The filters bound from clauses are those bound from each of them. -/
theorem mem_iff_of_bindFilters {bound : List BoundFilter} {skipped : List String}
    (h : s.bindFilters root clauses = .ok (bound, skipped)) {b : BoundFilter} :
    b ∈ bound ↔ ∃ c ∈ clauses, s.bindFilter root c = .ok (some b) := by
  obtain ⟨rfl, -, hall⟩ := bindEach_ok h
  rw [List.mem_filterMap]
  refine exists_congr fun c => and_congr_right fun hc => ?_
  rw [hall c hc, Except.ok.injEq]

/-- Clauses that have an answer together accept an entity just if each of them does alone, and do
not accept it just if one of them does not. -/
theorem accepts_eq_ok_iff {r : Bool} (h : s.accepts root clauses entity = .ok r) :
    (r = true ↔ ∀ c ∈ clauses, s.accepts root [c] entity = .ok true) ∧
      (r = false ↔ ∃ c ∈ clauses, s.accepts root [c] entity = .ok false) := by
  obtain ⟨⟨bound, skipped⟩, hbound, hsatisfies⟩ := exists_of_bind_eq_ok h
  have htrue : r = true → ∀ c ∈ clauses, s.accepts root [c] entity = .ok true := by
    rintro rfl c hc
    have hbind := (bindEach_ok hbound).2.2 c hc
    cases hfound : found? (s.bindFilter root) c with
    | none => exact accepts_singleton_of_none (hfound ▸ hbind)
    | some b =>
      rw [hfound] at hbind
      rw [accepts_singleton hbind]
      exact allHold_eq_ok_true_iff.mp hsatisfies b
        ((mem_iff_of_bindFilters hbound).mpr ⟨c, hc, hbind⟩)
  have hfalse : r = false → ∃ c ∈ clauses, s.accepts root [c] entity = .ok false := by
    rintro rfl
    obtain ⟨b, hb, hholds⟩ := exists_of_allHold_eq_ok_false hsatisfies
    obtain ⟨c, hc, hbind⟩ := (mem_iff_of_bindFilters hbound).mp hb
    exact ⟨c, hc, (accepts_singleton hbind).trans hholds⟩
  -- No clause both accepts the entity and does not.
  have hnot : (∀ c ∈ clauses, s.accepts root [c] entity = .ok true) →
      ¬ ∃ c ∈ clauses, s.accepts root [c] entity = .ok false := by
    rintro hall ⟨c, hc, hno⟩
    rw [hall c hc] at hno
    cases hno
  cases r with
  | true => exact ⟨iff_of_true rfl (htrue rfl), iff_of_false (by simp) (hnot (htrue rfl))⟩
  | false =>
    exact ⟨iff_of_false (by simp) fun hall => hnot hall (hfalse rfl),
      iff_of_true rfl (hfalse rfl)⟩

theorem bound_of_compile {q : PageQuery} {plan : Plan} (h : s.compile root q = .ok plan) :
    ∃ skippedFilters skippedSorts,
      s.bindFilters root q.filters = .ok (plan.filters, skippedFilters) ∧
        s.bindSorts root q.sorts = .ok (plan.sorts, skippedSorts) := by
  rw [compile_eq] at h
  obtain ⟨filters, hfilters, h⟩ := exists_of_bind_eq_ok h
  obtain ⟨sorts, hsorts, h⟩ := exists_of_bind_eq_ok h
  obtain ⟨includes, -, rfl⟩ := exists_of_map_eq_ok h
  exact ⟨filters.2, sorts.2, hfilters, hsorts⟩

end Schema

/-! ## Pages -/

/-- A page that is found is one of the selected entities in the order of the sorts. -/
theorem page_of_run {s : MemorySource} {q : PageQuery} {p : Page Value}
    (h : (Source.memory s).run q = .ok p) :
    ∃ plan ordered, s.schema.compile s.root q = .ok plan ∧
      arrange (s.sorts ++ plan.sorts) (s.items.filter fun x =>
        (s.filters ++ plan.filters).all fun b => accepted (b.holds s.schema x)) = .ok ordered ∧
      paginate ordered q.pageNumber q.pageSize = .ok p := by
  obtain ⟨plan, hplan⟩ := compile_of_run h
  have hrun : (Source.memory s).run (q.withPage q.pageNumber none) = .ok p := h
  rw [run_withPage hplan] at hrun
  obtain ⟨matched, hmatched, hrun⟩ := exists_of_bind_eq_ok hrun
  obtain ⟨w, hw, hrun⟩ := exists_of_bind_eq_ok hrun
  obtain ⟨ordered, hordered, hrun⟩ := exists_of_bind_eq_ok hrun
  rw [s.prepared_sorts] at hordered
  have hselected := MemorySource.matching_eq hmatched
  rw [s.prepared_filters, s.prepared_schema, s.prepared_items] at hselected
  refine ⟨plan, ordered, hplan, hselected ▸ hordered, ?_⟩
  rw [paginate, (arrange_perm hordered).length_eq, hw]
  exact hrun

/-- A query that comes down to one filter and no sorts gives the pages of what the filter selects. -/
theorem run_singleton {s : MemorySource} {q : PageQuery} {plan : Plan} {b : BoundFilter}
    {holds : Value → Bool} (hplan : s.schema.compile s.root q = .ok plan)
    (hfilters : s.filters ++ plan.filters = [b]) (hsorts : s.sorts ++ plan.sorts = [])
    (hholds : ∀ x ∈ s.items, b.holds s.schema x = .ok (holds x)) :
    (Source.memory s).run q = paginate (s.items.filter holds) q.pageNumber q.pageSize := by
  have hmatching : (s.prepared plan).matching = .ok (s.items.filter holds) := by
    rw [MemorySource.matching_eq_keep, s.prepared_filters, s.prepared_items, s.prepared_schema,
      hfilters]
    exact MemorySource.keep_of_forall fun x hx => (allHold_singleton b).trans (hholds x hx)
  have hrun := run_withPage hplan q.pageNumber
  rw [hmatching, s.prepared_sorts, hsorts] at hrun
  exact hrun

/-- A clause whose path is found is the plan of a query with nothing else. -/
theorem Schema.compile_of_bindFilter {s : Schema} {root : FieldType} {c : FilterClause}
    {b : BoundFilter} (h : s.bindFilter root c = .ok (some b)) (number size : ℤ) :
    s.compile root { filters := [c], pageNumber := number, pageSize := size } =
      .ok { root := root, filters := [b], pageNumber := number, pageSize := size } := by
  have hfilters : s.bindFilters root [c] = .ok ([b], []) := by
    rw [bindFilters, bindEach, h]
    rfl
  rw [compile_eq, hfilters]
  rfl

/-- Whatever the order of the filters of a query and however often one is given, a page that is
found is the same one. Filters that have an answer together are satisfied just if each of them is
alone. -/
theorem run_reordered (s : MemorySource) (q : PageQuery) (clauses : List FilterClause)
    (h : ∀ c, c ∈ clauses ↔ c ∈ q.filters) :
    (∀ p p', (Source.memory s).run q = .ok p →
      (Source.memory s).run { q with filters := clauses } = .ok p' → p = p') ∧
    ∀ entity r, s.schema.accepts s.root clauses entity = .ok r →
      (r = true ↔ ∀ c ∈ clauses, s.schema.accepts s.root [c] entity = .ok true) ∧
      (r = false ↔ ∃ c ∈ clauses, s.schema.accepts s.root [c] entity = .ok false) := by
  refine ⟨fun p p' hp hp' => ?_, fun entity r => Schema.accepts_eq_ok_iff⟩
  obtain ⟨plan, ordered, hplan, hordered, hpage⟩ := page_of_run hp
  obtain ⟨plan', ordered', hplan', hordered', hpage'⟩ := page_of_run hp'
  obtain ⟨_, _, hfilters, hsorts⟩ := Schema.bound_of_compile hplan
  obtain ⟨_, _, hfilters', hsorts'⟩ := Schema.bound_of_compile hplan'
  have hmem : ∀ b, b ∈ s.filters ++ plan'.filters ↔ b ∈ s.filters ++ plan.filters := by
    intro b
    rw [List.mem_append, List.mem_append, Schema.mem_iff_of_bindFilters hfilters,
      Schema.mem_iff_of_bindFilters hfilters']
    simp only [h]
  have hsame : ∀ x, ((s.filters ++ plan'.filters).all fun b => accepted (b.holds s.schema x)) =
      (s.filters ++ plan.filters).all fun b => accepted (b.holds s.schema x) := by
    intro x
    rw [Bool.eq_iff_iff, List.all_eq_true, List.all_eq_true]
    simp only [hmem]
  have hsorted : plan'.sorts = plan.sorts := by
    have heq := hsorts'.symm.trans hsorts
    exact congrArg Prod.fst (Except.ok.inj heq)
  simp only [hsame, hsorted] at hordered'
  rw [Except.ok.inj (hordered'.symm.trans hordered)] at hpage'
  exact Except.ok.inj (hpage.symm.trans hpage')

/-- Notes of any type, of which the kind tells what they are. -/
def notes : Schema where
  types := [⟨"Note", [("kind", .scalar .text), ("content", .any)], [], .plain, []⟩]

def note (identity : ℕ) (kind : String) (content : Value) : Value :=
  .entity "Note" {} identity [("kind", .text kind), ("content", content)]

/-- The notes that count less than five things. -/
def fewThings : List FilterClause :=
  [⟨"Kind", .compare .equal, "count"⟩, ⟨"Content", .compare .less, "5"⟩]

/-- Two notes that count things. -/
def countNotes : MemorySource where
  schema := notes
  root := .entity "Note"
  items := [note 1 "count" (.int 7), note 2 "count" (.int 3)]

theorem notes_reordered :
    (∀ c, c ∈ fewThings.reverse ++ fewThings ↔ c ∈ fewThings) ∧
      ∃ p p', (Source.memory countNotes).run { filters := fewThings } = .ok p ∧
        (Source.memory countNotes).run { filters := fewThings.reverse ++ fewThings } = .ok p' ∧
        p = p' := by
  have hsame : ∀ c, c ∈ fewThings.reverse ++ fewThings ↔ c ∈ fewThings := by simp
  obtain ⟨p, hp⟩ : ∃ p, (Source.memory countNotes).run { filters := fewThings } = .ok p := ⟨_, rfl⟩
  obtain ⟨p', hp'⟩ : ∃ p', (Source.memory countNotes).run
      { filters := fewThings.reverse ++ fewThings } = .ok p' := ⟨_, rfl⟩
  have hall := run_reordered countNotes { filters := fewThings } _ hsame
  exact ⟨hsame, p, p', hp, hp', hall.1 p p' hp hp'⟩

/-- A note that is no count fails to compare with a number, unless its kind is looked at first. -/
example :
    notes.accepts (.entity "Note") fewThings (note 3 "done" (.bool true)) = .ok false ∧
      notes.accepts (.entity "Note") fewThings.reverse (note 3 "done" (.bool true)) =
        .error (.conversion "5" (.scalar .bool) .notBool) :=
  ⟨rfl, rfl⟩

end PagedQuery
