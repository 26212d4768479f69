import Mathlib.Tactic
import PagedQuery.Proofs.Ordering.Clauses
import PagedQuery.Proofs.Paging.Pages
import PagedQuery.Proofs.Sources.Memory
import PagedQuery.Source.Basic

/-!
# Walking through the pages of a query

A source in memory evaluates its filters once to count the matches and once to fetch them. If the
first page of a query is found, all pages are, and they are the pages of one list: the matches in
the order of the sorts.
-/

namespace PagedQuery

open PagedQuery.Sorting

/-- Whether a test succeeds and says yes. -/
def accepted (r : Except Fault Bool) : Bool :=
  match r with
  | .ok b => b
  | .error _ => false

theorem accepted_iff {r : Except Fault Bool} : accepted r ↔ r = .ok true := by
  cases r <;> simp [accepted]

theorem allHold_eq {α : Type} {test : α → Except Fault Bool} {as : List α} {b : Bool}
    (h : allHold test as = .ok b) : as.all (fun a => accepted (test a)) = b := by
  induction as with
  | nil => exact Except.ok.inj h
  | cons a as ih =>
    rw [allHold] at h
    rw [List.all_cons]
    split at h
    · next ht =>
      rw [ht, ih h]
      rfl
    · next hne =>
      rw [h]
      cases b with
      | true => exact (hne h).elim
      | false => rfl

namespace MemorySource

theorem keep_eq {α : Type} {test : α → Except Fault Bool} {xs ys : List α}
    (h : keep test xs = .ok ys) :
    ys = xs.filter (fun x => accepted (test x)) ∧ ∀ x ∈ xs, ∃ b, test x = .ok b := by
  induction xs generalizing ys with
  | nil =>
    cases h
    exact ⟨rfl, by simp⟩
  | cons x xs ih =>
    rw [keep] at h
    split at h
    · cases h
    · next b hb =>
      cases hk : keep test xs with
      | error e =>
        rw [hk] at h
        cases h
      | ok zs =>
        rw [hk] at h
        obtain ⟨hzs, hall⟩ := ih hk
        refine ⟨?_, ?_⟩
        · rw [← Except.ok.inj h, List.filter_cons, hb, hzs]
          rfl
        · intro y hy
          rcases List.mem_cons.mp hy with rfl | hy
          · exact ⟨b, hb⟩
          · exact hall y hy

theorem matching_eq {s : MemorySource} {xs : List Value} (h : s.matching = .ok xs) :
    xs = s.items.filter fun x => s.filters.all fun b => accepted (b.holds s.schema x) := by
  rw [matching_eq_keep] at h
  obtain ⟨hxs, hall⟩ := keep_eq h
  rw [hxs]
  refine List.filter_congr fun x hx => ?_
  obtain ⟨b, hb⟩ := hall x hx
  rw [hb, allHold_eq hb]
  rfl

/-- The source from which a plan takes its pages. -/
def prepared (s : MemorySource) (plan : Plan) : MemorySource :=
  ((s.including plan.includes).filteredBy plan.filters).orderedBy plan.sorts

theorem prepared_filters (s : MemorySource) (plan : Plan) :
    (s.prepared plan).filters = s.filters ++ plan.filters := by
  simp only [prepared, orderedBy_filters, filteredBy_filters]
  rfl

theorem prepared_sorts (s : MemorySource) (plan : Plan) :
    (s.prepared plan).sorts = s.sorts ++ plan.sorts := by
  simp only [prepared, orderedBy_sorts, filteredBy_sorts]
  rfl

theorem prepared_schema (s : MemorySource) (plan : Plan) :
    (s.prepared plan).schema = s.schema := by
  simp only [prepared, orderedBy_schema, filteredBy_schema]
  rfl

theorem prepared_items (s : MemorySource) (plan : Plan) : (s.prepared plan).items = s.items := by
  simp only [prepared, orderedBy_items, filteredBy_items]
  rfl

end MemorySource

/-- The number of the page plays no part in binding a query. -/
theorem compile_withPage (s : Schema) (root : FieldType) (q : PageQuery) (number : ℤ) :
    s.compile root (q.withPage number none) =
      (s.compile root q).map fun plan => { plan with pageNumber := number } := by
  simp only [Schema.compile, PageQuery.withPage, bind, Except.bind, pure, Except.pure]
  cases s.bindFilters root q.filters with
  | error e => rfl
  | ok filters =>
    dsimp only
    cases s.bindSorts root q.sorts with
    | error e => rfl
    | ok sorts =>
      dsimp only
      cases s.bindIncludes root q.graph with
      | error e => rfl
      | ok includes => rfl

theorem compile_pageSize {s : Schema} {root : FieldType} {q : PageQuery} {plan : Plan}
    (h : s.compile root q = .ok plan) : plan.pageSize = q.pageSize := by
  simp only [Schema.compile, bind, Except.bind, pure, Except.pure] at h
  cases hf : s.bindFilters root q.filters with
  | error e => simp [hf] at h
  | ok filters =>
    cases hs : s.bindSorts root q.sorts with
    | error e => simp [hf, hs] at h
    | ok sorts =>
      cases hi : s.bindIncludes root q.graph with
      | error e => simp [hf, hs, hi] at h
      | ok includes =>
        simp only [hf, hs, hi] at h
        rw [← Except.ok.inj h]

/-- Running a query for one of its pages, in steps. -/
theorem run_withPage {s : MemorySource} {q : PageQuery} {plan : Plan}
    (h : s.schema.compile s.root q = .ok plan) (number : ℤ) :
    (Source.memory s).run (q.withPage number none) = (do
      let matched ← (s.prepared plan).matching
      let w ← PageWindow.of number q.pageSize matched.length
      let ordered ← arrange (s.prepared plan).sorts matched
      return .ofWindow w (slice ordered w.skip (w.skip + q.pageSize))) := by
  have hp : (Source.memory s).prepare (q.withPage number none) =
      .ok (.memory (s.prepared plan), { plan with pageNumber := number }) := by
    have hc : (Source.memory s).schema.compile (Source.memory s).root (q.withPage number none) =
        .ok { plan with pageNumber := number } := by
      rw [compile_withPage]
      exact congrArg (Except.map _) h
    simp only [Source.prepare, hc]
    rfl
  simp only [Source.run, Source.runOn, hp, ← compile_pageSize h]
  simp only [Source.count, MemorySource.count, Source.fetch, MemorySource.fetch,
    MemorySource.arranged_eq, bind, Except.bind, pure, Except.pure]
  cases (s.prepared plan).matching with
  | error e => rfl
  | ok matched =>
    dsimp only
    cases PageWindow.of number plan.pageSize matched.length with
    | error e => rfl
    | ok w =>
      dsimp only
      cases arrange (s.prepared plan).sorts matched with
      | error e => rfl
      | ok ordered => rfl

theorem run_of_compile_error {source : Source} {q : PageQuery} {e : Fault}
    (hc : source.schema.compile source.root q = .error e) : source.run q = .error e := by
  simp only [Source.run, Source.runOn, Source.prepare, hc]
  rfl

theorem compile_of_run {s : MemorySource} {q : PageQuery} {p : Page Value}
    (h : (Source.memory s).run q = .ok p) : ∃ plan, s.schema.compile s.root q = .ok plan := by
  cases hc : s.schema.compile s.root q with
  | ok plan => exact ⟨plan, rfl⟩
  | error e =>
    have hrun : (Source.memory s).run q = .error e := run_of_compile_error hc
    rw [hrun] at h
    cases h

theorem size_of_window {number size total : ℤ} {w : PageWindow}
    (h : PageWindow.of number size total = .ok w) : 1 ≤ size := by
  by_contra hs
  rw [PageWindow.of, dif_pos (by omega)] at h
  cases h

/-- What a query whose first page is found is bound to, matches and orders. -/
theorem run_first {s : MemorySource} {q : PageQuery} {first : Page Value}
    (h : (Source.memory s).run (q.withPage 1 none) = .ok first) :
    ∃ plan matched ordered, s.schema.compile s.root q = .ok plan ∧
      (s.prepared plan).matching = .ok matched ∧
      arrange (s.prepared plan).sorts matched = .ok ordered ∧ 1 ≤ q.pageSize := by
  obtain ⟨plan, hplan⟩ : ∃ plan, s.schema.compile s.root q = .ok plan := by
    obtain ⟨plan, hplan⟩ := compile_of_run h
    rw [compile_withPage] at hplan
    cases hc : s.schema.compile s.root q with
    | ok plan => exact ⟨plan, rfl⟩
    | error e =>
      rw [hc] at hplan
      cases hplan
  rw [run_withPage hplan] at h
  simp only [bind, Except.bind] at h
  cases hm : (s.prepared plan).matching with
  | error e => simp [hm] at h
  | ok matched =>
    simp only [hm] at h
    cases hw : PageWindow.of 1 q.pageSize matched.length with
    | error e => simp [hw] at h
    | ok w =>
      simp only [hw] at h
      cases ho : arrange (s.prepared plan).sorts matched with
      | error e => simp [ho] at h
      | ok ordered => exact ⟨plan, matched, ordered, hplan, hm, ho, size_of_window hw⟩

/-- If the first page of a query is found, all pages are, and they are the pages of the matches in
the order of the sorts. -/
theorem run_pages (s : MemorySource) (q : PageQuery) (first : Page Value)
    (h : (Source.memory s).run (q.withPage 1 none) = .ok first) :
    ∃ plan matched ordered last page,
      s.schema.compile s.root q = .ok plan ∧
      matched = s.items.filter (fun x =>
        (s.filters ++ plan.filters).all fun b => accepted (b.holds s.schema x)) ∧
      arrange (s.sorts ++ plan.sorts) matched = .ok ordered ∧
      ordered.Perm matched ∧
      (Orders (orderBy (s.sorts ++ plan.sorts)) (· ∈ matched) →
        StablySorted (orderBy (s.sorts ++ plan.sorts)) matched ordered) ∧
      (∀ n ≥ 1, (Source.memory s).run (q.withPage n none) = paginate ordered n q.pageSize ∧
        paginate ordered n q.pageSize = .ok (page n)) ∧
      Pages ordered q.pageSize last page := by
  obtain ⟨plan, matched, ordered, hplan, hmatched, hordered, hsize⟩ := run_first h
  obtain ⟨last, page, hpage, hpages⟩ := paginate_pages ordered hsize
  have hperm := arrange_perm hordered
  have hmatching := MemorySource.matching_eq hmatched
  rw [s.prepared_filters, s.prepared_schema, s.prepared_items] at hmatching
  rw [s.prepared_sorts] at hordered
  refine ⟨plan, matched, ordered, last, page, hplan, hmatching, hordered, hperm, ?_, ?_, hpages⟩
  · intro hord
    obtain ⟨ys, hys, hstable⟩ := arrange_stablySorted hord
    rw [hys] at hordered
    rwa [← Except.ok.inj hordered]
  · intro n hn
    refine ⟨?_, hpage n hn⟩
    rw [run_withPage hplan, hmatched, s.prepared_sorts]
    simp only [bind, Except.bind, hordered, paginate, hperm.length_eq]

/-- The concerts that cost one hundred at most, in their order. -/
def concertSource : MemorySource where
  schema := {}
  root := .entity "Concert"
  items := concerts
  selections := [[⟨⟨"Price", .compare .lessOrEqual, "100"⟩,
    ⟨.entity "Concert", [⟨"price", .scalar .decimal, false, false⟩]⟩, .int 100, false⟩]]
  orderings := [concertSorts]

theorem concertSource_pages :
    ∃ first, (Source.memory concertSource).run (PageQuery.withPage { pageSize := 1 } 1 none) =
        .ok first ∧
      ∃ ordered last page, Pages ordered 1 last page ∧ ∀ n ≥ 1,
        (Source.memory concertSource).run (PageQuery.withPage { pageSize := 1 } n none) =
          .ok (page n) := by
  have hplan : concertSource.schema.compile concertSource.root { pageSize := 1 } =
      .ok ⟨.entity "Concert", [], [], [], 1, 1, []⟩ := rfl
  have hmatching : (concertSource.prepared ⟨.entity "Concert", [], [], [], 1, 1, []⟩).matching =
      .ok [concerts[0], concerts[2]] := rfl
  have hsortable : ∀ x ∈ [concerts[0], concerts[2]], Sortable concertKind concertSorts x := by
    decide
  obtain ⟨ys, hys, -⟩ := arrange_stablySorted
    (orders_of_eq fun x y hx hy => orderBy_eq_lexicographic (hsortable x hx) (hsortable y hy))
  have hfirst : ∃ first, (Source.memory concertSource).run
      (PageQuery.withPage { pageSize := 1 } 1 none) = .ok first := by
    rw [run_withPage hplan, hmatching]
    have hys' : arrange (concertSource.prepared ⟨.entity "Concert", [], [], [], 1, 1, []⟩).sorts
        [concerts[0], concerts[2]] = .ok ys := hys
    simp only [bind, Except.bind, hys']
    exact ⟨_, rfl⟩
  obtain ⟨first, hfirst⟩ := hfirst
  obtain ⟨_, _, ordered, last, page, -, -, -, -, -, hrun, hpages⟩ :=
    run_pages concertSource { pageSize := 1 } first hfirst
  exact ⟨first, hfirst, ordered, last, page, hpages, fun n hn => (hrun n hn).1.trans (hrun n hn).2⟩

end PagedQuery
