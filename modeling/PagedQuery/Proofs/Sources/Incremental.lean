import PagedQuery.Proofs.Sources.Memory
import PagedQuery.Proofs.Sources.Reading

/-!
# Sources built in several calls

Filters and sorts put on a source in several calls give what they give in two, one for all filters
and one for all sorts, in whatever way they are cut into calls and however the calls alternate.
-/

namespace PagedQuery

theorem Statement.order_append (terms later : List SortTerm) (x y : JoinedRow) :
    order (terms ++ later) x y = (order terms x y).then (order later x y) := by
  induction terms with
  | nil => rfl
  | cons t ts ih => rw [List.cons_append, order, order, ih, Ordering.then_assoc]

namespace StoredSource

open JoinTable

variable {s s' : StoredSource} {filters : List BoundFilter} {sorts : List BoundSort}

/-- No two of the selected rows are equal in the order of the statement. -/
def TellsApart (s : StoredSource) : Prop :=
  ∀ rows ∈ s.selected.toOption, rows.Pairwise fun x y =>
    Statement.order s.statement.terms x y ≠ .eq

instance (s : StoredSource) : Decidable s.TellsApart :=
  inferInstanceAs (Decidable (∀ rows ∈ s.selected.toOption, _))

theorem Tracks.pairwise_of_tellsApart (h : s.Tracks filters sorts) (hs : s.TellsApart)
    {rows : List RouteRows} (hrows : s.found = .ok rows) :
    rows.Pairwise fun x y => RouteRows.order sorts x y ≠ .eq := by
  cases hselected : s.selected with
  | error e =>
    rw [StoredSource.found, hselected] at hrows
    cases hrows
  | ok joined =>
    rw [StoredSource.found, hselected] at hrows
    cases hrows
    refine List.pairwise_map.mpr ((hs joined (by rw [hselected]; rfl)).imp fun {x y} hne => ?_)
    rwa [h.terms_eq, order_map_termOf h.isSome_of_mem_sorts] at hne

/-- Sources that ask for the same, in tables that are the same. -/
structure Alike (s s' : StoredSource) (filters : List BoundFilter) (sorts : List BoundSort) :
    Prop where
  left : s.Tracks filters sorts
  right : s'.Tracks filters sorts
  database_eq : s.database = s'.database
  table_eq : s.table = s'.table

namespace Alike

/-- Such sources find the same rows, or fail for the same reason. -/
theorem found (h : s.Alike s' filters sorts) :
    (∃ e, s.found = .error e ∧ s'.found = .error e) ∨
      ∃ xs ys, s.found = .ok xs ∧ s'.found = .ok ys ∧ xs.Perm ys := by
  rw [h.left.found_eq, h.right.found_eq, h.database_eq, h.table_eq, Database.meeting,
    Database.meeting]
  cases filters.mapM BoundFilter.operand with
  | error e => exact .inl ⟨e, rfl, rfl⟩
  | ok tests =>
    have hroutes : ∀ r, r ∈ s.joinTable.routes ↔ r ∈ s'.joinTable.routes := fun r =>
      (h.left.mem_routes r).trans (h.right.mem_routes r).symm
    exact .inr ⟨_, _, rfl, rfl,
      (Database.rowsByRoute_perm h.left.grown h.right.grown hroutes).filter _⟩

theorem count_eq (h : s.Alike s' filters sorts) : s.count = s'.count := by
  rw [count_eq_found, count_eq_found]
  rcases h.found with ⟨e, hs, hs'⟩ | ⟨xs, ys, hs, hs', hperm⟩
  · rw [hs, hs']
  · rw [hs, hs']
    exact congrArg (fun n : ℕ => Except.ok (n : ℤ)) hperm.length_eq

theorem find_eq (h : s.Alike s' filters sorts) (identifier : Value) :
    s.find identifier = s'.find identifier := by
  rw [find, find, findRow, findRow, h.database_eq, h.table_eq]

/-- Where no two rows tie, such sources find them in the same order. -/
theorem sorted_eq (h : s.Alike s' filters sorts) (hs : s'.TellsApart) :
    (s.found.map fun rows => rows.mergeSort (RouteRows.le sorts)) =
      s'.found.map fun rows => rows.mergeSort (RouteRows.le sorts) := by
  rcases h.found with ⟨e, hxs, hys⟩ | ⟨xs, ys, hxs, hys, hperm⟩
  · rw [hxs, hys]
  · rw [hxs, hys]
    exact congrArg Except.ok
      (RouteRows.mergeSort_eq_of_perm hperm (h.right.pairwise_of_tellsApart hs hys))

theorem fetch_eq (h : s.Alike s' filters sorts) (hs : s'.TellsApart) (offset limit : Int) :
    s.fetch offset limit = s'.fetch offset limit := by
  rw [fetch, fetch, h.left.fetchRows_eq, h.right.fetchRows_eq, h.sorted_eq hs, h.database_eq,
    h.table_eq]

end Alike

end StoredSource

namespace MemorySource

variable {s s' : MemorySource}

/-- Sources of the same entities with the same filters and sorts, in whatever groups. -/
structure Alike (s s' : MemorySource) : Prop where
  schema_eq : s.schema = s'.schema
  root_eq : s.root = s'.root
  items_eq : s.items = s'.items
  filters_eq : s.filters = s'.filters
  sorts_eq : s.sorts = s'.sorts

namespace Alike

theorem count_eq (h : s.Alike s') : s.count = s'.count := by
  rw [MemorySource.count_eq, MemorySource.count_eq, h.schema_eq, h.items_eq, h.filters_eq]

theorem fetch_eq (h : s.Alike s') (offset limit : Int) :
    s.fetch offset limit = s'.fetch offset limit := by
  rw [MemorySource.fetch_eq, MemorySource.fetch_eq, h.schema_eq, h.items_eq, h.filters_eq,
    h.sorts_eq]

theorem find_eq (h : s.Alike s') (identifier : Value) : s.find identifier = s'.find identifier := by
  rw [find, find, h.schema_eq, h.root_eq, h.items_eq]

end Alike

/-- Calls leave a source alike the one that they make at once. -/
theorem build_alike (s : MemorySource) (steps : List SourceStep) :
    ∃ s', (Source.memory s).build steps = .ok (.memory s') ∧
      s'.Alike ((s.filteredBy (SourceStep.allFilters steps)).orderedBy
        (SourceStep.allSorts steps)) := by
  induction steps generalizing s with
  | nil => exact ⟨s, rfl, rfl, rfl, rfl, rfl, rfl⟩
  | cons first steps ih =>
    rw [Source.build_cons]
    cases first with
    | select filters =>
      obtain ⟨s', hs', h⟩ := ih (s.filteredBy filters)
      exact ⟨s', hs', by simpa using h.schema_eq, by simpa using h.root_eq,
        by simpa using h.items_eq, by simpa using h.filters_eq, by simpa using h.sorts_eq⟩
    | order sorts =>
      obtain ⟨s', hs', h⟩ := ih (s.orderedBy sorts)
      exact ⟨s', hs', by simpa using h.schema_eq, by simpa using h.root_eq,
        by simpa using h.items_eq, by simpa using h.filters_eq, by simpa using h.sorts_eq⟩

end MemorySource

namespace Source

/-- The sources that there are: those of lists and of tables, and what calls make of them. -/
inductive Reached : Source → Prop
  | memory (s : MemorySource) : Reached (.memory s)
  | fresh (db : Database) (t : Table) : Reached (.stored { database := db, table := t })
  | step {source next : Source} {call : SourceStep} (reached : Reached source)
      (step_eq : source.step call = .ok next) : Reached next
  | including {source : Source} (reached : Reached source) (paths : List FieldPath) :
      Reached (source.including paths)

/-- Every source in tables tracks some filters and sorts. -/
theorem Reached.tracks {source : Source} (h : source.Reached) :
    ∀ s, source = .stored s → ∃ filters sorts, s.Tracks filters sorts := by
  induction h with
  | memory s => intro s hs; cases hs
  | fresh db t =>
    intro s hs
    cases hs
    exact ⟨[], [], StoredSource.tracks_fresh db t []⟩
  | @step source next call reached step_eq ih =>
    intro s hs
    subst hs
    cases source with
    | memory m => cases call <;> cases step_eq
    | stored s₀ =>
      obtain ⟨filters, sorts, htracks⟩ := ih s₀ rfl
      cases call with
      | select more =>
        rcases htracks.filteredBy more with ⟨-, herror⟩ | ⟨-, s', hok, htracks, -, -⟩
        · simp [Source.step, Source.filteredBy, herror, Except.map] at step_eq
        · simp only [Source.step, Source.filteredBy, hok, Except.map, Except.ok.injEq,
            Source.stored.injEq] at step_eq
          exact ⟨_, _, step_eq ▸ htracks⟩
      | order more =>
        cases step_eq
        exact ⟨_, _, (htracks.orderedBy more).1⟩
  | @including source reached paths ih =>
    intro s hs
    cases source with
    | memory m => cases hs
    | stored s₀ =>
      obtain ⟨filters, sorts, h⟩ := ih s₀ rfl
      cases hs
      exact ⟨filters, sorts, h.grown, h.mem_routes, h.isSome, h.criteria_eq, h.terms_eq⟩

/-- Further sorts only order what the earlier ones leave equal. -/
def BreaksTies (source : Source) (later : List BoundSort) : Prop :=
  match source with
  | memory s =>
    ∀ x y, MemorySource.orderByAll (s.orderedBy later).orderings x y =
      match MemorySource.orderByAll s.orderings x y with
      | .ok .eq => orderBy later x y
      | r => r
  | stored s =>
    ∀ x y, Statement.order (s.orderedBy later).statement.terms x y =
      (Statement.order s.statement.terms x y).then
        (Statement.order (s.joinTable.terms later).2 x y)

theorem breaksTies (source : Source) (later : List BoundSort) : source.BreaksTies later := by
  cases source with
  | memory s =>
    intro x y
    simp only [MemorySource.orderByAll_eq]
    change orderBy (s.orderedBy later).sorts x y = _
    rw [MemorySource.orderedBy_sorts, orderBy_append]
    rfl
  | stored s =>
    intro x y
    cases later with
    | nil =>
      change Statement.order s.statement.terms x y = Ordering.then _ .eq
      rw [Ordering.then_eq]
    | cons b bs =>
      change Statement.order (s.statement.terms ++ (s.joinTable.terms (b :: bs)).2) x y = _
      exact Statement.order_append _ _ x y

/-- A source with the filters of calls put on it at once, and then their sorts. -/
def atOnce (source : Source) (steps : List SourceStep) : Except Fault Source :=
  (source.filteredBy (SourceStep.allFilters steps)).map (·.orderedBy (SourceStep.allSorts steps))

/-- Sources of the same data that ask for the same. -/
inductive Alike : Source → Source → Prop
  | memory {s s' : MemorySource} (h : s.Alike s') : Alike (.memory s) (.memory s')
  | stored {s s' : StoredSource} {filters : List BoundFilter} {sorts : List BoundSort}
      (h : s.Alike s' filters sorts) : Alike (.stored s) (.stored s')

namespace Alike

variable {source source' : Source}

theorem count_eq (h : source.Alike source') : source.count = source'.count := by
  cases h with
  | memory h => exact h.count_eq
  | stored h => exact h.count_eq

theorem find_eq (h : source.Alike source') (identifier : Value) :
    source.find identifier = source'.find identifier := by
  cases h with
  | memory h => exact h.find_eq identifier
  | stored h => exact h.find_eq identifier

theorem fetch_eq (h : source.Alike source') (hs : ∀ s, source' = .stored s → s.TellsApart)
    (offset limit : Int) : source.fetch offset limit = source'.fetch offset limit := by
  cases h with
  | memory h => exact h.fetch_eq offset limit
  | stored h => exact h.fetch_eq (hs _ rfl) offset limit

end Alike

/-- Calls one after the other and all at once refuse the same filters, and else leave sources that
are alike. -/
theorem Reached.build_alike {source : Source} (h : source.Reached) (steps : List SourceStep) :
    (∃ e, source.build steps = .error e ∧ source.atOnce steps = .error e) ∨
      ∃ built built', source.build steps = .ok built ∧ source.atOnce steps = .ok built' ∧
        built.Alike built' := by
  cases source with
  | memory s =>
    obtain ⟨s', hs', halike⟩ := s.build_alike steps
    exact .inr ⟨_, _, hs', rfl, .memory halike⟩
  | stored s =>
    obtain ⟨filters, sorts, htracks⟩ := h.tracks s rfl
    rcases htracks.build steps with ⟨hall, hbuild⟩ | ⟨hall, built, hbuild, hbuilt, hdb, ht⟩
    · rcases htracks.filteredBy (SourceStep.allFilters steps) with ⟨-, herror⟩ | ⟨hall', -⟩
      · exact .inl ⟨_, hbuild, by rw [atOnce, Source.filteredBy, herror]; rfl⟩
      · rw [hall] at hall'
        cases hall'
    · rcases htracks.filteredBy (SourceStep.allFilters steps) with
        ⟨hall', -⟩ | ⟨-, filtered, hok, hfiltered, hdb', ht'⟩
      · rw [hall] at hall'
        cases hall'
      · obtain ⟨hordered, hdb'', ht''⟩ := hfiltered.orderedBy (SourceStep.allSorts steps)
        refine .inr ⟨_, _, hbuild, by rw [atOnce, Source.filteredBy, hok]; rfl, .stored
          ⟨hbuilt, hordered, ?_, ?_⟩⟩
        · rw [hdb, hdb'', hdb']
        · rw [ht, ht'', ht']

/-- Filters and sorts put on a source in any calls count, fetch and find what they do when put on it
at once; where rows tie, a source in tables may fetch them in another order. Later sorts only order
what the earlier ones leave equal. -/
theorem build_eq_atOnce {source : Source} (h : source.Reached) (steps : List SourceStep) :
    (source.build steps).bind count = (source.atOnce steps).bind count ∧
      (∀ identifier, (source.build steps).bind (find identifier) =
        (source.atOnce steps).bind (find identifier)) ∧
      ((∀ s, source.atOnce steps = .ok (.stored s) → s.TellsApart) → ∀ offset limit,
        (source.build steps).bind (fetch offset limit) =
          (source.atOnce steps).bind (fetch offset limit)) ∧
      ∀ built, source.build steps = .ok built → ∀ later, built.BreaksTies later := by
  refine ⟨?_, fun identifier => ?_, fun hties offset limit => ?_, fun built _ =>
    built.breaksTies⟩
  all_goals rcases h.build_alike steps with ⟨e, hbuild, honce⟩ | ⟨built, built', hbuild, honce, h⟩
  all_goals rw [hbuild, honce]
  · exact h.count_eq
  · exact h.find_eq identifier
  · exact h.fetch_eq (fun s hs => hties s (hs ▸ honce)) offset limit

end Source

/-! ## A shelf of books -/

def shelfAuthors : Table :=
  ⟨"Author", "id", [⟨"id", .scalar .int⟩, ⟨"born", .scalar .int⟩], [],
    [⟨1, [("id", .integer 1), ("born", .integer 1923)]⟩,
     ⟨2, [("id", .integer 2), ("born", .integer 1929)]⟩]⟩

/-- Books with an author, or without one. -/
def shelfBooks : Table :=
  ⟨"Book", "id", [⟨"id", .scalar .int⟩, ⟨"pages", .scalar .int⟩, ⟨"author_id", .scalar .int⟩],
    [⟨"author", "Author", "author_id", false⟩],
    [⟨1, [("id", .integer 1), ("pages", .integer 165), ("author_id", .integer 1)]⟩,
     ⟨2, [("id", .integer 2), ("pages", .integer 341), ("author_id", .integer 2)]⟩,
     ⟨3, [("id", .integer 3), ("pages", .integer 153), ("author_id", .integer 1)]⟩,
     ⟨4, [("id", .integer 4), ("pages", .integer 99), ("author_id", .null)]⟩]⟩

def shelf : Source :=
  .stored { database := .ofTables [] [shelfAuthors, shelfBooks], table := shelfBooks }

def pagesPath : FieldPath := ⟨.entity "Book", [⟨"pages", .scalar .int, false, false⟩]⟩

def bornPath : FieldPath :=
  ⟨.entity "Book",
    [⟨"author", .entity "Author", false, true⟩, ⟨"born", .scalar .int, false, false⟩]⟩

/-- The latest authors first, books of at least a hundred pages by authors born before 1940, and
of one author the shortest first. -/
def shelfSteps : List SourceStep :=
  [.order [⟨⟨"Author.Born", .descending⟩, bornPath, 0⟩],
   .select [⟨⟨"Pages", .compare .greaterOrEqual, "100"⟩, pagesPath, .int 100, false⟩],
   .order [⟨⟨"Pages", .ascending⟩, pagesPath, 0⟩],
   .select [⟨⟨"Author.Born", .compare .less, "1940"⟩, bornPath, .int 1940, false⟩]]

theorem shelf_build :
    (∃ s, shelf.atOnce shelfSteps = .ok (.stored s) ∧ s.TellsApart ∧ s.count = .ok 3) ∧
      (shelf.build shelfSteps).bind (Source.fetch 1 2) =
        (shelf.atOnce shelfSteps).bind (Source.fetch 1 2) := by
  obtain ⟨s, hs, hties, hcount⟩ : ∃ s, shelf.atOnce shelfSteps = .ok (.stored s) ∧
      s.TellsApart ∧ s.count = .ok 3 := by
    refine ⟨_, rfl, ?_, ?_⟩
    · decide
    · rfl
  refine ⟨⟨s, hs, hties, hcount⟩, ?_⟩
  refine (Source.build_eq_atOnce (.fresh _ _) shelfSteps).2.2.1 (fun s' hs' => ?_) 1 2
  obtain rfl := Source.stored.inj (Except.ok.inj (hs.symm.trans hs'))
  exact hties

end PagedQuery
