import Mathlib.Tactic
import PagedQuery.Proofs.Binding.Skipped
import PagedQuery.Proofs.Ordering.Undecided

/-!
# Filters that fail

A filter whose value does not fit its field is refused when it is bound, and one whose value cannot
be compared with what an entity holds when it is evaluated. Two other ways to fail are left: a path
may not be found out about, and a comparison with a not-a-number may be undecided. Sorts are never
refused.
-/

namespace PagedQuery

/-- The request is refused, and its filter is at fault. -/
def Fault.RefusesFilter (e : Fault) : Prop :=
  (e.kind = .validation ∨ e.kind = .conversion) ∧ e.parameter? = some "filter"

instance (e : Fault) : Decidable e.RefusesFilter := inferInstanceAs (Decidable (_ ∧ _))

/-! ## Binding -/

namespace Schema

theorem bindEach_eq_error {α β : Type} {bind : α → Except Fault (Option β)} {text : α → String}
    {as : List α} {e : Fault} (h : bindEach bind text as = .error e) :
    ∃ a ∈ as, bind a = .error e := by
  induction as with
  | nil => cases h
  | cons a as ih =>
    rw [bindEach_cons] at h
    rcases bind_eq_error_iff.mp h with ha | ⟨bound?, -, h⟩
    · exact ⟨a, List.mem_cons_self, ha⟩
    · obtain ⟨a', ha', hbind⟩ := ih (map_eq_error_iff.mp h)
      exact ⟨a', List.mem_cons_of_mem a ha', hbind⟩

variable {s : Schema} {root : FieldType}

/-- No sort is refused: binding sorts fails only where a path cannot be found out about. -/
theorem bindSorts_eq_error {cs : List SortClause} {e : Fault}
    (h : s.bindSorts root cs = .error e) :
    ∃ c ∈ cs, s.resolve .value root c.property = .error e := by
  obtain ⟨c, hc, hbind⟩ := bindEach_eq_error (map_eq_error_iff.mp h)
  exact ⟨c, hc, map_eq_error_iff.mp hbind⟩

/-- A value that does not convert is refused. -/
theorem refuses_of_convert {raw : String} {type : FieldType} {e : Fault}
    (h : s.convert raw type = .error e) : e.RefusesFilter := by
  obtain ⟨target, reason, rfl⟩ := exists_conversion_of_convert h
  exact ⟨.inr rfl, rfl⟩

/-- Once its path is found, a filter is bound or refused. -/
theorem refuses_of_bindFilterTo {c : FilterClause} {path : FieldPath} {e : Fault}
    (h : s.bindFilterTo c path = .error e) : e.RefusesFilter := by
  have hbinds := s.bindsTo c path
  rw [h] at hbinds
  cases hbinds with
  | textless => exact ⟨.inl rfl, rfl⟩
  | unordered => exact ⟨.inl rfl, rfl⟩
  | unconverted _ hv => exact refuses_of_convert hv

theorem bindFilters_eq_error {cs : List FilterClause} {e : Fault}
    (h : s.bindFilters root cs = .error e) :
    e.RefusesFilter ∨ ∃ c ∈ cs, s.resolve .value root c.property = .error e := by
  obtain ⟨c, hc, hbind⟩ := bindEach_eq_error h
  unfold bindFilter at hbind
  split at hbind
  · next e' he =>
    cases hbind
    exact .inr ⟨c, hc, he⟩
  · cases hbind
  · exact .inl (refuses_of_bindFilterTo (map_eq_error_iff.mp hbind))

/-- The clause of a bound filter is among the given ones, and its path is that of the clause. -/
theorem resolve_of_mem_bindFilters {cs : List FilterClause} {bound : List BoundFilter}
    {skipped : List String} (hbound : s.bindFilters root cs = .ok (bound, skipped))
    {b : BoundFilter} (hb : b ∈ bound) :
    b.clause ∈ cs ∧ s.resolve .value root b.clause.property = .ok (some b.path) := by
  have hok := bindFilters_ok (q := { filters := cs }) hbound
  have hmem := List.mem_map_of_mem (f := BoundFilter.clause) hb
  rw [hok.1] at hmem
  exact ⟨(List.mem_filter.mp hmem).1, (bindFilter_eq_some (hok.2.1 b hb)).2.1⟩

theorem holdsText_of_bindFilterTo {c : FilterClause} {path : FieldPath} {b : BoundFilter}
    (hop : c.operator.isPattern) (h : s.bindFilterTo c path = .ok b) :
    s.holdsText path.valueType := by
  have hbinds := s.bindsTo c path
  rw [h] at hbinds
  cases hbinds with
  | pattern _ htext => exact htext
  | deferred hno => exact (hno hop).elim
  | converted hno => exact (hno hop).elim

/-- Patterns are looked for in values that can be written. -/
theorem written_of_mem_bindFilters {cs : List FilterClause} {bound : List BoundFilter}
    {skipped : List String} (hbound : s.bindFilters root cs = .ok (bound, skipped))
    {b : BoundFilter} (hb : b ∈ bound) (hop : b.clause.operator.isPattern) {v : Value}
    (hv : s.Admits b.path.valueType v) : v.written = .ok v.toText := by
  have hok := bindFilters_ok (q := { filters := cs }) hbound
  exact written_of_admits
    (holdsText_of_bindFilterTo hop (bindFilter_eq_some (hok.2.1 b hb)).2.2) hv

/-- The clause of a bound sort is among the given ones, and its path is that of the clause. -/
theorem resolve_of_mem_bindSorts {cs : List SortClause} {bound : List BoundSort}
    {skipped : List String} (hbound : s.bindSorts root cs = .ok (bound, skipped))
    {b : BoundSort} (hb : b ∈ bound) :
    b.clause ∈ cs ∧ s.resolve .value root b.clause.property = .ok (some b.path) := by
  have hok := bindSorts_ok (q := { sorts := cs }) hbound
  have hmem := List.mem_map_of_mem (f := BoundSort.clause) hb
  rw [hok.1] at hmem
  exact ⟨(List.mem_filter.mp hmem).1, hok.2.1 b hb⟩

end Schema

/-! ## Evaluating -/

namespace BoundFilter

variable {s : Schema} {b : BoundFilter} {entity : Value} {e : Fault}

/-- The filter compares what the entity holds with a value, and the comparison is undecided. -/
def IsUndecided (s : Schema) (b : BoundFilter) (entity : Value) : Prop :=
  ∃ op expected, b.clause.operator = .compare op ∧
    b.expected s (b.path.get entity) = .ok expected ∧
    Undecided op (b.path.get entity) expected

theorem refuses_of_expected {actual : Value} (h : b.expected s actual = .error e) :
    e.RefusesFilter := by
  unfold expected at h
  split at h
  · exact Schema.refuses_of_convert h
  · cases h

/-- A comparison of an atomic value fails by a refusal, or because it is undecided. -/
theorem compare_eq_error {op : Comparison} {actual expected : Value} (ha : actual.isAtomic)
    (h : b.compare op actual expected = .error e) :
    e.RefusesFilter ∨ e = .incomparable .notANumber ∧ Undecided op actual expected := by
  unfold compare at h
  dsimp only at h
  split at h
  · cases h
  · next heq =>
    exact .inr ⟨(Except.error.inj h).symm, (compare_align_eq_notANumber_iff ha).mp heq⟩
  · cases h
    exact .inl ⟨.inl rfl, rfl⟩

theorem compare_of_undecided {op : Comparison} {actual expected : Value} (ha : actual.isAtomic)
    (h : Undecided op actual expected) :
    b.compare op actual expected = .error (.incomparable .notANumber) := by
  have heq := (compare_align_eq_notANumber_iff ha).mpr h
  unfold compare
  dsimp only
  rw [heq]

/-- Where an entity holds an atomic value, of which a pattern finds the text, evaluating the filter
fails by a refusal, or because the comparison is undecided. -/
theorem holds_eq_error (ha : (b.path.get entity).isAtomic)
    (hwritten : b.clause.operator.isPattern →
      (b.path.get entity).written = .ok (b.path.get entity).toText)
    (h : b.holds s entity = .error e) :
    e.RefusesFilter ∨ e = .incomparable .notANumber ∧ b.IsUndecided s entity := by
  unfold holds at h
  dsimp only at h
  split at h
  · cases h
  · unfold test at h
    split at h
    · next hop =>
      rw [hwritten (by rw [hop]; rfl)] at h
      cases h
    · next hop =>
      rw [hwritten (by rw [hop]; rfl)] at h
      cases h
    · next op hop =>
      cases hexpected : b.expected s (b.path.get entity) with
      | error e' =>
        rw [hexpected] at h
        cases h
        exact .inl (refuses_of_expected hexpected)
      | ok expected =>
        rw [hexpected] at h
        refine (compare_eq_error ha h).imp_right fun ⟨he, hundecided⟩ => ?_
        exact ⟨he, op, expected, hop, hexpected, hundecided⟩

theorem holds_of_isUndecided (ha : (b.path.get entity).isAtomic) (h : b.IsUndecided s entity) :
    b.holds s entity = .error (.incomparable .notANumber) := by
  obtain ⟨op, expected, hop, hexpected, hundecided⟩ := h
  have hnull : ¬ (b.path.get entity).isNull := by
    obtain ⟨m, n, hm, -⟩ := hundecided
    intro hnull
    cases hv : b.path.get entity <;> simp_all [Value.isNull, Value.number?]
  rw [holds, if_neg hnull, test, hop]
  dsimp only
  rw [hexpected]
  exact compare_of_undecided ha hundecided

end BoundFilter

section AllHold

variable {α : Type} {test : α → Except Fault Bool}

/-- Tests fail together if one of them does and those before it hold. -/
theorem allHold_eq_error_iff {as : List α} {e : Fault} :
    allHold test as = .error e ↔
      ∃ before a after, as = before ++ a :: after ∧ (∀ a' ∈ before, test a' = .ok true) ∧
        test a = .error e := by
  induction as with
  | nil => simp [allHold]
  | cons a as ih =>
    rw [allHold]
    constructor
    · intro h
      split at h
      · next ha =>
        obtain ⟨before, a', after, rfl, hbefore, ha'⟩ := ih.mp h
        exact ⟨a :: before, a', after, rfl, List.forall_mem_cons.mpr ⟨ha, hbefore⟩, ha'⟩
      · exact ⟨[], a, as, rfl, by simp, h⟩
    · rintro ⟨before, a', after, has, hbefore, ha'⟩
      cases before with
      | nil =>
        obtain ⟨rfl, rfl⟩ := List.cons.inj has
        rw [ha']
      | cons b before =>
        obtain ⟨rfl, rfl⟩ := List.cons.inj has
        rw [hbefore a List.mem_cons_self]
        exact ih.mpr ⟨before, a', after, rfl,
          fun a'' h => hbefore a'' (List.mem_cons_of_mem a h), ha'⟩

end AllHold

/-- Filters on an entity whose attributes are missing or of their declared types are refused, have
an answer, or fail in one of two ways. Binding them fails where the path of a clause cannot be found
out about. Evaluating them fails where a comparison with a not-a-number is undecided, just if that
comparison is reached. -/
theorem satisfies_answers_or_refuses (s : Schema) (root : FieldType) (clauses : List FilterClause)
    (entity : Value)
    (htyped : ∀ c ∈ clauses, ∀ path, s.resolve .value root c.property = .ok (some path) →
      s.Admits path.valueType (path.get entity)) :
    (∀ e, s.bindFilters root clauses = .error e →
      e.RefusesFilter ∨ ∃ c ∈ clauses, s.resolve .value root c.property = .error e) ∧
    ∀ bound skipped, s.bindFilters root clauses = .ok (bound, skipped) →
      (∀ e, s.satisfies bound entity = .error e →
        e.RefusesFilter ∨ e = .incomparable .notANumber) ∧
      (s.satisfies bound entity = .error (.incomparable .notANumber) ↔
        ∃ before b after, bound = before ++ b :: after ∧
          (∀ b' ∈ before, b'.holds s entity = .ok true) ∧ b.IsUndecided s entity) := by
  refine ⟨fun e h => Schema.bindFilters_eq_error h, fun bound skipped hbound => ?_⟩
  have hadmits : ∀ b ∈ bound, s.Admits b.path.valueType (b.path.get entity) := by
    intro b hb
    obtain ⟨hc, hpath⟩ := Schema.resolve_of_mem_bindFilters hbound hb
    exact htyped b.clause hc b.path hpath
  have hatomic : ∀ b ∈ bound, (b.path.get entity).isAtomic :=
    fun b hb => Schema.isAtomic_of_admits (hadmits b hb)
  have herror : ∀ b ∈ bound, ∀ e, b.holds s entity = .error e →
      e.RefusesFilter ∨ e = .incomparable .notANumber ∧ b.IsUndecided s entity := fun b hb e =>
    BoundFilter.holds_eq_error (hatomic b hb) fun hop =>
      Schema.written_of_mem_bindFilters hbound hb hop (hadmits b hb)
  have hmem : ∀ {before b after}, bound = before ++ b :: after → b ∈ bound := by
    rintro before b after rfl
    exact List.mem_append_right before List.mem_cons_self
  constructor
  · intro e h
    obtain ⟨before, b, after, hsplit, -, hb⟩ := allHold_eq_error_iff.mp h
    exact (herror b (hmem hsplit) e hb).imp_right And.left
  · rw [Schema.satisfies, allHold_eq_error_iff]
    constructor
    · rintro ⟨before, b, after, hsplit, hbefore, hb⟩
      refine ⟨before, b, after, hsplit, hbefore, ?_⟩
      rcases herror b (hmem hsplit) _ hb with hrefuses | ⟨-, h⟩
      · exact absurd hrefuses (by decide)
      · exact h
    · rintro ⟨before, b, after, hsplit, hbefore, hb⟩
      exact ⟨before, b, after, hsplit, hbefore,
        BoundFilter.holds_of_isUndecided (hatomic b (hmem hsplit)) hb⟩

/-- Books with a price. -/
def priced : Schema where
  types := [⟨"Book", [("price", .scalar .decimal)], [], .plain, []⟩]

def pricedBook : Value := .entity "Book" {} 1 [("price", .decimal (.finite false 999 (-2)))]

/-- Whether a price lies below a not-a-number. -/
def belowNotANumber : FilterClause := ⟨"Price", .compare .less, "NaN"⟩

theorem pricedBook_answers_or_refuses :
    (∀ c ∈ [belowNotANumber], ∀ path,
      priced.resolve .value (.entity "Book") c.property = .ok (some path) →
        priced.Admits path.valueType (path.get pricedBook)) ∧
      ∀ bound skipped,
        priced.bindFilters (.entity "Book") [belowNotANumber] = .ok (bound, skipped) →
          ∀ e, priced.satisfies bound pricedBook = .error e →
            e.RefusesFilter ∨ e = .incomparable .notANumber := by
  have hresolve : priced.resolve .value (.entity "Book") belowNotANumber.property =
      .ok (some ⟨.entity "Book", [⟨"price", .scalar .decimal, false, false⟩]⟩) := rfl
  have htyped : ∀ c ∈ [belowNotANumber], ∀ path,
      priced.resolve .value (.entity "Book") c.property = .ok (some path) →
        priced.Admits path.valueType (path.get pricedBook) := by
    intro c hc path hpath
    rw [List.mem_singleton.mp hc, hresolve] at hpath
    cases hpath
    decide
  exact ⟨htyped, fun bound skipped hbound =>
    ((satisfies_answers_or_refuses priced _ _ pricedBook htyped).2 bound skipped hbound).1⟩

/-- The value converts and the filter is bound, but evaluating it fails, and the request is not
refused. -/
theorem pricedBook_notANumber :
    ∃ b, priced.bindFilters (.entity "Book") [belowNotANumber] = .ok ([b], []) ∧
      priced.satisfies [b] pricedBook = .error (.incomparable .notANumber) ∧
      ¬ Fault.RefusesFilter (.incomparable .notANumber) :=
  ⟨_, rfl, rfl, by decide⟩

end PagedQuery
