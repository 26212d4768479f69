import Mathlib.Tactic
import PagedQuery.Proofs.Binding.Refusal
import PagedQuery.Proofs.Ordering.Clash
import PagedQuery.Proofs.Paging.Walk
import PagedQuery.Proofs.Sorting.Sort

/-!
# Sorted queries

A query that only sorts runs by binding its sorts, cutting out a window and arranging all items. No
sort is refused for the type of its field, so that what has no order shows when two values are
compared, as a failure of the comparison.
-/

namespace PagedQuery

open PagedQuery.Sorting

/-! ## Comparisons that fail -/

section Comparisons

variable {s : Schema} {type : FieldType} {a b : Value}

/-- Missing values clash with none. -/
theorem Clash.not_isNull (h : Clash s type a b) : ¬ a.isNull ∧ ¬ b.isNull := by
  cases h <;> exact ⟨nofun, nofun⟩

theorem Clash.isMixed_eq_false (h : Clash s type a b) : type.isMixed = false := by
  cases h <;> rfl

theorem order_eq_error_of_clash (ha : s.Admits type a) (hb : s.Admits type b)
    (h : Clash s type a b) : ∃ e, Value.order a b = .error (.incomparable e) := by
  have ha' := ha.resolve_left h.not_isNull.1
  have hb' := hb.resolve_left h.not_isNull.2
  rcases settled_of_isInstance h.isMixed_eq_false ha' hb' with ⟨-, herror⟩ | ⟨hnot, -⟩
  · exact herror
  · exact (hnot h).elim

/-- What attributes of one type hold has an order, unless it clashes or the type is mixed. -/
theorem clash_of_order_eq_error {e : Fault} (ha : s.Admits type a) (hb : s.Admits type b)
    (h : Value.order a b = .error e) :
    (type.isMixed ∨ Clash s type a b) ∧ ∃ e', e = .incomparable e' := by
  have hnull : ¬ (a.isNull ∨ b.isNull) := by
    intro hnull
    rw [Kind.order_of_isNull hnull] at h
    cases h
  rw [not_or] at hnull
  refine ⟨?_, ?_⟩
  · cases hmixed : type.isMixed with
    | true => exact .inl rfl
    | false =>
      rcases settled_of_isInstance hmixed (ha.resolve_left hnull.1) (hb.resolve_left hnull.2)
        with ⟨hclash, -⟩ | ⟨-, o, ho⟩
      · exact .inr hclash
      · rw [ho] at h
        cases h
  · unfold Value.order at h
    split at h
    · cases h
    · dsimp only at h
      split at h <;> cases h <;> exact ⟨_, rfl⟩

end Comparisons

/-! ## Arranging -/

section Arranging

variable {sorts : List BoundSort} {x y : Value} {e : Fault}

theorem BoundSort.order_eq_error {b : BoundSort} (h : b.order x y = .error e) :
    Value.order (b.path.get x) (b.path.get y) = .error e := by
  unfold order at h
  dsimp only at h
  cases hsame : x.isSame y && (b.path.get x).isSequence with
  | true =>
    rw [hsame, if_pos rfl] at h
    cases h
  | false =>
    rw [hsame, if_neg Bool.false_ne_true] at h
    exact map_eq_error_iff.mp h

theorem orderBy_eq_error (h : orderBy sorts x y = .error e) :
    ∃ b ∈ sorts, b.order x y = .error e := by
  induction sorts with
  | nil => cases h
  | cons b later ih =>
    rw [orderBy] at h
    split at h
    · obtain ⟨b', hb', ho⟩ := ih h
      exact ⟨b', List.mem_cons_of_mem b hb', ho⟩
    · exact ⟨b, List.mem_cons_self, h⟩

/-- If arranging fails, the values of two entities under one of the sorts have no order. -/
theorem arrange_eq_error {items : List Value} (h : arrange sorts items = .error e) :
    ∃ b ∈ sorts, ∃ x ∈ items, ∃ y ∈ items,
      Value.order (b.path.get x) (b.path.get y) = .error e := by
  unfold arrange at h
  split at h
  · cases h
  · obtain ⟨x, hx, y, hy, hxy⟩ := sort_eq_error h
    obtain ⟨b, hb, hb'⟩ := orderBy_eq_error (map_eq_error_iff.mp hxy)
    exact ⟨b, hb, x, hx, y, hy, BoundSort.order_eq_error hb'⟩

/-- The first comparison of a sort is that of the second element with the first. -/
theorem sort_cons_cons_eq_error {α ε : Type} {less : α → α → Except ε Bool} {x y : α} {e : ε}
    (h : less y x = .error e) (rest : List α) : sort less (x :: y :: rest) = .error e := by
  simp [sort, addRuns, nextRun, firstRun, h, bind, Except.bind]

theorem arrange_cons_cons_eq_error {b : BoundSort} {later : List BoundSort} {items : List Value}
    (hatomic : (b.path.get y).isAtomic)
    (h : Value.order (b.path.get y) (b.path.get x) = .error e) :
    arrange (b :: later) (x :: y :: items) = .error e := by
  have horder : b.order y x = .error e := by
    unfold BoundSort.order
    dsimp only
    rw [Value.isSequence_of_isAtomic hatomic, Bool.and_false, if_neg Bool.false_ne_true, h]
    rfl
  have hby : orderBy (b :: later) y x = .error e := by
    rw [orderBy, horder]
  refine sort_cons_cons_eq_error ?_ items
  rw [hby]
  rfl

end Arranging

/-! ## Running -/

/-- One page of items in memory in the order of sort clauses. -/
def runSorted (s : Schema) (root : FieldType) (items : List Value) (clauses : List SortClause)
    (number size : ℤ) : Except Fault (Page Value) :=
  (Source.memory { schema := s, root, items }).run
    { sorts := clauses, pageNumber := number, pageSize := size }

section Running

variable {s : Schema} {root : FieldType} {items : List Value} {clauses : List SortClause}
variable {bound : List BoundSort} {skipped : List String} {number size : ℤ} {e : Fault}

theorem PageWindow.kind_of_eq_error {total : ℕ} (h : PageWindow.of number size total = .error e) :
    e.kind = .validation := by
  unfold PageWindow.of at h
  split at h
  · cases h
    rfl
  · split at h
    · cases h
      rfl
    · split at h
      · omega
      · cases h

theorem Schema.compile_sorts (s : Schema) (root : FieldType) (clauses : List SortClause)
    (number size : ℤ) :
    s.compile root { sorts := clauses, pageNumber := number, pageSize := size } =
      (s.bindSorts root clauses).map fun (bound, skipped) =>
        ⟨root, [], bound, [], size, number, skipped ++ []⟩ := by
  rw [compile_eq]
  cases s.bindSorts root clauses <;> rfl

theorem runSorted_of_bindSorts (hbound : s.bindSorts root clauses = .ok (bound, skipped)) :
    runSorted s root items clauses number size = (do
      let w ← PageWindow.of number size items.length
      let ordered ← arrange bound items
      return .ofWindow w (slice ordered w.skip (w.skip + size))) := by
  let source : MemorySource := { schema := s, root, items }
  let q : PageQuery := { sorts := clauses, pageNumber := number, pageSize := size }
  have hplan : source.schema.compile source.root q =
      .ok ⟨root, [], bound, [], size, number, skipped ++ []⟩ := by
    rw [s.compile_sorts, hbound]
    rfl
  have hmatching : (source.prepared ⟨root, [], bound, [], size, number, skipped ++ []⟩).matching =
      .ok items := by
    rw [MemorySource.matching_eq_keep, source.prepared_filters, source.prepared_items]
    have hkeep : MemorySource.keep (s.satisfies []) items = .ok (items.filter fun _ => true) :=
      MemorySource.keep_of_forall fun _ _ => rfl
    rw [List.filter_true] at hkeep
    exact hkeep
  have hrun := run_withPage hplan number
  rw [hmatching, source.prepared_sorts] at hrun
  exact hrun

theorem runSorted_of_bindSorts_eq_error (hbound : s.bindSorts root clauses = .error e) :
    runSorted s root items clauses number size = .error e := by
  have hplan : (Source.memory { schema := s, root, items }).schema.compile
      (Source.memory { schema := s, root, items }).root
      { sorts := clauses, pageNumber := number, pageSize := size } = .error e := by
    have hsorts := s.compile_sorts root clauses number size
    rwa [hbound] at hsorts
  simp only [runSorted, Source.run, Source.runOn, Source.prepare, hplan]
  rfl

/-- Running binds the sorts, cuts out the window and arranges the items. -/
theorem runSorted_eq (s : Schema) (root : FieldType) (items : List Value)
    (clauses : List SortClause) (number size : ℤ) :
    runSorted s root items clauses number size = (s.bindSorts root clauses).bind fun (bound, _) =>
      (PageWindow.of number size items.length).bind fun w => (arrange bound items).map fun ordered =>
        .ofWindow w (slice ordered w.skip (w.skip + size)) := by
  cases hbound : s.bindSorts root clauses with
  | error e => exact runSorted_of_bindSorts_eq_error hbound
  | ok found => exact runSorted_of_bindSorts hbound

/-- A page that is found is one of the items in order. -/
theorem runSorted_eq_ok {page : Page Value}
    (h : runSorted s root items clauses number size = .ok page) :
    ∃ bound skipped ordered, s.bindSorts root clauses = .ok (bound, skipped) ∧
      arrange bound items = .ok ordered ∧ paginate ordered number size = .ok page := by
  rw [runSorted_eq] at h
  obtain ⟨⟨bound, skipped⟩, hbound, h⟩ := exists_of_bind_eq_ok h
  obtain ⟨w, hwindow, h⟩ := exists_of_bind_eq_ok h
  obtain ⟨ordered, harrange, rfl⟩ := exists_of_map_eq_ok h
  refine ⟨bound, skipped, ordered, hbound, harrange, ?_⟩
  rw [paginate, (arrange_perm harrange).length_eq, hwindow]
  rfl

/-- Running fails where the sorts are bound, the window is cut out or the items are arranged. -/
theorem runSorted_eq_error (h : runSorted s root items clauses number size = .error e) :
    e.kind = .validation ∨ s.bindSorts root clauses = .error e ∨
      ∃ bound skipped, s.bindSorts root clauses = .ok (bound, skipped) ∧
        arrange bound items = .error e := by
  rw [runSorted_eq] at h
  rcases bind_eq_error_iff.mp h with hbound | ⟨⟨bound, skipped⟩, hbound, h⟩
  · exact .inr (.inl hbound)
  rcases bind_eq_error_iff.mp h with hwindow | ⟨w, -, h⟩
  · exact .inl (PageWindow.kind_of_eq_error hwindow)
  · exact .inr (.inr ⟨bound, skipped, hbound, map_eq_error_iff.mp h⟩)

/-- A sort whose first comparison fails fails. -/
theorem runSorted_cons_cons_eq_error {b : BoundSort} {later : List BoundSort} {x y : Value}
    {rest : List Value} (hbound : s.bindSorts root clauses = .ok (b :: later, skipped))
    (hnumber : 1 ≤ number) (hsize : 1 ≤ size) (hatomic : (b.path.get y).isAtomic)
    (horder : Value.order (b.path.get y) (b.path.get x) = .error e) :
    runSorted s root (x :: y :: rest) clauses number size = .error e := by
  have harrange : arrange (b :: later) (x :: y :: rest) = .error e :=
    arrange_cons_cons_eq_error hatomic horder
  rw [runSorted_of_bindSorts hbound, PageWindow.of_eq (x :: y :: rest) hsize hnumber, harrange]
  rfl

end Running

/-- Sorting entities whose attributes are missing or of their declared types gives a page of them in
order, refuses the window, or fails in one of two ways: the path of a clause cannot be found out
about, or the values of two entities at such a path have no order. It does fail if the first two
entities clash under the first sort. -/
theorem runSorted_orders_or_clashes (s : Schema) (root : FieldType) (items : List Value)
    (clauses : List SortClause) (number size : ℤ)
    (htyped : ∀ c ∈ clauses, ∀ path, s.resolve .value root c.property = .ok (some path) →
      ∀ x ∈ items, s.Admits path.valueType (path.get x)) :
    (∀ page, runSorted s root items clauses number size = .ok page →
      ∃ bound skipped ordered, s.bindSorts root clauses = .ok (bound, skipped) ∧
        arrange bound items = .ok ordered ∧ ordered.Perm items ∧
        (Orders (orderBy bound) (· ∈ items) → StablySorted (orderBy bound) items ordered) ∧
        paginate ordered number size = .ok page) ∧
    (∀ e, runSorted s root items clauses number size = .error e →
      e.kind = .validation ∨
      (∃ c ∈ clauses, s.resolve .value root c.property = .error e) ∨
      ∃ c ∈ clauses, ∃ path, s.resolve .value root c.property = .ok (some path) ∧
        ∃ x ∈ items, ∃ y ∈ items, Value.order (path.get x) (path.get y) = .error e ∧
          (path.valueType.isMixed ∨ Clash s path.valueType (path.get x) (path.get y)) ∧
          ∃ e', e = .incomparable e') ∧
    (∀ b later skipped x y rest, s.bindSorts root clauses = .ok (b :: later, skipped) →
      items = x :: y :: rest → Clash s b.path.valueType (b.path.get y) (b.path.get x) →
      1 ≤ number → 1 ≤ size →
      ∃ e, runSorted s root items clauses number size = .error (.incomparable e)) := by
  refine ⟨fun page hpage => ?_, fun e herror => ?_, ?_⟩
  · obtain ⟨bound, skipped, ordered, hbound, harrange, hpage⟩ := runSorted_eq_ok hpage
    refine ⟨bound, skipped, ordered, hbound, harrange, arrange_perm harrange, fun hord => ?_, hpage⟩
    obtain ⟨ys, hys, hstable⟩ := arrange_stablySorted hord
    rw [hys] at harrange
    rwa [← Except.ok.inj harrange]
  · refine (runSorted_eq_error herror).imp_right (Or.imp Schema.bindSorts_eq_error ?_)
    rintro ⟨bound, skipped, hbound, harrange⟩
    obtain ⟨b, hb, x, hx, y, hy, horder⟩ := arrange_eq_error harrange
    obtain ⟨hmem, hpath⟩ := Schema.resolve_of_mem_bindSorts hbound hb
    have htyped := htyped b.clause hmem b.path hpath
    exact ⟨b.clause, hmem, b.path, hpath, x, hx, y, hy, horder,
      clash_of_order_eq_error (htyped x hx) (htyped y hy) horder⟩
  · rintro b later skipped x y rest hbound rfl hclash hnumber hsize
    obtain ⟨hmem, hpath⟩ := Schema.resolve_of_mem_bindSorts hbound List.mem_cons_self
    have htyped := htyped b.clause hmem b.path hpath
    have hx := htyped x List.mem_cons_self
    have hy := htyped y (List.mem_cons_of_mem x List.mem_cons_self)
    obtain ⟨e, he⟩ := order_eq_error_of_clash hy hx hclash
    exact ⟨e, runSorted_cons_cons_eq_error hbound hnumber hsize (Schema.isAtomic_of_admits hy) he⟩

/-- Cars with a color out of two that are neither numbers nor texts. -/
def painted : Schema where
  enumerations := [⟨"Color", .plain, [("RED", .int 1), ("BLUE", .int 2)],
    [("RED", "RED"), ("BLUE", "BLUE")]⟩]
  types := [⟨"Car", [("color", .enumeration "Color")], [], .plain, []⟩]

def redCar : Value := .entity "Car" {} 1 [("color", .member "Color" .plain "RED" (.int 1))]

def blueCar : Value := .entity "Car" {} 2 [("color", .member "Color" .plain "BLUE" (.int 2))]

theorem cars_clash :
    (∀ c ∈ [(⟨"Color", .ascending⟩ : SortClause)], ∀ path,
      painted.resolve .value (.entity "Car") c.property = .ok (some path) →
        ∀ x ∈ [redCar, blueCar], painted.Admits path.valueType (path.get x)) ∧
      ∃ e, runSorted painted (.entity "Car") [redCar, blueCar] [⟨"Color", .ascending⟩] 1 10 =
        .error (.incomparable e) := by
  have hresolve : painted.resolve .value (.entity "Car") "Color" =
      .ok (some ⟨.entity "Car", [⟨"color", .enumeration "Color", false, false⟩]⟩) := rfl
  have htyped : ∀ c ∈ [(⟨"Color", .ascending⟩ : SortClause)], ∀ path,
      painted.resolve .value (.entity "Car") c.property = .ok (some path) →
        ∀ x ∈ [redCar, blueCar], painted.Admits path.valueType (path.get x) := by
    intro c hc path hpath
    rw [List.mem_singleton.mp hc, hresolve] at hpath
    cases hpath
    decide
  have hclash := (runSorted_orders_or_clashes painted (.entity "Car") [redCar, blueCar]
    [⟨"Color", .ascending⟩] 1 10 htyped).2.2
  exact ⟨htyped, hclash _ [] [] redCar blueCar [] rfl rfl (.unordered rfl) (by decide) (by decide)⟩

/-- A filter that orders by color is refused, but a sort by color is bound, and running it fails,
where the request is not refused. -/
theorem cars_byColor :
    painted.bindFilters (.entity "Car") [⟨"Color", .compare .less, "RED"⟩] =
        .error (.notOrderable "<" "Color") ∧
      runSorted painted (.entity "Car") [redCar, blueCar] [⟨"Color", .ascending⟩] 1 10 =
        .error (.incomparable (.unsupported .greater "Color" "Color")) ∧
      Fault.kind (.notOrderable "<" "Color") = .validation ∧
      Fault.kind (.incomparable (.unsupported .greater "Color" "Color")) = .badType :=
  ⟨rfl, rfl, rfl, rfl⟩

end PagedQuery
