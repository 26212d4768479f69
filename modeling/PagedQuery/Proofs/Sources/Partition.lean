import Mathlib.Tactic
import PagedQuery.Proofs.Library.Boundary
import PagedQuery.Proofs.Sources.Selected

/-!
# Comparisons share out entities

Values of a scalar type with an order compare with a value of that type by their positions, moments
with an offset and moments without one alike. So an entity whose value is there lies below the value,
at it or above it, and in one of these places only. One whose value is missing lies nowhere.
-/

namespace PagedQuery

open PagedQuery.Time

namespace Scalar

/-- The types of which any two values have an order. -/
def ordered : List Scalar := [.int, .text, .bool, .date, .span, .dateTime]

variable {k : Scalar} {raw : String} {v : Value}

theorem readSpan_eq (h : readSpan raw = .ok v) : ∃ micros, v = .span micros := by
  unfold readSpan at h
  split at h
  · cases h
    exact ⟨_, rfl⟩
  all_goals cases h

/-- What an ordered type reads is a value of it. -/
theorem type_of_read (hk : k ∈ ordered) (h : k.read raw = .ok v) : v.type = .scalar k := by
  cases k with
  | text =>
    simp only [read] at h
    cases h
    rfl
  | int =>
    simp only [read] at h
    obtain ⟨n, rfl⟩ := readInteger_eq h
    rfl
  | bool =>
    simp only [read] at h
    obtain ⟨b, rfl⟩ := readBool_eq h
    rfl
  | date =>
    simp only [read] at h
    obtain ⟨d, rfl, -⟩ := readDate_valid h
    rfl
  | dateTime =>
    simp only [read] at h
    obtain ⟨t, rfl, -⟩ := readDateTime_valid h
    rfl
  | span =>
    simp only [read] at h
    obtain ⟨micros, rfl⟩ := readSpan_eq h
    rfl
  | _ => simp [ordered] at hk

/-- The values of an ordered type are of one kind. -/
theorem exists_kind (hk : k ∈ ordered) :
    ∃ kind : Kind, ∀ v : Value, v.type = .scalar k → (kind.position? v).isSome := by
  have hnumber : ∀ n : ℤ, ((Number.Decimal.ofInt n).position?).isSome := by
    intro n
    rw [Number.Decimal.position?_ofInt]
    rfl
  cases k with
  | int =>
    refine ⟨.number, fun v hv => ?_⟩
    cases v <;> cases hv
    exact hnumber _
  | bool =>
    refine ⟨.number, fun v hv => ?_⟩
    cases v <;> cases hv
    exact hnumber _
  | text =>
    refine ⟨.text, fun v hv => ?_⟩
    cases v <;> cases hv
    rfl
  | date =>
    refine ⟨.day, fun v hv => ?_⟩
    cases v <;> cases hv
    rfl
  | span =>
    refine ⟨.span, fun v hv => ?_⟩
    cases v <;> cases hv
    rfl
  | dateTime =>
    refine ⟨.moment, fun v hv => ?_⟩
    cases v <;> cases hv
    rfl
  | _ => simp [ordered] at hk

end Scalar

/-! ## Places of values -/

/-- Of the answers to five comparisons exactly one says that a value lies below, at or above
another one, and the other two answers follow. -/
structure Partitions (answer : Comparison → Except Fault Bool) : Prop where
  answers : ∀ op, ∃ b, answer op = .ok b
  one : ∃! op, op ∈ [Comparison.less, .equal, .greater] ∧ answer op = .ok true
  lessOrEqual : answer .lessOrEqual = .ok true ↔ answer .less = .ok true ∨ answer .equal = .ok true
  greaterOrEqual :
    answer .greaterOrEqual = .ok true ↔ answer .greater = .ok true ∨ answer .equal = .ok true

/-- Of below, at and above exactly one holds of an order. -/
theorem Comparison.existsUnique_holds (order : Ordering) :
    ∃! op, op ∈ [Comparison.less, .equal, .greater] ∧ op.holds order = true := by
  have hunique : ∀ op op' : Comparison, op ∈ [Comparison.less, .equal, .greater] →
      op' ∈ [Comparison.less, .equal, .greater] → op.holds order = true →
        op'.holds order = true → op = op' := by
    intro op op'
    cases op <;> cases op' <;> cases order <;> decide
  obtain ⟨op, hop⟩ : ∃ op, op ∈ [Comparison.less, .equal, .greater] ∧ op.holds order = true := by
    cases order with
    | lt => exact ⟨.less, by decide⟩
    | eq => exact ⟨.equal, by decide⟩
    | gt => exact ⟨.greater, by decide⟩
  exact ⟨op, hop, fun op' hop' => hunique op' op hop'.1 hop.1 hop'.2 hop.2⟩

theorem partitions_of_holds {answer : Comparison → Except Fault Bool} {order : Ordering}
    (h : ∀ op, answer op = .ok (op.holds order)) : Partitions answer := by
  refine ⟨fun op => ⟨_, h op⟩, ?_, ?_, ?_⟩ <;> simp only [h, Except.ok.injEq]
  · exact Comparison.existsUnique_holds order
  · cases order <;> decide
  · cases order <;> decide

namespace Kind

variable {kind : Kind} {v w : Value}

theorem exists_order (hv : (kind.position? v).isSome) (hw : (kind.position? w).isSome) :
    ∃ order, ∀ op, kind.relates op v w = op.holds order := by
  obtain ⟨p, hp⟩ := Option.isSome_iff_exists.mp hv
  obtain ⟨q, hq⟩ := Option.isSome_iff_exists.mp hw
  exact ⟨compare p q, fun op => relates_eq hp hq⟩

/-- Below, at and above a value lie as many values together as are there at all. -/
theorem countP_relates {α : Type} {f : α → Value} (hw : (kind.position? w).isSome) (xs : List α)
    (hxs : ∀ x ∈ xs, (f x).isNull ∨ (kind.position? (f x)).isSome) :
    xs.countP (fun x => kind.relates .less (f x) w) +
        xs.countP (fun x => kind.relates .equal (f x) w) +
        xs.countP (fun x => kind.relates .greater (f x) w) =
      xs.countP fun x => !(f x).isNull := by
  induction xs with
  | nil => rfl
  | cons x xs ih =>
    rw [List.forall_mem_cons] at hxs
    have ih := ih hxs.2
    simp only [List.countP_cons]
    rcases hxs.1 with hnull | hposition
    · have hnone : (Value.null).isNull = true := rfl
      simp only [Value.isNull_iff.mp hnull, relates_null_left, hnone]
      simpa using ih
    · obtain ⟨order, horder⟩ := exists_order hposition hw
      obtain ⟨p, hp⟩ := Option.isSome_iff_exists.mp hposition
      simp only [horder, isNull_eq_false hp]
      cases order <;> simp [Comparison.holds] <;> omega

end Kind

/-! ## Filters that compare -/

/-- The clauses that compare a property with a text. -/
def comparisonClause (property raw : String) (op : Comparison) : FilterClause :=
  ⟨property, .compare op, raw⟩

/-- Nothing is found beyond fields that lead to a missing value. -/
theorem FieldPath.follow_append_eq_null {before after : List Field} {v : Value}
    (h : (FieldPath.follow before v).isNull) : FieldPath.follow (before ++ after) v = .null := by
  induction before generalizing v with
  | nil => exact follow_eq_null h
  | cons f before ih =>
    rw [Sample.follow_cons] at h
    rw [List.cons_append, Sample.follow_cons, ih h]

theorem Schema.read_of_convert_scalar {s : Schema} {raw : String} {k : Scalar} {v : Value}
    (h : s.convert raw (.scalar k) = .ok v) : k.read raw = .ok v := by
  have hread := read_of_convert (by simp) h
  rwa [Schema.read] at hread

section Comparing

variable {s : Schema} {root : FieldType} {property raw : String} {path : FieldPath} {k : Scalar}
  {kind : Kind} {w : Value}

theorem bindFilter_comparing (hpath : s.resolve .value root property = .ok (some path))
    (htype : path.valueType = .scalar k) (hw : k.read raw = .ok w) (op : Comparison) :
    s.bindFilter root (comparisonClause property raw op) =
      .ok (some ⟨comparisonClause property raw op, path, w, false⟩) := by
  have hto : s.bindFilterTo (comparisonClause property raw op) path =
      .ok ⟨comparisonClause property raw op, path, w, false⟩ := Schema.bindFilterTo_of_read htype rfl hw
  have hresolve : s.resolve .value root (comparisonClause property raw op).property = .ok (some path) :=
    hpath
  simp only [Schema.bindFilter, hresolve, hto]
  rfl

/-- An entity satisfies a comparison as the positions of the two values say. -/
theorem holds_comparing {x : Value} (hw : (kind.position? w).isSome)
    (hx : (path.get x).isNull ∨ (kind.position? (path.get x)).isSome) (op : Comparison) :
    (⟨comparisonClause property raw op, path, w, false⟩ : BoundFilter).holds s x =
      .ok (kind.relates op (path.get x) w) := by
  rcases hx with hnull | hposition
  · rw [BoundFilter.holds, Value.isNull_iff.mp hnull, Kind.relates_null_left]
    rfl
  · obtain ⟨p, hp⟩ := Option.isSome_iff_exists.mp hposition
    obtain ⟨q, hq⟩ := Option.isSome_iff_exists.mp hw
    rw [BoundFilter.holds_of_isNull_eq_false rfl rfl (Kind.isNull_eq_false hp),
      BoundFilter.compare, Kind.relates_eq hp hq]
    simp only [Kind.compare_align_eq hp hq]

/-- One page of the items that a comparison selects. -/
def runComparing (s : Schema) (root : FieldType) (items : List Value) (clause : FilterClause)
    (number size : ℤ) : Except Fault (Page Value) :=
  (Source.memory { schema := s, root, items }).run
    { filters := [clause], pageNumber := number, pageSize := size }

/-- A page of what one filter selects tells how many entities that are. -/
theorem total_of_bindFilter {c : FilterClause} {b : BoundFilter} {holds : Value → Bool}
    {items : List Value} {number size : ℤ} (hbind : s.bindFilter root c = .ok (some b))
    (hholds : ∀ x ∈ items, b.holds s x = .ok (holds x)) (hnumber : 1 ≤ number) (hsize : 1 ≤ size) :
    ∃ page, runComparing s root items c number size = .ok page ∧
      page.info.totalElements = items.countP holds := by
  let source : MemorySource := { schema := s, root, items }
  have hplan := Schema.compile_of_bindFilter hbind number size
  have hrun : runComparing s root items c number size =
      paginate (items.filter holds) number size :=
    run_singleton (s := source) hplan rfl rfl hholds
  rw [paginate_eq _ hsize hnumber] at hrun
  rw [List.countP_eq_length_filter]
  exact ⟨_, hrun, rfl⟩

/-- The comparisons of a field of an ordered type with a text that is a value of it share out the
items: each one whose value is there satisfies exactly one of below, at and above, and the other
comparisons follow. One whose value is missing, or whose path leads over something missing,
satisfies none. So the totals of the three add up to the items with a value. -/
theorem comparisons_partition {items : List Value}
    (hpath : s.resolve .value root property = .ok (some path)) (hk : k ∈ Scalar.ordered)
    (htype : path.valueType = .scalar k) (hraw : ∃ v, s.convert raw (.scalar k) = .ok v)
    (hitems : ∀ x ∈ items, (path.get x).isNull ∨ (path.get x).type = .scalar k) :
    (∀ x ∈ items, (path.get x).isNull = false →
      Partitions fun op => s.accepts root [comparisonClause property raw op] x) ∧
    (∀ x before after, path.fields = before ++ after → (FieldPath.follow before x).isNull →
      ∀ op, s.accepts root [comparisonClause property raw op] x = .ok false) ∧
    ∀ number size, 1 ≤ number → 1 ≤ size → ∃ page : Comparison → Page Value,
      (∀ op, runComparing s root items (comparisonClause property raw op) number size =
        .ok (page op)) ∧
      (page .less).info.totalElements + (page .equal).info.totalElements +
          (page .greater).info.totalElements =
        items.countP fun x => !(path.get x).isNull := by
  obtain ⟨w, hw⟩ := hraw
  have hw := Schema.read_of_convert_scalar hw
  obtain ⟨kind, hkind⟩ := Scalar.exists_kind hk
  have hposition := hkind w (Scalar.type_of_read hk hw)
  have hbind := bindFilter_comparing hpath htype hw
  have hadmits : ∀ x ∈ items, (path.get x).isNull ∨ (kind.position? (path.get x)).isSome :=
    fun x hx => (hitems x hx).imp_right (hkind _)
  refine ⟨fun x hx hthere => ?_, fun x before after hfields hnull op => ?_, ?_⟩
  · have hx := (hadmits x hx).resolve_left (by simp [hthere])
    obtain ⟨order, horder⟩ := Kind.exists_order hx hposition
    have hanswers : ∀ op, s.accepts root [comparisonClause property raw op] x =
        .ok (op.holds order) := by
      intro op
      rw [Schema.accepts_singleton (hbind op), holds_comparing hposition (.inr hx), horder]
    exact partitions_of_holds hanswers
  · have hget : path.get x = .null := by
      rw [FieldPath.get, hfields, FieldPath.follow_append_eq_null hnull]
    rw [Schema.accepts_singleton (hbind op), holds_comparing hposition (.inl (by rw [hget]; rfl)),
      hget, Kind.relates_null_left]
  · intro number size hnumber hsize
    have hpages : ∀ op, ∃ page,
        runComparing s root items (comparisonClause property raw op) number size = .ok page ∧
          page.info.totalElements = items.countP fun x => kind.relates op (path.get x) w :=
      fun op => total_of_bindFilter (hbind op)
        (fun x hx => holds_comparing hposition (hadmits x hx) op) hnumber hsize
    choose page hpage htotal using hpages
    refine ⟨page, hpage, ?_⟩
    rw [htotal, htotal, htotal, ← Kind.countP_relates hposition items hadmits]
    push_cast
    rfl

end Comparing

/-- Shows at places that open at a moment. -/
def shows : Schema where
  types := [⟨"Show", [("place", .entity "Place")], [], .plain, []⟩,
    ⟨"Place", [("opens", .scalar .dateTime)], [], .plain, []⟩]

def showAt (identity : ℕ) (place : Value) : Value := .entity "Show" {} identity [("place", place)]

/-- A place that opens on New Year's Day, at an hour by an offset of some hours or none. -/
def placeFrom (identity hour : ℕ) (offset : Option ℤ) : Value :=
  .entity "Place" {} identity
    [("opens", .dateTime ⟨⟨2024, 1, 1⟩, ⟨hour, 0, 0, 0, offset.map (· * 3600 * microsPerSecond)⟩⟩)]

/-- Ten o'clock in universal time twice, with an offset and without one, an hour before and an hour
after, no place, and a place that does not open. -/
def someShows : List Value :=
  [showAt 1 (placeFrom 7 12 (some 2)), showAt 2 (placeFrom 8 10 none),
   showAt 3 (placeFrom 9 10 (some 1)), showAt 4 (placeFrom 10 11 none), showAt 5 .null,
   showAt 6 (.entity "Place" {} 11 [("opens", .null)])]

def opensPath : FieldPath where
  root := .entity "Show"
  fields := [⟨"place", .entity "Place", false, true⟩, ⟨"opens", .scalar .dateTime, false, false⟩]

/-- The shows that open at ten o'clock in universal time, before it or after it. -/
def tenOClock (op : Comparison) : FilterClause :=
  comparisonClause "Place.Opens" "2024-01-01 05:00-05:00" op

theorem shows_partition :
    shows.resolve .value (.entity "Show") "Place.Opens" = .ok (some opensPath) ∧
      opensPath.valueType = .scalar .dateTime ∧
      (∃ v, shows.convert "2024-01-01 05:00-05:00" (.scalar .dateTime) = .ok v) ∧
      (∀ x ∈ someShows, (opensPath.get x).isNull ∨ (opensPath.get x).type = .scalar .dateTime) ∧
      (∀ x ∈ someShows, (opensPath.get x).isNull = false →
        Partitions fun op => shows.accepts (.entity "Show") [tenOClock op] x) ∧
      (∀ op, shows.accepts (.entity "Show") [tenOClock op] (showAt 5 .null) = .ok false) ∧
      ∃ page : Comparison → Page Value,
        (∀ op, runComparing shows (.entity "Show") someShows (tenOClock op) 1 1 = .ok (page op)) ∧
        (page .less).info.totalElements + (page .equal).info.totalElements +
          (page .greater).info.totalElements = 4 := by
  have hpath : shows.resolve .value (.entity "Show") "Place.Opens" = .ok (some opensPath) := rfl
  have hraw : ∃ v, shows.convert "2024-01-01 05:00-05:00" (.scalar .dateTime) = .ok v := ⟨_, rfl⟩
  have hitems : ∀ x ∈ someShows,
      (opensPath.get x).isNull ∨ (opensPath.get x).type = .scalar .dateTime := by decide
  have hall := comparisons_partition hpath (by decide) rfl hraw hitems
  exact ⟨hpath, rfl, hraw, hitems, hall.1,
    hall.2.1 (showAt 5 .null) [⟨"place", .entity "Place", false, true⟩] _ rfl rfl,
    hall.2.2 1 1 (by decide) (by decide)⟩

end PagedQuery
