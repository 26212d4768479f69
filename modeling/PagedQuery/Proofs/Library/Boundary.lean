import PagedQuery.Proofs.Library.Search

/-!
# Truth values and moments across sources

Entities and tables part in two ways when a filter compares values. Truth values have an order in
memory, while tables refuse a filter that orders them. And a moment keeps its offset in memory,
where it is compared by its instant, while tables store and compare what a clock shows, so that a
filter with an offset looks for another moment there.
-/

namespace PagedQuery

open PagedQuery.Sample PagedQuery.Time

/-! ## Readings -/

namespace Time.DateTime

/-- What a clock shows at a moment, read in universal time. -/
def shown (t : DateTime) : DateTime := ⟨t.date, { t.time with offset := none }⟩

theorem shown_valid {t : DateTime} (h : t.valid) : t.shown.valid := h

theorem shown_isUniversal (t : DateTime) : t.shown.isUniversal := rfl

theorem instant_shown (t : DateTime) : t.shown.instant = t.wallMicros := Int.sub_zero _

theorem instant_shown_of_isUniversal {t : DateTime} (h : t.isUniversal) :
    t.shown.instant = t.instant := by
  have hoffset : t.time.offset.getD 0 = 0 := beq_iff_eq.mp h
  rw [instant_shown, instant, hoffset, Int.sub_zero]

/-- Tables store what a clock shows. -/
theorem cellOf_shown (t : DateTime) : cellOf (.dateTime t.shown) = cellOf (.dateTime t) := rfl

end Time.DateTime

namespace Schema

variable {s : Schema} {c : FilterClause} {p : FieldPath} {k : Scalar} {op : Comparison}

/-- A comparison of scalars is bound to what their type reads. -/
theorem bindFilterTo_compare (hp : p.valueType = .scalar k) (hop : c.operator = .compare op) :
    s.bindFilterTo c p = ((k.read c.value).mapError fun e =>
      .conversion c.value (failureTarget (.scalar k)) e).map fun v => ⟨c, p, v, false⟩ := by
  have hconvert : s.convert c.value (.scalar k) =
      (k.read c.value).mapError fun e => .conversion c.value (failureTarget (.scalar k)) e :=
    convert_of_not_union (by simp)
  simp [bindFilterTo, hop, hp, FilterOperator.isPattern, isOrdered, FieldType.isUntyped, hconvert]

theorem bindFilterTo_of_read (hp : p.valueType = .scalar k) (hop : c.operator = .compare op)
    {v : Value} (hv : k.read c.value = .ok v) : s.bindFilterTo c p = .ok ⟨c, p, v, false⟩ := by
  rw [bindFilterTo_compare hp hop, hv]
  rfl

theorem bindFilterTo_of_read_error (hp : p.valueType = .scalar k) (hop : c.operator = .compare op)
    {e : ConversionError} (he : k.read c.value = .error e) :
    s.bindFilterTo c p = .error (.conversion c.value (failureTarget (.scalar k)) e) := by
  rw [bindFilterTo_compare hp hop, he]
  rfl

end Schema

namespace Sample

/-- Whether the value at the end of a path stands to another one as a comparison says. -/
def comparing (k : Kind) (op : Comparison) (p : FieldPath) (w v : Value) : Bool :=
  k.relates op (p.get v) w

/-- How the sources answer a search that orders truth values: both refuse a text that is none.
Otherwise entities in memory are picked by the order of truth values, and tables refuse. -/
structure OrdersTruth (books : List Value) (form : TableForm) (q : PageQuery) (c : FilterClause)
    (p : FieldPath) (op : Comparison) : Prop where
  refused : ∀ e, Scalar.readBool c.value = .error e → ∃ fault,
    (memorySource books form).run q = .error fault ∧ (storedSource books form).run q = .error fault
  memory : ∀ b, Scalar.readBool c.value = .ok (.bool b) →
    ((memorySource books form).run q).map answer =
      answerOf books form (comparing .number op p (.bool b)) (keySorts form q) q
  stored : ∀ b, Scalar.readBool c.value = .ok (.bool b) →
    (storedSource books form).run q = .error .orderedBoolean
  unalike : ∀ b, Scalar.readBool c.value = .ok (.bool b) →
    ((storedSource books form).run q).map answer ≠ ((memorySource books form).run q).map answer

/-- How the sources answer a search that compares moments: both refuse a text that is none.
Otherwise entities in memory are picked by the instant of the moment, and rows by what a clock shows
then, as long as storage takes the numbers of the page. So the answers are the same in universal
time, and on a first page for all entities exactly if both readings pick the same ones. -/
structure ComparesMoments (books : List Value) (form : TableForm) (q : PageQuery)
    (c : FilterClause) (p : FieldPath) (op : Comparison) : Prop where
  refused : ∀ e, Scalar.readDateTime c.value = .error e → ∃ fault,
    (memorySource books form).run q = .error fault ∧ (storedSource books form).run q = .error fault
  memory : ∀ t, Scalar.readDateTime c.value = .ok (.dateTime t) →
    ((memorySource books form).run q).map answer =
      answerOf books form (comparing .moment op p (.dateTime t)) (keySorts form q) q
  stored : ∀ t, Scalar.readDateTime c.value = .ok (.dateTime t) →
    ((storedSource books form).run q).map answer = withinStorage q
      (answerOf books form (comparing .moment op p (.dateTime t.shown)) (keySorts form q) q)
  alike : ∀ t, Scalar.readDateTime c.value = .ok (.dateTime t) → takesPage q → t.isUniversal →
    ((storedSource books form).run q).map answer = ((memorySource books form).run q).map answer
  alike_iff : ∀ t, Scalar.readDateTime c.value = .ok (.dateTime t) → takesPage q →
    q.pageNumber = 1 → 1 ≤ q.pageSize → (entitiesOf form.type books).length ≤ q.pageSize →
      (((storedSource books form).run q).map answer =
          ((memorySource books form).run q).map answer ↔
        ∀ v ∈ entitiesOf form.type books, comparing .moment op p (.dateTime t.shown) v =
          comparing .moment op p (.dateTime t) v)
  /-- Away from universal time no entity is found by equality in both. -/
  apart : ∀ t : DateTime, op = .equal → t.isUniversal = false → ∀ v,
    ¬ (comparing .moment op p (.dateTime t.shown) v ∧ comparing .moment op p (.dateTime t) v)

section

variable {books : List Value} {form : TableForm} {q : PageQuery} {c : FilterClause}
  {p : FieldPath} {op : Comparison} {k : Scalar}

/-- In universal time a clock shows the instant. -/
theorem comparing_shown {t : DateTime} (h : t.isUniversal) (op : Comparison) (p : FieldPath)
    (v : Value) :
    comparing .moment op p (.dateTime t.shown) v = comparing .moment op p (.dateTime t) v := by
  have hposition : Kind.moment.position? (.dateTime t.shown) =
      Kind.moment.position? (.dateTime t) :=
    congrArg some (DateTime.instant_shown_of_isUniversal h)
  rw [comparing, comparing, Kind.relates, Kind.relates, hposition]

/-- Away from universal time no moment equals both what a clock shows and the instant. -/
theorem comparing_equal_apart {t : DateTime} (h : t.isUniversal = false) (p : FieldPath)
    (v : Value) : ¬ (comparing .moment .equal p (.dateTime t.shown) v ∧
      comparing .moment .equal p (.dateTime t) v) := by
  rintro ⟨hshown, hinstant⟩
  unfold comparing at hshown hinstant
  cases hv : Kind.moment.position? (p.get v) with
  | none =>
    rw [Kind.relates, hv] at hshown
    cases hshown
  | some position =>
    rw [Kind.relates_eq hv rfl] at hshown hinstant
    have heq : position = t.shown.instant := compare_eq_iff_eq.mp (beq_iff_eq.mp hshown)
    have heq' : position = t.instant := compare_eq_iff_eq.mp (beq_iff_eq.mp hinstant)
    rw [DateTime.instant_shown] at heq
    have hoffset : t.time.offset.getD 0 = 0 := by
      have hsame : t.wallMicros = t.wallMicros - t.time.offset.getD 0 := heq.symm.trans heq'
      omega
    rw [DateTime.isUniversal, hoffset] at h
    cases h

/-- A page is refused for its numbers only. -/
theorem answerOf_ne_orderedBoolean (keep : Value → Bool) (sorts : List BoundSort) (q : PageQuery) :
    answerOf books form keep sorts q ≠ .error .orderedBoolean := by
  rw [answerOf, paginate, PageWindow.of]
  split
  · rintro ⟨⟩
  · split
    · rintro ⟨⟩
    · split
      · rintro ⟨⟩
      · rintro ⟨⟩

namespace Searches

variable (hq : Searches form q c p) (h : Library books) (hform : form ∈ forms)
  (hop : c.operator = .compare op)

include hq hform hop

/-- A text that is no value of the column is refused by both sources. -/
theorem refused_of_read_error (hp : p.valueType = .scalar k) {e : ConversionError}
    (he : k.read c.value = .error e) : ∃ fault,
      (memorySource books form).run q = .error fault ∧
        (storedSource books form).run q = .error fault :=
  ⟨_, hq.refused hform hp (Schema.bindFilterTo_of_read_error hp hop he)⟩

include h

theorem memory_comparing (hp : p.valueType = .scalar k) (hk : (FieldType.scalar k).isSortable)
    {w : Value} (hw : k.read c.value = .ok w) (hstorable : Cell.ofValue w = .ok (cellOf w))
    (hkind : ((FieldType.scalar k).kind.position? w).isSome) :
    ((memorySource books form).run q).map answer =
      answerOf books form (comparing (FieldType.scalar k).kind op p w) (keySorts form q) q := by
  have hb := Schema.bindFilterTo_of_read (s := schema) hp hop hw
  obtain ⟨pos, hpos⟩ := Option.isSome_iff_exists.mp hkind
  refine hq.memory_answer hform h hb hstorable fun v hv => ?_
  have hholds := h.holds_get hform hv (hq.declares.leads hform)
  rw [hp] at hholds
  exact BoundFilter.holds_eq_relates hk hop rfl hpos hholds schema

end Searches

theorem Library.ordersTruth (h : Library books) (hform : form ∈ forms) (hq : Searches form q c p)
    (hop : c.operator = .compare op) (hordering : op ≠ .equal)
    (hp : p.valueType = .scalar .bool) : OrdersTruth books form q c p op := by
  have hmemory : ∀ b, Scalar.readBool c.value = .ok (.bool b) →
      ((memorySource books form).run q).map answer =
        answerOf books form (comparing .number op p (.bool b)) (keySorts form q) q :=
    fun b hb => hq.memory_comparing h hform hop hp rfl hb rfl rfl
  have hstored : ∀ b, Scalar.readBool c.value = .ok (.bool b) →
      (storedSource books form).run q = .error .orderedBoolean := by
    intro b hb
    refine hq.stored_refuses hform hp (Schema.bindFilterTo_of_read hp hop hb) ?_
    rw [JoinTable.accepts, hop]
    exact beq_eq_false_iff_ne.mpr hordering
  refine ⟨fun e he => hq.refused_of_read_error hform hop hp he, hmemory, hstored, fun b hb => ?_⟩
  rw [hmemory b hb, hstored b hb]
  exact (answerOf_ne_orderedBoolean _ _ _).symm

theorem Library.comparesMoments (h : Library books) (hform : form ∈ forms)
    (hq : Searches form q c p) (hop : c.operator = .compare op)
    (hp : p.valueType = .scalar .dateTime) : ComparesMoments books form q c p op := by
  have hmemory : ∀ t, Scalar.readDateTime c.value = .ok (.dateTime t) →
      ((memorySource books form).run q).map answer =
        answerOf books form (comparing .moment op p (.dateTime t)) (keySorts form q) q :=
    fun t ht => hq.memory_comparing h hform hop hp rfl ht rfl rfl
  have hstored : ∀ t, Scalar.readDateTime c.value = .ok (.dateTime t) →
      ((storedSource books form).run q).map answer = withinStorage q
        (answerOf books form (comparing .moment op p (.dateTime t.shown)) (keySorts form q) q) := by
    intro t ht
    obtain ⟨u, hu, hvalid⟩ := Scalar.readDateTime_valid ht
    obtain rfl := Value.dateTime.inj hu
    have haccepts : JoinTable.accepts ⟨c, p, .dateTime t, false⟩ := by
      rw [JoinTable.accepts, hop]
    have hanswer := hq.stored_answer hform h hp (Schema.bindFilterTo_of_read hp hop ht) rfl haccepts
    have hstores : Stores (.scalar .dateTime) (.dateTime t.shown) :=
      .dateTime (DateTime.shown_valid hvalid) (DateTime.shown_isUniversal t)
    rw [hanswer]
    refine congrArg (withinStorage q) (answerOf_congr (fun v hv => ?_) _ _)
    have hholds := h.holds_get hform hv (hq.declares.leads hform)
    rw [hp] at hholds
    rw [hop, comparing, meetsCell, ← DateTime.cellOf_shown, ← meetsCell]
    exact hholds.meetsCell_eq_relates rfl hstores op
  have halike : ∀ t, Scalar.readDateTime c.value = .ok (.dateTime t) → takesPage q →
      t.isUniversal → ((storedSource books form).run q).map answer =
        ((memorySource books form).run q).map answer := by
    intro t ht hpage huniversal
    rw [hmemory t ht, hstored t ht, withinStorage_of_takesPage hpage]
    exact answerOf_congr (fun v _ => comparing_shown huniversal op p v) _ _
  refine ⟨fun e he => hq.refused_of_read_error hform hop hp he, hmemory, hstored, halike, ?_, ?_⟩
  · intro t ht hpage hfirst hpositive hall
    rw [hmemory t ht, hstored t ht, withinStorage_of_takesPage hpage]
    exact h.answerOf_eq_iff hform _ hfirst hpositive hall
  · rintro t rfl hoffset v
    exact comparing_equal_apart hoffset p v

/-- Whatever the library, its entities in memory and their rows answer a search that orders truth
values or compares moments as described: truth values are ordered in memory only, and moments are
looked for by their instants in memory and by what a clock shows in tables. -/
theorem Library.search_boundary (h : Library books) (hform : form ∈ forms)
    (hq : Searches form q c p) (hop : c.operator = .compare op) :
    (p.valueType = .scalar .bool → op ≠ .equal → OrdersTruth books form q c p op) ∧
      (p.valueType = .scalar .dateTime → ComparesMoments books form q c p op) :=
  ⟨fun hp hordering => h.ordersTruth hform hq hop hordering hp,
    fun hp => h.comparesMoments hform hq hop hp⟩

end

/-! ## Books -/

/-- Books that are not at hand. -/
def missingClause : FilterClause := ⟨"IsAvailable", .compare .less, "true"⟩

/-- Books that appeared at two o'clock, two hours east of universal time. -/
def eastClause : FilterClause :=
  ⟨"PublicationDate", .compare .equal, "2000-01-01T14:00:00+02:00"⟩

/-- The moment that books are looked for. -/
def twoInTheEast : DateTime := ⟨⟨2000, 1, 1⟩, ⟨14, 0, 0, 0, some 7200000000⟩⟩

theorem searches_missing :
    Searches bookForm (searchFor missingClause) missingClause
      (columnPath "is_available" (.scalar .bool)) :=
  searches_searchFor (by decide +kernel)

theorem searches_east :
    Searches bookForm (searchFor eastClause) eastClause
      (columnPath "publication_date" (.scalar .dateTime)) :=
  searches_searchFor (by decide +kernel)

/-- Both searches, read by the types of their columns. -/
theorem books_boundary :
    Library (books 4) ∧ bookForm ∈ forms ∧
      Scalar.readBool missingClause.value = .ok (.bool true) ∧
      OrdersTruth (books 4) bookForm (searchFor missingClause) missingClause
        (columnPath "is_available" (.scalar .bool)) .less ∧
      Scalar.readDateTime eastClause.value = .ok (.dateTime twoInTheEast) ∧
      ComparesMoments (books 4) bookForm (searchFor eastClause) eastClause
        (columnPath "publication_date" (.scalar .dateTime)) .equal :=
  ⟨library_books, bookForm_mem, rfl,
    (Library.search_boundary library_books bookForm_mem searches_missing rfl).1 rfl (by decide),
    rfl, (Library.search_boundary library_books bookForm_mem searches_east rfl).2 rfl⟩

/-- Four books answer both searches differently: the first book appeared at that instant, when a
clock at universal time showed noon, and tables order no truth values. -/
theorem books_unalike :
    ((storedSource (books 4) bookForm).run (searchFor eastClause)).map answer ≠
        ((memorySource (books 4) bookForm).run (searchFor eastClause)).map answer ∧
      ((storedSource (books 4) bookForm).run (searchFor missingClause)).map answer ≠
        ((memorySource (books 4) bookForm).run (searchFor missingClause)).map answer := by
  have hmoments : ComparesMoments (books 4) bookForm (searchFor eastClause) eastClause
      (columnPath "publication_date" (.scalar .dateTime)) .equal :=
    library_books.comparesMoments bookForm_mem searches_east rfl rfl
  have htruth : OrdersTruth (books 4) bookForm (searchFor missingClause) missingClause
      (columnPath "is_available" (.scalar .bool)) .less :=
    library_books.ordersTruth bookForm_mem searches_missing rfl (by decide) rfl
  refine ⟨fun heq => ?_, htruth.unalike true rfl⟩
  have hsame := (hmoments.alike_iff twoInTheEast rfl (by decide) rfl (by decide)
    (by decide)).mp heq
  revert hsame
  decide

end Sample

end PagedQuery
