import PagedQuery.Proofs.Coercion.Members
import PagedQuery.Proofs.Number.Identifier
import PagedQuery.Proofs.Schema.Spelling
import PagedQuery.Proofs.Time.Printed
import PagedQuery.Proofs.Time.Rendering
import PagedQuery.Query.Builder

/-!
# Values that builders are given

A filter is built with a value, keeps the text of it, and is bound to what its field's type reads in
that text. Truth values, numbers, texts, days and identifiers come back as they were, and so do
times and moments, up to an offset below a second. A duration comes back if it is less than a day
and not negative; a member of an enumeration if its text is found among the names and values.
-/

namespace PagedQuery

open PagedQuery.Number PagedQuery.Text PagedQuery.Time PagedQuery.Time.Span

namespace Value

/-! ## Texts of values -/

@[simp] theorem toText_text (t : String) : (Value.text t).toText = t := rfl

@[simp] theorem toText_decimal (d : Decimal) : (Value.decimal d).toText = d.text := rfl

@[simp] theorem toText_date (d : Date) : (Value.date d).toText = d.text := rfl

@[simp] theorem toText_dateTime (t : DateTime) : (Value.dateTime t).toText = t.textWith " " := rfl

@[simp] theorem toText_time (t : TimeOfDay) : (Value.time t).toText = t.text := rfl

@[simp] theorem toText_span (micros : ℤ) : (Value.span micros).toText = spanText micros := rfl

@[simp] theorem toText_uuid (n : ℕ) : (Value.uuid n).toText = Identifier.text n := rfl

end Value

namespace Scalar

/-! ## Printed scalars -/

theorem readInteger_toText {n : ℤ} (h : isLong n = false) :
    readInteger (Value.int n).toText = .ok (.int n) := by
  have htrim : trim (toString n) = toString n :=
    trim_of_stripped (stripped_of_isNumeric (Enumeration.isNumeric_of_mem_toString n))
  have htext : (Value.int n).toText = toString n := rfl
  rw [readInteger, htext, htrim, readPlain_toString h]

theorem readBool_toText (b : Bool) : readBool (Value.bool b).toText = .ok (.bool b) := by
  have htrue : lower (trim "True") = "true" := by decide
  have hfalse : lower (trim "False") = "false" := by decide
  cases b with
  | true =>
    have htext : (Value.bool true).toText = "True" := rfl
    simp [readBool, htext, htrue]
  | false =>
    have htext : (Value.bool false).toText = "False" := rfl
    simp [readBool, htext, hfalse]

theorem readDecimal_toText {negative : Bool} {coefficient : ℕ} {exponent : ℤ}
    (h : Decimal.InRange coefficient exponent) :
    readDecimal (Value.decimal (.finite negative coefficient exponent)).toText =
      .ok (.decimal (.finite negative coefficient exponent)) := by
  have hunderscore : '_' ∉ (Decimal.text (.finite negative coefficient exponent)).toList :=
    fun hc => absurd (Decimal.mem_text '_' hc) (by decide)
  have hseparators : withoutSeparators (Decimal.text (.finite negative coefficient exponent)) =
      .ok (Decimal.text (.finite negative coefficient exponent)) := by
    rw [withoutSeparators, Decimal.trim_text, if_neg (by simpa using hunderscore)]
  rw [Value.toText_decimal]
  unfold readDecimal
  rw [hseparators]
  refine (pure_bind _ _).trans ?_
  rw [Decimal.read?_text h]
  rfl

theorem readDate_toText {d : Date} (h : d.valid) :
    readDate (Value.date d).toText = .ok (.date d) := by
  rw [Value.toText_date, ← text_dash]
  exact readDate_form h (by simp [Pattern.forms])

theorem readDateTime_toText {t : DateTime} (h : t.valid) (ho : t.time.hasOffset) :
    readDateTime (Value.dateTime t).toText = .ok (.dateTime ⟨t.date, t.time.kept⟩) := by
  rw [Value.toText_dateTime]
  exact readDateTime_textWith h ho (c := ' ') rfl rfl

theorem readTime_toText {t : TimeOfDay} (h : t.valid) (ho : t.hasOffset) :
    readTime (Value.time t).toText = .ok (.time t.kept) := by
  have htrim : trim t.text = t.text := by
    refine trim_of_stripped ?_
    rw [t.toList_text]
    exact stripped_of_isNumeric TimeOfDay.isNumeric_of_mem_chars
  rw [Value.toText_time]
  unfold readTime
  simp only [htrim, Iso.readTime_text h ho]

theorem readSpan_toText (micros : ℤ) : readSpan (Value.span micros).toText =
    if 0 ≤ micros ∧ micros < microsPerDay then .ok (.span micros) else .error .notDuration := by
  rw [Value.toText_span]
  unfold readSpan
  split_ifs with h
  · rw [read_spanText h.1 h.2]
  · rw [read_spanText_of_days h]

theorem readUuid_toText {n : ℕ} (h : n < 2 ^ 128) :
    readUuid (Value.uuid n).toText = .ok (.uuid n) := by
  rw [Value.toText_uuid]
  unfold readUuid
  rw [Identifier.trim_text, Identifier.read_text h]

end Scalar

namespace Schema

variable {s : Schema} {root : FieldType} {property : String} {path : FieldPath} {v : Value}

/-! ## Values of a filter -/

/-- A value that a filter can be built with: one of a type whose values are told by their texts,
with as many digits as can be written. -/
inductive IsFilterValue (s : Schema) : Value → Prop
  | bool (b : Bool) : IsFilterValue s (.bool b)
  | text (t : String) : IsFilterValue s (.text t)
  | int {n : ℤ} (h : isLong n = false) : IsFilterValue s (.int n)
  | decimal {negative : Bool} {coefficient : ℕ} {exponent : ℤ}
      (h : Decimal.InRange coefficient exponent) :
      IsFilterValue s (.decimal (.finite negative coefficient exponent))
  | date {d : Date} (h : d.valid) : IsFilterValue s (.date d)
  | time {t : TimeOfDay} (h : t.valid) (ho : t.hasOffset) : IsFilterValue s (.time t)
  | dateTime {t : DateTime} (h : t.valid) (ho : t.time.hasOffset) : IsFilterValue s (.dateTime t)
  | span {micros : ℤ} (h : IsSpan micros) : IsFilterValue s (.span micros)
  | uuid {n : ℕ} (h : n < 2 ^ 128) : IsFilterValue s (.uuid n)
  | member {e : Enumeration} {m : String × Value} (he : s.enumeration? e.name = some e)
      (hdeclared : e.IsDeclared) (hm : m ∈ e.members)
      (hwritable : (e.valueOf m).unwritable? = none) :
      IsFilterValue s (e.valueOf m)

/-- What a filter that is built with a value holds when it is bound. -/
def returned (s : Schema) : Value → Except ConversionError Value
  | .time t => .ok (.time t.kept)
  | .dateTime t => .ok (.dateTime ⟨t.date, t.time.kept⟩)
  | .span micros =>
    if 0 ≤ micros ∧ micros < microsPerDay then .ok (.span micros) else .error .notDuration
  | .member name base n value =>
    match s.enumeration? name with
    | some e => e.read (Value.member name base n value).toText
    | none => .error (.notMember name)
  | v => .ok v

/-- Whether a filter that is built with a value holds it when it is bound. -/
def ComesBack (s : Schema) : Value → Prop
  | .time t => ∀ o ∈ t.offset, o = 0 ∨ 1000000 ≤ o.natAbs
  | .dateTime t => ∀ o ∈ t.time.offset, o = 0 ∨ 1000000 ≤ o.natAbs
  | .span micros => 0 ≤ micros ∧ micros < microsPerDay
  | .member name _ n value => ∀ e ∈ s.enumeration? name, e.ComesBack (n, value)
  | _ => True

theorem IsFilterValue.isAtomic_type (h : s.IsFilterValue v) : v.type.isAtomic := by
  cases h <;> rfl

theorem IsFilterValue.written_eq (h : s.IsFilterValue v) : v.written = .ok v.toText := by
  refine Value.written_eq_ok_iff.mpr ⟨?_, rfl⟩
  cases h with
  | int h => exact Value.unwritable?_int_eq_none_iff.mpr h
  | member _ _ _ hwritable => exact hwritable
  | _ => rfl

/-- The type of a value reads in its text what comes back. -/
theorem IsFilterValue.read_toText (h : s.IsFilterValue v) :
    s.read v.toText v.type = s.returned v := by
  cases h with
  | bool b => simp only [Value.type, read, Scalar.read, returned, Scalar.readBool_toText]
  | text t => simp only [Value.type, read, Scalar.read, returned, Value.toText_text]
  | int h => simp only [Value.type, read, Scalar.read, returned, Scalar.readInteger_toText h]
  | decimal h => simp only [Value.type, read, Scalar.read, returned, Scalar.readDecimal_toText h]
  | date h => simp only [Value.type, read, Scalar.read, returned, Scalar.readDate_toText h]
  | time h ho => simp only [Value.type, read, Scalar.read, returned, Scalar.readTime_toText h ho]
  | dateTime h ho =>
    simp only [Value.type, read, Scalar.read, returned, Scalar.readDateTime_toText h ho]
  | span h => simp only [Value.type, read, Scalar.read, returned, Scalar.readSpan_toText]
  | uuid h => simp only [Value.type, read, Scalar.read, returned, Scalar.readUuid_toText h]
  | member he => simp only [Enumeration.valueOf, Value.type, read, returned, he]

theorem IsFilterValue.returned_eq_ok_iff (h : s.IsFilterValue v) :
    s.returned v = .ok v ↔ s.ComesBack v := by
  cases h with
  | time h ho =>
    simp only [returned, ComesBack, Except.ok.injEq, Value.time.injEq, TimeOfDay.kept_eq_self_iff]
  | @dateTime t h ho =>
    have hkept : DateTime.mk t.date t.time.kept = t ↔ t.time.kept = t.time :=
      ⟨fun h => congrArg DateTime.time h, fun h => congrArg (DateTime.mk t.date) h⟩
    simp only [returned, ComesBack, Except.ok.injEq, Value.dateTime.injEq, hkept,
      TimeOfDay.kept_eq_self_iff]
  | span h =>
    simp only [returned, ComesBack]
    split_ifs with hday <;> simp [hday]
  | member he hdeclared hm hwritable =>
    simp only [Enumeration.valueOf, returned, ComesBack, he, Option.mem_some_iff, forall_eq']
    exact Enumeration.read_toText hdeclared hm hwritable
  | _ => simp only [returned, ComesBack]

/-! ## Built filters -/

theorem convert_of_isAtomic {t : FieldType} (h : t.isAtomic) (raw : String) :
    s.convert raw t = (s.read raw t).mapError (.conversion raw t) := by
  obtain ⟨k, rfl⟩ | ⟨name, rfl⟩ := FieldType.exists_of_isAtomic h <;>
    simp [convert_of_not_union, failureTarget]

/-- A field of an atomic type takes what its type reads. -/
theorem bindFilterTo_equal (h : path.valueType.isAtomic) (name raw : String) :
    s.bindFilterTo ⟨name, .compare .equal, raw⟩ path =
      ((s.read raw path.valueType).mapError (.conversion raw path.valueType)).map
        (⟨⟨name, .compare .equal, raw⟩, path, ·, false⟩) := by
  have huntyped : path.valueType.isUntyped = false := by
    obtain ⟨k, hk⟩ | ⟨name, hname⟩ := FieldType.exists_of_isAtomic h
    · simp [hk, FieldType.isUntyped]
    · simp [hname, FieldType.isUntyped]
  simp [bindFilterTo, FilterOperator.isPattern, huntyped, convert_of_isAtomic h]

/-- The plan of a query with one filter and nothing else. -/
theorem compile_singleton (c : FilterClause)
    (hpath : s.resolve .value root c.property = .ok (some path)) :
    s.compile root { filters := [c] } = (s.bindFilterTo c path).map fun b =>
      { root := root, filters := [b] } := by
  have hbind : s.bindFilter root c = (s.bindFilterTo c path).map some := by
    simp only [bindFilter, hpath]
  have hfilters : s.bindFilters root [c] = (s.bindFilterTo c path).map fun b => ([b], []) := by
    unfold bindFilters bindEach
    rw [hbind]
    cases s.bindFilterTo c path <;> rfl
  unfold compile
  rw [hfilters]
  cases s.bindFilterTo c path <;> rfl

/-- The plan of a query that is built with one filter. -/
theorem compile_built (hpath : s.resolve .value root property = .ok (some path))
    (hatomic : path.valueType.isAtomic) (v : Value) :
    s.compile root (({} : QueryBuilder).filter property (.compare .equal) v).build.query =
      ((s.read v.toText path.valueType).mapError (.conversion v.toText path.valueType)).map fun w =>
        { root := root
          filters :=
            [⟨⟨normalizeProperty property, .compare .equal, v.toText⟩, path, w, false⟩] } := by
  have hquery : (({} : QueryBuilder).filter property (.compare .equal) v).build.query =
      { filters := [⟨normalizeProperty property, .compare .equal, v.toText⟩] } := rfl
  have hresolve : s.resolve .value root (normalizeProperty property) = .ok (some path) := by
    rw [resolve_congr (segments_normalizeProperty property), hpath]
  rw [hquery, compile_singleton _ hresolve, bindFilterTo_equal hatomic]
  cases s.read v.toText path.valueType <;> rfl

/-- A filter is built with every value that can be written. -/
theorem step_filter (hwritten : v.written = .ok v.toText) :
    ({} : QueryBuilder).step (.filter property (.inr "=") v) =
      .ok (({} : QueryBuilder).filter property (.compare .equal) v) := by
  have hoperator : QueryBuilder.operator "=" = .ok (.compare .equal) := by rfl
  simp only [QueryBuilder.step, hoperator, hwritten]
  rfl

/-- A filter that is built with a value of its field's type is bound to what comes back of it, which
is the value itself exactly if it comes back, and refused if nothing does. -/
theorem compile_filter (hpath : s.resolve .value root property = .ok (some path))
    (htype : path.valueType = v.type) (hv : s.IsFilterValue v) :
    ∃ b, ({} : QueryBuilder).step (.filter property (.inr "=") v) = .ok b ∧
      s.compile root b.build.query =
        ((s.returned v).mapError (.conversion v.toText v.type)).map (fun w =>
          { root := root
            filters :=
              [⟨⟨normalizeProperty property, .compare .equal, v.toText⟩, path, w, false⟩] }) ∧
      (s.returned v = .ok v ↔ s.ComesBack v) := by
  refine ⟨_, step_filter hv.written_eq, ?_, hv.returned_eq_ok_iff⟩
  rw [compile_built hpath (htype ▸ hv.isAtomic_type), htype, hv.read_toText]

end Schema

/-- Coatings that print as members. -/
def coating : Enumeration :=
  .ofMembers "Coating" .plain [("MATTE", .text "m"), ("GLOSSY", .text "g")]

/-- Offers with a warranty and a coating. -/
def offers : Schema where
  enumerations := [coating]
  types :=
    [⟨"Offer", [("warranty", .scalar .span), ("coating", .enumeration "Coating")], [], .plain, []⟩]

def warrantyPath : FieldPath := ⟨.entity "Offer", [⟨"warranty", .scalar .span, false, false⟩]⟩

def coatingPath : FieldPath :=
  ⟨.entity "Offer", [⟨"coating", .enumeration "Coating", false, false⟩]⟩

theorem resolve_warranty :
    offers.resolve .value (.entity "Offer") "warranty" = .ok (some warrantyPath) := rfl

theorem resolve_coating :
    offers.resolve .value (.entity "Offer") "coating" = .ok (some coatingPath) := rfl

theorem coating_isDeclared : coating.IsDeclared where
  declared := ⟨_, rfl⟩
  named := by
    have hmembers : coating.members = [("MATTE", .text "m"), ("GLOSSY", .text "g")] := rfl
    rw [hmembers, List.forall_mem_cons, List.forall_mem_singleton]
    exact ⟨⟨'M', "ATTE".toList, rfl, by decide, by decide⟩,
      ⟨'G', "LOSSY".toList, rfl, by decide, by decide⟩⟩
  fitting := by decide

/-- A warranty of ninety minutes comes back, and a matte coating does not. -/
theorem ninetyMinutes_compile_filter :
    (∃ b, ({} : QueryBuilder).step (.filter "warranty" (.inr "=") (.span 5400000000)) = .ok b ∧
      offers.compile (.entity "Offer") b.build.query = .ok
        { root := .entity "Offer"
          filters := [⟨⟨"Warranty", .compare .equal, "1:30:00"⟩, warrantyPath, .span 5400000000,
            false⟩] }) ∧
    ∃ b, ({} : QueryBuilder).step (.filter "coating" (.inr "=")
        (coating.valueOf ("MATTE", .text "m"))) = .ok b ∧
      offers.compile (.entity "Offer") b.build.query = .error
        (.conversion "Coating.MATTE" (.enumeration "Coating") (.notMember "Coating")) := by
  constructor
  · have hspan : IsSpan 5400000000 := by decide
    obtain ⟨b, hstep, hcompile, hback⟩ :=
      Schema.compile_filter resolve_warranty rfl (.span hspan)
    have hwarranty : normalizeProperty "warranty" = "Warranty" := by decide
    have htext : (Value.span 5400000000).toText = "1:30:00" := by decide
    rw [hback.mpr ⟨by decide, by decide⟩, hwarranty, htext] at hcompile
    exact ⟨b, hstep, hcompile⟩
  · have hmatte : ("MATTE", Value.text "m") ∈ coating.members := List.mem_cons_self
    obtain ⟨b, hstep, hcompile, -⟩ :=
      Schema.compile_filter resolve_coating rfl (.member rfl coating_isDeclared hmatte rfl)
    have htext : (coating.valueOf ("MATTE", .text "m")).toText = "Coating.MATTE" := by
      decide
    have hreturned : offers.returned (coating.valueOf ("MATTE", .text "m")) =
        .error (.notMember "Coating") := rfl
    rw [hreturned, htext] at hcompile
    exact ⟨b, hstep, hcompile⟩

/-- A warranty of a day is refused. -/
theorem oneDay_refused :
    offers.resolve .value (.entity "Offer") "warranty" = .ok (some warrantyPath) ∧
      warrantyPath.valueType = Value.type (.span microsPerDay) ∧
      offers.IsFilterValue (.span microsPerDay) ∧
      (∃ b, ({} : QueryBuilder).step (.filter "warranty" (.inr "=") (.span microsPerDay)) = .ok b ∧
        offers.compile (.entity "Offer") b.build.query = .error
          (.conversion "1 day, 0:00:00" (.scalar .span) .notDuration)) ∧
      ¬ ∀ v, offers.IsFilterValue v → warrantyPath.valueType = v.type → ∃ b plan,
        ({} : QueryBuilder).step (.filter "warranty" (.inr "=") v) = .ok b ∧
        offers.compile (.entity "Offer") b.build.query = .ok plan ∧
        plan.filters.map (·.value) = [v] := by
  have hday : offers.IsFilterValue (.span microsPerDay) := .span (by decide)
  have htext : (Value.span microsPerDay).toText = "1 day, 0:00:00" := by decide
  have hread : offers.read "1 day, 0:00:00" (.scalar .span) = .error .notDuration := by
    rw [← htext]
    exact (Scalar.readSpan_toText microsPerDay).trans (if_neg (by decide))
  have hcompile := Schema.compile_built resolve_warranty rfl (.span microsPerDay)
  rw [show warrantyPath.valueType = .scalar .span from rfl, htext, hread] at hcompile
  refine ⟨resolve_warranty, rfl, hday, ⟨_, Schema.step_filter hday.written_eq, hcompile⟩,
    fun hall => ?_⟩
  obtain ⟨b, plan, hstep, hplan, -⟩ := hall (.span microsPerDay) hday rfl
  cases hstep.symm.trans (Schema.step_filter hday.written_eq)
  cases hplan.symm.trans hcompile

end PagedQuery
