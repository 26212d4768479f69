import Mathlib.Tactic
import PagedQuery.Proofs.Library.Columns
import PagedQuery.Proofs.Schema.Instance
import PagedQuery.Proofs.Schema.Loosening
import PagedQuery.Proofs.Sources.Selected

/-!
# Values that are converted when they are compared

Where a field is declared with a type, the value of a filter is converted once, when the filter is
bound. Where a field may hold anything, it is converted for each entity, to the type of what the
entity holds, but not if that is a text. So both ways agree on values of the declared type, with one
exception: members of an enumeration that are texts as well are compared with the value as it is
written, and not with the member that it stands for.
-/

namespace PagedQuery

namespace Enumeration

/-- Whether the members have values that their enumeration can give them. -/
def isFitting (e : Enumeration) : Bool := e.members.all fun m => e.base.fits m.2

end Enumeration

namespace Value

variable {v : Value} {type : FieldType} {e name : String} {base : EnumBase} {t : String}

theorem isNull_of_type_isAtomic (h : v.type = type) (htype : type.isAtomic) : v.isNull = false := by
  cases v with
  | null =>
    rw [← h] at htype
    cases htype
  | _ => rfl

theorem base_of_text? (h : (member e base name v).text? = some t) : base = .string ∨ base = .text := by
  cases base with
  | string => exact .inl rfl
  | text => exact .inr rfl
  | _ => cases h

theorem exists_text_of_fits (hbase : base = .string ∨ base = .text) (h : base.fits v) :
    ∃ u, (member e base name v).text? = some u := by
  rcases hbase with rfl | rfl <;> cases v <;> first | exact ⟨_, rfl⟩ | cases h

end Value

namespace FieldPath

/-- The values at the ends of paths over the same attributes are the same. -/
theorem follow_eq_of_loosens {fields fields' : List Field}
    (h : List.Forall₂ Field.Loosens fields fields') (v : Value) :
    follow fields' v = follow fields v := by
  induction h generalizing v with
  | nil => rfl
  | cons head tail ih => rw [follow, follow, head.name_eq, ih]

end FieldPath

namespace Schema

variable {s s' : Schema} {root type : FieldType} {c : FilterClause} {op : Comparison}
  {path : FieldPath} {b : BoundFilter} {raw : String} {v : Value}

/-- The value of a text of an atomic type depends on the enumerations only. -/
theorem Loosens.convert_eq (h : s.Loosens s') (htype : type.isAtomic) (raw : String) :
    s'.convert raw type = s.convert raw type := by
  have henumeration : ∀ name, s'.enumeration? name = s.enumeration? name := by
    intro name
    rw [enumeration?, enumeration?, h.enumerations_eq]
  obtain ⟨k, rfl⟩ | ⟨name, rfl⟩ := FieldType.exists_of_isAtomic htype
  · rfl
  · rw [convert_of_not_union (by simp), convert_of_not_union (by simp), read, read,
      henumeration]

/-- Where a value of the type is a text, so is every value that is read, if the type is none of texts
only. -/
theorem exists_text_of_convert (hfitting : ∀ e ∈ s.enumerations, e.isFitting)
    (htype : type.isAtomic) (hne : type ≠ .scalar .text) {w : Value} (hw : w.type = type)
    (hinstance : s.isInstance type w) {t : String} (ht : w.text? = some t)
    (hv : s.convert raw type = .ok v) : ∃ u, v.text? = some u := by
  cases w with
  | text _ => exact (hne hw.symm).elim
  | code _ =>
    rw [← hw] at htype
    cases htype
  | member e base n y =>
    obtain rfl : FieldType.enumeration e = type := hw
    simp only [isInstance, Bool.and_eq_true, Option.any_eq_true, beq_iff_eq] at hinstance
    obtain ⟨⟨-, found, hfound, hbase⟩, -⟩ := hinstance
    have hread := read_of_convert (by simp) hv
    rw [read, hfound] at hread
    obtain ⟨m, hm, rfl⟩ := Enumeration.exists_member_of_read hread
    have hfits := List.all_eq_true.mp (hfitting found (List.mem_of_find?_eq_some hfound)) m hm
    exact Value.exists_text_of_fits (hbase ▸ Value.base_of_text? ht) hfits
  | _ => cases ht

/-- A comparison that is bound to a field of an atomic type holds its value as one of the type. -/
theorem convert_of_bindFilterTo (hop : c.operator = .compare op) (htype : path.valueType.isAtomic)
    (h : s.bindFilterTo c path = .ok b) :
    ∃ v, s.convert c.value path.valueType = .ok v ∧ b = ⟨c, path, v, false⟩ := by
  have hbinds := s.bindsTo c path
  rw [h] at hbinds
  cases hbinds with
  | pattern hpattern =>
    rw [hop] at hpattern
    cases hpattern
  | deferred _ huntyped =>
    obtain ⟨k, hk⟩ | ⟨name, hname⟩ := FieldType.exists_of_isAtomic htype
    · rw [hk] at huntyped
      cases huntyped
    · rw [hname] at huntyped
      cases huntyped
  | converted _ hv => exact ⟨_, hv, rfl⟩

/-- A comparison is bound to a field that may hold anything, and keeps its value as it is written. -/
theorem bindFilterTo_any (hop : c.operator = .compare op) (hany : path.valueType = .any) :
    s.bindFilterTo c path = .ok ⟨c, path, .text c.value, true⟩ := by
  have hpattern : c.operator.isPattern = false := by rw [hop]; rfl
  simp [bindFilterTo, hpattern, hany, isOrdered, FieldType.isUntyped]

/-- Where the field may hold anything, the filter is bound too, to the same attributes. -/
theorem bindFilter_of_loosens (h : s.Loosens s') (hop : c.operator = .compare op)
    (hbind : s.bindFilter root c = .ok (some b))
    (hany : ∀ path, s'.resolve .value root c.property = .ok (some path) → path.valueType = .any) :
    ∃ path, s'.bindFilter root c = .ok (some ⟨c, path, .text c.value, true⟩) ∧
      path.get = b.path.get := by
  obtain ⟨-, hresolve, -⟩ := bindFilter_eq_some hbind
  have hrel := h.resolve_rel .value root c.property
  rw [hresolve] at hrel
  cases hresolve' : s'.resolve .value root c.property with
  | error e =>
    rw [hresolve'] at hrel
    cases hrel
  | ok path? =>
    rw [hresolve'] at hrel
    cases hrel with
    | ok hpaths =>
      cases hpaths with
      | @some _ path' hpaths =>
        refine ⟨path', ?_, funext fun x => FieldPath.follow_eq_of_loosens hpaths.2 x⟩
        simp only [bindFilter, hresolve', bindFilterTo_any hop (hany path' hresolve')]
        rfl

end Schema

namespace BoundFilter

variable {s : Schema} {b : BoundFilter} {c : FilterClause} {op : Comparison} {path : FieldPath}
  {x v w : Value} {t u : String}

/-- Texts compare as such, whatever else they are. -/
theorem compare_of_text? (hv : v.text? = some t) (hw : w.text? = some u) (op : Comparison) :
    b.compare op v w = .ok (op.holds (compareText t u)) := by
  have hcompare := Kind.compare_align_eq (k := .text) hv hw op
  have horder : compareText t u = (Ord.compare t u : Ordering) :=
    (LinearOrder.compare_eq_compareOfLessAndEq t u).symm
  rw [BoundFilter.compare, horder]
  simp only [hcompare]
  rfl

/-- A deferred filter compares a text with its value as it is written. -/
theorem holds_deferred_of_text? (hop : c.operator = .compare op)
    (ht : (path.get x).text? = some t) :
    (⟨c, path, .text c.value, true⟩ : BoundFilter).holds s x =
      .ok (op.holds (compareText t c.value)) := by
  have hnull : (path.get x).isNull = false := Kind.isNull_eq_false (k := .text) ht
  have hexpected : (⟨c, path, .text c.value, true⟩ : BoundFilter).expected s (path.get x) =
      .ok (.text c.value) := by
    simp [expected, ht]
  simp only [holds, hnull, Bool.false_eq_true, if_false, test, hop, hexpected]
  exact compare_of_text? ht rfl op

/-- A deferred filter compares any other value with one of its type. -/
theorem holds_deferred_of_convert (hop : c.operator = .compare op)
    (hnull : (path.get x).isNull = false) (ht : (path.get x).text? = none)
    (hv : s.convert c.value (path.get x).type = .ok v) :
    (⟨c, path, .text c.value, true⟩ : BoundFilter).holds s x =
      (⟨c, path, v, false⟩ : BoundFilter).compare op (path.get x) v := by
  have hexpected : (⟨c, path, .text c.value, true⟩ : BoundFilter).expected s (path.get x) =
      .ok v := by
    simp [expected, ht, hv]
  simp only [holds, hnull, Bool.false_eq_true, if_false, test, hop, hexpected]
  rfl

/-- Both ways of comparing agree on missing values and on values of the type, unless these are texts
as well. -/
theorem holds_deferred_eq {s' : Schema} {path' : FieldPath} {type : FieldType}
    (hop : c.operator = .compare op) (htype : type.isAtomic)
    (hv : s'.convert c.value type = .ok v)
    (hget : path'.get x = path.get x) (hx : (path.get x).isNull ∨ (path.get x).type = type)
    (hagrees : type = .scalar .text ∨ (path.get x).text? = none) :
    (⟨c, path', .text c.value, true⟩ : BoundFilter).holds s' x =
      (⟨c, path, v, false⟩ : BoundFilter).holds s x := by
  rcases hx with hnull | hxtype
  · have hnull' : (path'.get x).isNull := hget ▸ hnull
    rw [holds, holds, if_pos hnull, if_pos hnull']
  have hnull := Value.isNull_of_type_isAtomic hxtype htype
  have hdeclared := holds_of_isNull_eq_false (b := ⟨c, path, v, false⟩) hop rfl hnull s
  rw [hdeclared]
  cases ht : (path.get x).text? with
  | none =>
    have hconverted : s'.convert c.value (path'.get x).type = .ok v := by rw [hget, hxtype, hv]
    rw [holds_deferred_of_convert hop (hget ▸ hnull) (hget ▸ ht) hconverted, hget]
    rfl
  | some t =>
    -- The value is a text and nothing else, so that the filter's value is converted to itself.
    have htext := hagrees.resolve_right (by simp [ht])
    rw [htext, Schema.convert_of_not_union (by simp)] at hv
    cases hv
    rw [holds_deferred_of_text? hop (hget ▸ ht), compare_of_text? ht rfl op]

end BoundFilter

/-- A comparison that is bound to a field of scalars or members is bound as well where the field may
hold anything. Entities whose value is missing or of the declared type get the same answers from
both filters, and evaluating them fails alike, unless their value is a member of an enumeration and
a text as well. Then one filter compares the text of the member that its value stands for, and the
other one its value as it is written. -/
theorem deferred_agrees_with_declared {s s' : Schema} {root : FieldType} {c : FilterClause}
    {op : Comparison} {b : BoundFilter} (h : s.Loosens s')
    (hfitting : ∀ e ∈ s.enumerations, e.isFitting) (hop : c.operator = .compare op)
    (hbind : s.bindFilter root c = .ok (some b)) (htype : b.path.valueType.isAtomic)
    (hany : ∀ path, s'.resolve .value root c.property = .ok (some path) → path.valueType = .any) :
    (∃ b', s'.bindFilter root c = .ok (some b')) ∧
    ∀ x, ((b.path.get x).isNull ∨ (b.path.get x).type = b.path.valueType ∧
        s.isInstance b.path.valueType (b.path.get x)) →
      (b.path.valueType = .scalar .text ∨ (b.path.get x).text? = none →
        s'.accepts root [c] x = s.accepts root [c] x) ∧
      ∀ t, b.path.valueType ≠ .scalar .text → (b.path.get x).text? = some t →
        ∃ u, b.value.text? = some u ∧
          s.accepts root [c] x = .ok (op.holds (compareText t u)) ∧
          s'.accepts root [c] x = .ok (op.holds (compareText t c.value)) := by
  obtain ⟨path', hbind', hget⟩ := Schema.bindFilter_of_loosens h hop hbind hany
  obtain ⟨-, -, hto⟩ := Schema.bindFilter_eq_some hbind
  obtain ⟨v, hv, hb⟩ := Schema.convert_of_bindFilterTo hop htype hto
  have hv' : s'.convert c.value b.path.valueType = .ok v := (h.convert_eq htype c.value).trans hv
  have hvalue : b.value = v := congrArg BoundFilter.value hb
  refine ⟨⟨_, hbind'⟩, fun x hx => ?_⟩
  have hget := congrFun hget x
  rw [Schema.accepts_singleton hbind, Schema.accepts_singleton hbind']
  refine ⟨fun hagrees => ?_, fun t hne ht => ?_⟩
  · rw [BoundFilter.holds_deferred_eq hop htype hv' hget (hx.imp_right And.left) hagrees, ← hb]
  · have hnull : (b.path.get x).isNull = false := Kind.isNull_eq_false (k := .text) ht
    obtain ⟨hxtype, hinstance⟩ := hx.resolve_left (by simp [hnull])
    obtain ⟨u, hu⟩ :=
      Schema.exists_text_of_convert hfitting htype hne hxtype hinstance ht hv
    refine ⟨u, hvalue ▸ hu, ?_, BoundFilter.holds_deferred_of_text? hop (hget ▸ ht)⟩
    have hdeclared :=
      BoundFilter.holds_of_isNull_eq_false (b := ⟨c, b.path, v, false⟩) hop rfl hnull s
    rw [hb, hdeclared, BoundFilter.compare_of_text? ht hu op]

/-- Finishes that are texts as well. -/
def finish : Enumeration where
  name := "Finish"
  base := .string
  members := [("MATTE", .text "m"), ("GLOSSY", .text "g")]
  aliases := [("MATTE", "MATTE"), ("GLOSSY", "GLOSSY")]

/-- Paints with a finish. -/
def paints : Schema where
  enumerations := [finish]
  types := [⟨"Paint", [("finish", .enumeration "Finish")], [], .plain, []⟩]

/-- Paints with a finish that may be anything. -/
def loosePaints : Schema where
  enumerations := [finish]
  types := [⟨"Paint", [("finish", .any)], [], .plain, []⟩]

def paint (identity : ℕ) (finish : Value) : Value := .entity "Paint" {} identity [("finish", finish)]

def mattePaint : Value := paint 1 (.member "Finish" .string "MATTE" (.text "m"))

/-- Compares the finish of paints with a matte one. -/
def matte (op : Comparison) : FilterClause := ⟨"Finish", .compare op, "matte"⟩

theorem paints_loosens : paints.Loosens loosePaints where
  types := .cons ⟨rfl, rfl, .cons ⟨rfl, .any rfl⟩ .nil⟩ .nil
  enumerations_eq := rfl
  stored_eq := rfl
  nameless_eq := rfl

def boundMatte (op : Comparison) : BoundFilter where
  clause := matte op
  path := ⟨.entity "Paint", [⟨"finish", .enumeration "Finish", false, false⟩]⟩
  value := .member "Finish" .string "MATTE" (.text "m")

theorem paints_deferred :
    paints.Loosens loosePaints ∧ (∀ e ∈ paints.enumerations, e.isFitting) ∧
      paints.bindFilter (.entity "Paint") (matte .lessOrEqual) =
        .ok (some (boundMatte .lessOrEqual)) ∧
      loosePaints.accepts (.entity "Paint") [matte .lessOrEqual] (paint 2 .null) =
        paints.accepts (.entity "Paint") [matte .lessOrEqual] (paint 2 .null) ∧
      ∃ u, (boundMatte .lessOrEqual).value.text? = some u ∧
        paints.accepts (.entity "Paint") [matte .lessOrEqual] mattePaint =
          .ok (Comparison.lessOrEqual.holds (compareText "m" u)) ∧
        loosePaints.accepts (.entity "Paint") [matte .lessOrEqual] mattePaint =
          .ok (Comparison.lessOrEqual.holds (compareText "m" "matte")) := by
  have hfitting : ∀ e ∈ paints.enumerations, e.isFitting := by decide
  have hbind : paints.bindFilter (.entity "Paint") (matte .lessOrEqual) =
      .ok (some (boundMatte .lessOrEqual)) := rfl
  have hresolve : loosePaints.resolve .value (.entity "Paint") "Finish" =
      .ok (some ⟨.entity "Paint", [⟨"finish", .any, false, false⟩]⟩) := rfl
  have hany : ∀ path, loosePaints.resolve .value (.entity "Paint") (matte .lessOrEqual).property =
      .ok (some path) → path.valueType = .any := by
    intro path hpath
    cases hresolve.symm.trans hpath
    rfl
  have hall := deferred_agrees_with_declared paints_loosens hfitting rfl hbind rfl hany
  exact ⟨paints_loosens, hfitting, hbind, (hall.2 (paint 2 .null) (.inl rfl)).1 (.inr rfl),
    (hall.2 mattePaint (.inr ⟨rfl, rfl⟩)).2 "m" (by decide) rfl⟩

/-- The matte paint has the finish that the value stands for, which is found where the field is
declared to be a finish, and not found where it may be anything. -/
theorem mattePaint_disagrees :
    paints.Loosens loosePaints ∧
      paints.accepts (.entity "Paint") [matte .equal] mattePaint = .ok true ∧
      loosePaints.accepts (.entity "Paint") [matte .equal] mattePaint = .ok false :=
  ⟨paints_loosens, rfl, rfl⟩

end PagedQuery
