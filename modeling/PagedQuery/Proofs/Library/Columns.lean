import PagedQuery.Plan.Predicate
import PagedQuery.Proofs.Ordering.Clauses
import PagedQuery.Proofs.Sources.Reading
import PagedQuery.Proofs.Time.Reading
import PagedQuery.Sample.Library

/-!
# Values in columns

A column holds values of its declared type as cells. Cells of whole numbers, texts, truth values,
days and moments are in the order of the values, so that sorting by cells is sorting by values, and
comparing a cell with the cell of a value is comparing with the value.
-/

namespace PagedQuery

open PagedQuery.Sample PagedQuery.Text PagedQuery.Time

/-- The values that a column of a declared type takes: whole numbers of 64 bits, moments in
universal time or of no known offset, prices as decimals. -/
inductive Stores : FieldType → Value → Prop
  | int {n : Int} (h : Cell.holdsInteger n) : Stores (.scalar .int) (.int n)
  | text {s : String} : Stores (.scalar .text) (.text s)
  | bool {b : Bool} : Stores (.scalar .bool) (.bool b)
  | date {d : Date} (h : d.valid) : Stores (.scalar .date) (.date d)
  | dateTime {t : DateTime} (h : t.valid) (universal : t.isUniversal) :
    Stores (.scalar .dateTime) (.dateTime t)
  | decimal {d : Number.Decimal} : Stores (.scalar .float) (.decimal d)
  | member {e name : String} {v : Value} : Stores (.enumeration e) (.member e .plain name v)

/-- A value of a column, which may be missing. -/
def Holds (type : FieldType) (v : Value) : Prop := v = .null ∨ Stores type v

/-- Whether a column of a type takes a value. -/
def FieldType.takes : FieldType → Value → Bool
  | .scalar .int, .int n => Cell.holdsInteger n
  | .scalar .text, .text _ | .scalar .bool, .bool _ | .scalar .float, .decimal _ => true
  | .scalar .date, .date d => d.valid
  | .scalar .dateTime, .dateTime t => t.valid && t.isUniversal
  | .enumeration e, .member e' .plain _ _ => e == e'
  | _, _ => false

theorem stores_iff {type : FieldType} {v : Value} : Stores type v ↔ type.takes v := by
  constructor
  · intro h
    cases h <;> simp_all [FieldType.takes]
  · intro h
    unfold FieldType.takes at h
    split at h
    · exact .int h
    · exact .text
    · exact .bool
    · exact .decimal
    · exact .date h
    · exact .dateTime (Bool.and_elim_left h) (Bool.and_elim_right h)
    · exact beq_iff_eq.mp h ▸ .member
    · cases h

theorem Value.isNull_iff {v : Value} : v.isNull ↔ v = .null := by
  cases v <;> simp [isNull]

instance (type : FieldType) (v : Value) : Decidable (Stores type v) :=
  decidable_of_iff _ stores_iff.symm

instance (type : FieldType) (v : Value) : Decidable (Holds type v) :=
  decidable_of_iff (v.isNull ∨ Stores type v) (or_congr Value.isNull_iff Iff.rfl)

namespace FieldType

/-- Types whose cells are in the order of their values. -/
def isSortable : FieldType → Bool
  | .scalar .int | .scalar .text | .scalar .bool | .scalar .date | .scalar .dateTime => true
  | _ => false

/-- Types whose values both kinds of sources compare by an operator: by all five of them, or by
equality only. -/
def comparesBy : FilterOperator → FieldType → Bool
  | .compare _, .scalar .int | .compare _, .scalar .text | .compare _, .scalar .date
  | .compare _, .scalar .dateTime => true
  | .compare .equal, .scalar .bool | .compare .equal, .enumeration _ => true
  | _, _ => false

/-- The kind of the values of a sortable type. -/
def kind : FieldType → Kind
  | .scalar .text => .text
  | .scalar .date => .day
  | .scalar .dateTime => .moment
  | _ => .number

end FieldType

variable {type : FieldType} {v w : Value}

@[simp] theorem cellOf_null : cellOf .null = .null := rfl

@[simp] theorem cellOf_text (s : String) : cellOf (.text s) = .text s := rfl

@[simp] theorem cellOf_date (d : Date) : cellOf (.date d) = .text d.text := rfl

@[simp] theorem cellOf_dateTime (t : DateTime) : cellOf (.dateTime t) = .text (Cell.momentText t) :=
  rfl

@[simp] theorem cellOf_bool (b : Bool) : cellOf (.bool b) = .integer (if b then 1 else 0) := rfl

theorem cellOf_int {n : Int} (h : Cell.holdsInteger n) : cellOf (.int n) = .integer n := by
  simp [cellOf, Cell.ofValue, Cell.ofInteger, h]

namespace Cell

theorem order_integer {m n : Int} {p q : Kind.number.Position}
    (hm : (Number.Decimal.ofInt m).position? = some p)
    (hn : (Number.Decimal.ofInt n).position? = some q) :
    order (.integer m) (.integer n) = compare p q := by
  change (compareDecimals (.ofInt m) (.ofInt n)).getD .eq = _
  rw [compareDecimals_eq hm hn]
  rfl

theorem order_null_left (c : Cell) : order .null c = compare 0 c.rank := order_of_text? (.inl rfl)

theorem order_null_right (c : Cell) : order c .null = compare c.rank 0 := by
  have hswap : order c .null = (order .null c).swap := Std.OrientedCmp.eq_swap
  rw [hswap, order_null_left]
  exact Std.OrientedOrd.eq_swap.symm

theorem compare?_eq_some {a b : Cell} (ha : a ≠ .null) (hb : b ≠ .null) (op : Comparison) :
    compare? op a b = some (op.holds (order a b)) := by
  unfold compare?
  split
  · exact (ha rfl).elim
  · exact (hb rfl).elim
  · rfl

end Cell

namespace Stores

theorem isNull_eq_false (h : Stores type v) : v.isNull = false := by
  cases h <;> rfl

/-- Storage takes the value. -/
theorem ofValue_eq (h : Stores type v) : Cell.ofValue v = .ok (cellOf v) := by
  cases h with
  | int h => simp [cellOf, Cell.ofValue, Cell.ofInteger, h]
  | _ => rfl

theorem exists_position (ht : type.isSortable) (h : Stores type v) :
    ∃ p, type.kind.position? v = some p := by
  cases h with
  | decimal | member => cases ht
  | _ => exact ⟨_, rfl⟩

/-- Cells are in the order of the values. -/
theorem order_eq (ht : type.isSortable) (hv : Stores type v) (hw : Stores type w)
    {p q : type.kind.Position} (hp : type.kind.position? v = some p)
    (hq : type.kind.position? w = some q) : Cell.order (cellOf v) (cellOf w) = compare p q := by
  cases hv with
  | int hm =>
    cases hw with
    | int hn =>
      rw [cellOf_int hm, cellOf_int hn]
      exact Cell.order_integer hp hq
  | text =>
    cases hw with
    | text =>
      obtain rfl := Option.some.inj hp
      obtain rfl := Option.some.inj hq
      exact (LinearOrder.compare_eq_compareOfLessAndEq _ _).symm
  | bool =>
    cases hw with
    | bool => exact Cell.order_integer hp hq
  | date hd =>
    cases hw with
    | date he =>
      obtain rfl := Option.some.inj hp
      obtain rfl := Option.some.inj hq
      exact Date.compareText_text hd he
  | dateTime hvalid huniversal =>
    cases hw with
    | dateTime hvalid' huniversal' =>
      obtain rfl := Option.some.inj hp
      obtain rfl := Option.some.inj hq
      exact Cell.compareText_momentText hvalid hvalid' huniversal huniversal'
  | decimal | member => cases ht

theorem rank_pos (ht : type.isSortable) (h : Stores type v) : 0 < (cellOf v).rank := by
  cases h with
  | int h =>
    rw [cellOf_int h]
    exact Nat.zero_lt_one
  | bool => exact Nat.zero_lt_one
  | text | date | dateTime => exact Nat.zero_lt_two
  | decimal | member => cases ht

theorem cellOf_ne_null (ht : type.isSortable) (h : Stores type v) : cellOf v ≠ .null := by
  intro hnull
  have hpos := h.rank_pos ht
  rw [hnull] at hpos
  exact (Nat.lt_irrefl 0 hpos).elim

end Stores

namespace Holds

theorem admits (ht : type.isSortable) (h : Holds type v) : type.kind.Admits v := by
  rcases h with rfl | h
  · exact .inl rfl
  · obtain ⟨p, hp⟩ := h.exists_position ht
    exact .inr (hp ▸ rfl)

/-- Cells are in the order of the values, the missing ones first. -/
theorem order_eq (ht : type.isSortable) (hv : Holds type v) (hw : Holds type w) :
    Cell.order (cellOf v) (cellOf w) = compare (type.kind.rank v) (type.kind.rank w) := by
  have hnull : type.kind.position? .null = none := Kind.position?_of_isNull rfl
  rcases hv with rfl | hv
  · rcases hw with rfl | hw
    · exact (compare_eq_iff_eq.mpr rfl).symm
    · obtain ⟨q, hq⟩ := hw.exists_position ht
      rw [cellOf_null, Cell.order_null_left, compare_lt_iff_lt.mpr (hw.rank_pos ht), Kind.rank,
        Kind.rank, hnull, hq]
      exact (compare_lt_iff_lt.mpr (WithBot.bot_lt_coe q)).symm
  · obtain ⟨p, hp⟩ := hv.exists_position ht
    rcases hw with rfl | hw
    · rw [cellOf_null, Cell.order_null_right, compare_gt_iff_gt.mpr (hv.rank_pos ht), Kind.rank,
        Kind.rank, hnull, hp]
      exact (compare_gt_iff_gt.mpr (WithBot.bot_lt_coe p)).symm
    · obtain ⟨q, hq⟩ := hw.exists_position ht
      rw [hv.order_eq ht hw hp hq, Kind.rank, Kind.rank, hp, hq]
      exact compare_congr WithBot.coe_lt_coe.symm WithBot.coe_lt_coe.symm

end Holds

/-- What an operator says about the cells of values. -/
def meetsCell (operator : FilterOperator) (v w : Value) : Bool :=
  Criterion.meets operator (cellOf v) (cellOf w) == some true

/-- A type that is compared is sortable, or compared by equality only. -/
theorem FieldType.exists_comparison {operator : FilterOperator} (h : type.comparesBy operator) :
    ∃ op, operator = .compare op ∧
      (type.isSortable ∨ op = .equal ∧ ∃ e, type = .enumeration e) := by
  unfold comparesBy at h
  split at h
  case h_6 => exact ⟨_, rfl, .inr ⟨rfl, _, rfl⟩⟩
  case h_7 => cases h
  all_goals exact ⟨_, rfl, .inl rfl⟩

namespace Stores

theorem meetsCell_eq (ht : type.isSortable) (hv : Stores type v) (hw : Stores type w)
    (op : Comparison) {p q : type.kind.Position} (hp : type.kind.position? v = some p)
    (hq : type.kind.position? w = some q) :
    meetsCell (.compare op) v w = op.holds (compare p q) := by
  change (Cell.compare? op (cellOf v) (cellOf w) == some true) = _
  rw [Cell.compare?_eq_some (hv.cellOf_ne_null ht) (hw.cellOf_ne_null ht), hv.order_eq ht hw hp hq]
  generalize op.holds (compare p q) = holds
  cases holds <;> rfl

/-- Members of an enumeration are equal if their names are. -/
theorem compare_member {e : String} (hv : Stores (.enumeration e) v)
    (hw : Stores (.enumeration e) w) :
    Value.compare .equal (align v w).1 (align v w).2 = .ok (meetsCell (.compare .equal) v w) := by
  cases hv with
  | @member _ name =>
    cases hw with
    | @member _ name' =>
      change Except.ok (e == e && name == name') =
        .ok (some (compareText name name' == .eq) == some true)
      rw [beq_self_eq_true, Bool.true_and]
      congr 1
      by_cases hname : name = name'
      · simp [hname]
      · have hne : compareText name name' ≠ .eq := by
          unfold compareText compareOfLessAndEq
          rw [if_neg hname]
          split <;> decide
        simp [hname, hne]

end Stores

namespace Kind

/-- Whether two values of a kind stand to each other as a comparison says. -/
def relates (k : Kind) (op : Comparison) (v w : Value) : Bool :=
  match k.position? v, k.position? w with
  | some p, some q => op.holds (compare p q)
  | _, _ => false

variable {k : Kind} {op : Comparison}

theorem relates_eq {p q : k.Position} (hp : k.position? v = some p) (hq : k.position? w = some q) :
    k.relates op v w = op.holds (compare p q) := by
  rw [relates, hp, hq]

@[simp] theorem relates_null_left : k.relates op .null w = false := by
  rw [relates, position?_of_isNull rfl]

/-- Falsehood stands before truth. -/
@[simp] theorem relates_bool (a b : Bool) :
    number.relates op (.bool a) (.bool b) = op.holds (compare a b) := by
  cases a <;> cases b <;> cases op <;> decide +kernel

@[simp] theorem relates_dateTime (t u : DateTime) :
    moment.relates op (.dateTime t) (.dateTime u) = op.holds (compare t.instant u.instant) := rfl

end Kind

namespace Holds

/-- Cells that a filter compares say what the positions of their values say. -/
theorem meetsCell_eq_relates (ht : type.isSortable) (hv : Holds type v) (hw : Stores type w)
    (op : Comparison) : meetsCell (.compare op) v w = type.kind.relates op v w := by
  rcases hv with rfl | hv
  · rw [Kind.relates_null_left]
    rfl
  · obtain ⟨p, hp⟩ := hv.exists_position ht
    obtain ⟨q, hq⟩ := hw.exists_position ht
    rw [hv.meetsCell_eq ht hw op hp hq, Kind.relates_eq hp hq]

end Holds

/-- A filter that compares the values of a column with one of them. -/
structure BoundFilter.Compares (b : BoundFilter) : Prop where
  comparesBy : b.path.valueType.comparesBy b.clause.operator
  stores : Stores b.path.valueType b.value
  undeferred : b.deferred = false

namespace BoundFilter

variable {b : BoundFilter} {entity : Value} {op : Comparison}

/-- A filter that compares values tests one that is there by comparing it. -/
theorem holds_of_isNull_eq_false (hop : b.clause.operator = .compare op)
    (hundeferred : b.deferred = false) (hnull : (b.path.get entity).isNull = false) (s : Schema) :
    b.holds s entity = b.compare op (b.path.get entity) b.value := by
  simp only [holds, hnull, Bool.false_eq_true, if_false, test, hop, expected, hundeferred,
    Bool.false_and]

/-- A filter over a sortable type compares values by their positions. -/
theorem holds_eq_relates {q : type.kind.Position} (ht : type.isSortable)
    (hop : b.clause.operator = .compare op) (hundeferred : b.deferred = false)
    (hq : type.kind.position? b.value = some q) (hv : Holds type (b.path.get entity)) (s : Schema) :
    b.holds s entity = .ok (type.kind.relates op (b.path.get entity) b.value) := by
  rcases hv with hnull | hv
  · rw [holds, hnull, Kind.relates_null_left]
    rfl
  · obtain ⟨p, hp⟩ := hv.exists_position ht
    rw [holds_of_isNull_eq_false hop hundeferred hv.isNull_eq_false, BoundFilter.compare,
      Kind.relates_eq hp hq]
    simp only [Kind.compare_align_eq hp hq]

/-- On the values of a column the filter says what the comparison of their cells says. -/
theorem Compares.holds_eq (h : b.Compares) (s : Schema)
    (hv : Holds b.path.valueType (b.path.get entity)) :
    b.holds s entity = .ok (meetsCell b.clause.operator (b.path.get entity) b.value) := by
  obtain ⟨op, hop, ht | ⟨rfl, e, he⟩⟩ := FieldType.exists_comparison h.comparesBy
  · obtain ⟨q, hq⟩ := h.stores.exists_position ht
    rw [hop, hv.meetsCell_eq_relates ht h.stores]
    exact holds_eq_relates ht hop h.undeferred hq hv s
  · have hstores := h.stores
    rw [he] at hv hstores
    rw [hop]
    rcases hv with hnull | hv
    · rw [holds, hnull]
      rfl
    · rw [holds_of_isNull_eq_false hop h.undeferred hv.isNull_eq_false, BoundFilter.compare]
      simp only [hv.compare_member hstores]

end BoundFilter

end PagedQuery
