import Mathlib.Tactic
import PagedQuery.Proofs.Ordering.Undecided

/-!
# Values that clash

Two instances of one declared type have an order, save in a few cases: members of an enumeration
that are neither numbers nor texts, a not-a-number among decimal numbers, a day and a moment, and
two times of which one has an offset.
-/

namespace PagedQuery

open PagedQuery.Number PagedQuery.Time

/-- Instances of a declared type that have no order. -/
inductive Clash (s : Schema) : FieldType → Value → Value → Prop
  | unordered {name e e' n n' : String} {base base' : EnumBase} {v v' : Value}
    (h : s.isOrdered (.enumeration name) = false) :
    Clash s (.enumeration name) (.member e base n v) (.member e' base' n' v')
  | notANumber {d d' : Decimal} (h : d.isNotANumber ∨ d'.isNotANumber) :
    Clash s (.scalar .decimal) (.decimal d) (.decimal d')
  | dayAndMoment (d : Date) (t : DateTime) : Clash s (.scalar .date) (.date d) (.dateTime t)
  | momentAndDay (t : DateTime) (d : Date) : Clash s (.scalar .date) (.dateTime t) (.date d)
  | offsets {t t' : TimeOfDay} (h : t.offset.isSome ≠ t'.offset.isSome) :
    Clash s (.scalar .time) (.time t) (.time t')

/-- Whether attributes of the type hold values of several types. -/
def FieldType.isMixed : FieldType → Bool
  | .any | .object | .union .. => true
  | _ => false

/-! ## The order of two values -/

section Order

variable {a b : Value}

/-- Values of which every comparison has an answer have an order. -/
theorem exists_order (h : ∀ op, ∃ r, Value.compare op (align a b).1 (align a b).2 = .ok r) :
    ∃ o, Value.order a b = .ok o := by
  obtain ⟨greater, hgreater⟩ := h .greater
  obtain ⟨less, hless⟩ := h .less
  unfold Value.order
  split
  · exact ⟨_, rfl⟩
  · dsimp only
    rw [hgreater, hless]
    exact ⟨_, rfl⟩

theorem order_eq_error {e : CompareError} (ha : a.isNull = false) (hb : b.isNull = false)
    (h : Value.compare .greater (align a b).1 (align a b).2 = .error e) :
    Value.order a b = .error (.incomparable e) := by
  unfold Value.order
  rw [ha, hb]
  dsimp only
  rw [h]
  rfl

theorem isAtomic_of_number? {m : Decimal × Bool} (h : a.number? = some m) : a.isAtomic := by
  cases a <;> first | rfl | cases h

/-- Numbers have an order unless one of them is a decimal number. -/
theorem exists_order_of_numbers {d d' : Decimal} (ha : a.number? = some (d, false))
    (hb : b.number? = some (d', false)) : ∃ o, Value.order a b = .ok o := by
  refine exists_order fun op => ?_
  rw [compare_eq_compareAtoms (isAtomic_align (isAtomic_of_number? ha) b)]
  simp only [compareAtoms, (align_number a b).1, (align_number a b).2, ha, hb, compareNumbers]
  cases compareDecimals d d' <;> exact ⟨_, rfl⟩

theorem exists_order_of_texts {t t' : String} (ha : a.text? = some t) (hb : b.text? = some t') :
    ∃ o, Value.order a b = .ok o :=
  ⟨_, Kind.order_eq (k := .text) (.inr (Option.isSome_of_eq_some ha))
    (.inr (Option.isSome_of_eq_some hb))⟩

end Order

/-! ## Scalars -/

namespace Scalar

variable {k : Scalar} {v : Value}

theorem number?_of_isInstance (hk : k = .int ∨ k = .float ∨ k = .bool) (h : k.isInstance v) :
    ∃ d, v.number? = some (d, false) := by
  unfold isInstance at h
  split at h <;> first | exact ⟨_, rfl⟩ | simp at hk | cases h

theorem text?_of_isInstance (h : Scalar.text.isInstance v) : ∃ t, v.text? = some t := by
  cases v with
  | member e base n v => cases base <;> cases v <;> first | exact ⟨_, rfl⟩ | cases h
  | _ => first | exact ⟨_, rfl⟩ | cases h

end Scalar

/-- Two values clash and their comparison fails, or they do not and have an order. -/
def Settled (s : Schema) (type : FieldType) (a b : Value) : Prop :=
  (Clash s type a b ∧ ∃ e, Value.order a b = .error (.incomparable e)) ∨
    (¬ Clash s type a b ∧ ∃ o, Value.order a b = .ok o)

section Settled

variable {s : Schema} {a b : Value}

theorem settled_decimal (ha : Scalar.decimal.isInstance a) (hb : Scalar.decimal.isInstance b) :
    Settled s (.scalar .decimal) a b := by
  cases a with
  | decimal d =>
    cases b with
    | decimal d' =>
      by_cases h : d.isNotANumber ∨ d'.isNotANumber
      · refine .inl ⟨.notANumber h, .notANumber, order_eq_error rfl rfl ?_⟩
        exact compare_align_eq_notANumber_iff rfl |>.mpr
          ⟨(d, true), (d', true), rfl, rfl, .inl rfl, h, nofun⟩
      · refine .inr ⟨?_, exists_order fun op => ?_⟩
        · rintro ⟨⟩
          exact h ‹_›
        · cases hr : Value.compare op (align (.decimal d) (.decimal d')).1
              (align (.decimal d) (.decimal d')).2 with
          | ok r => exact ⟨r, rfl⟩
          | error e =>
            have hnumbers : compareNumbers op (d, true) (d', true) = .error e := hr
            exact (h (compareNumbers_eq_error_iff.mp hnumbers).2.2.1).elim
    | _ => cases hb
  | _ => cases ha

theorem settled_date (ha : Scalar.date.isInstance a) (hb : Scalar.date.isInstance b) :
    Settled s (.scalar .date) a b := by
  cases a with
  | date d =>
    cases b with
    | date d' => exact .inr ⟨nofun, exists_order fun op => ⟨_, rfl⟩⟩
    | dateTime t => exact .inl ⟨.dayAndMoment d t, _, rfl⟩
    | _ => cases hb
  | dateTime t =>
    cases b with
    | date d => exact .inl ⟨.momentAndDay t d, _, rfl⟩
    | dateTime t' =>
      exact .inr ⟨nofun, _, Kind.order_eq (k := .moment) (.inr rfl) (.inr rfl)⟩
    | _ => cases hb
  | _ => cases ha

theorem settled_time (ha : Scalar.time.isInstance a) (hb : Scalar.time.isInstance b) :
    Settled s (.scalar .time) a b := by
  cases a with
  | time t =>
    cases b with
    | time t' =>
      have hcompare : ∀ op, Value.compare op (align (.time t) (.time t')).1
          (align (.time t) (.time t')).2 =
            compareOffsets op "times" t.offset t'.offset (Ord.compare t.wallMicros t'.wallMicros)
              (compareAwareTimes t t') := fun op => rfl
      by_cases h : t.offset.isSome = t'.offset.isSome
      · refine .inr ⟨?_, exists_order fun op => ?_⟩
        · rintro ⟨⟩
          exact ‹t.offset.isSome ≠ t'.offset.isSome› h
        · rw [hcompare]
          unfold compareOffsets
          split
          · exact ⟨_, rfl⟩
          · exact ⟨_, rfl⟩
          · cases ht : t.offset <;> cases ht' : t'.offset <;> simp_all
      · refine .inl ⟨.offsets h, .mixedOffsets "times", order_eq_error rfl rfl ?_⟩
        rw [hcompare]
        unfold compareOffsets
        cases ht : t.offset <;> cases ht' : t'.offset <;> simp_all
    | _ => cases hb
  | _ => cases ha

theorem settled_scalar {k : Scalar} (ha : k.isInstance a) (hb : k.isInstance b) :
    Settled s (.scalar k) a b := by
  cases k with
  | text =>
    obtain ⟨t, ht⟩ := Scalar.text?_of_isInstance ha
    obtain ⟨t', ht'⟩ := Scalar.text?_of_isInstance hb
    exact .inr ⟨nofun, exists_order_of_texts ht ht'⟩
  | int | float | bool =>
    obtain ⟨d, hd⟩ := Scalar.number?_of_isInstance (by decide) ha
    obtain ⟨d', hd'⟩ := Scalar.number?_of_isInstance (by decide) hb
    exact .inr ⟨nofun, exists_order_of_numbers hd hd'⟩
  | decimal => exact settled_decimal ha hb
  | date => exact settled_date ha hb
  | time => exact settled_time ha hb
  | dateTime =>
    refine .inr ⟨nofun, _, Kind.order_eq (k := .moment) (.inr ?_) (.inr ?_)⟩
    · cases a <;> first | rfl | cases ha
    · cases b <;> first | rfl | cases hb
  | span | uuid | bytes =>
    refine .inr ⟨nofun, exists_order fun op => ?_⟩
    cases a <;> cases ha
    cases b <;> cases hb
    exact ⟨_, rfl⟩

theorem declared_of_isInstance {name e n : String} {base : EnumBase} {v : Value}
    (h : s.isInstance (.enumeration name) (.member e base n v)) :
    ∃ declared, s.enumeration? name = some declared ∧ declared.base = base ∧ base.fits v := by
  simp only [Schema.isInstance, Bool.and_eq_true] at h
  obtain ⟨⟨-, hbase⟩, hfits⟩ := h
  cases henum : s.enumeration? name with
  | none => simp [henum] at hbase
  | some declared =>
    rw [henum, Option.any_some, beq_iff_eq] at hbase
    exact ⟨declared, rfl, hbase, hfits⟩

theorem isOrdered_enumeration {name : String} {declared : Enumeration}
    (h : s.enumeration? name = some declared) :
    s.isOrdered (.enumeration name) = (declared.base != .plain) := by
  rw [Schema.isOrdered, Schema.isEnumerationOf, h, Option.any_some]
  cases declared.base <;> rfl

/-- Members that are numbers or texts have an order. -/
theorem exists_order_of_members {e e' n n' : String} {base : EnumBase} {v v' : Value}
    (hbase : base ≠ .plain) (h : base.fits v) (h' : base.fits v') :
    ∃ o, Value.order (.member e base n v) (.member e' base n' v') = .ok o := by
  cases base with
  | plain => exact (hbase rfl).elim
  | integer | float =>
    cases v <;> cases h
    cases v' <;> cases h'
    exact exists_order_of_numbers rfl rfl
  | string | text =>
    cases v <;> cases h
    cases v' <;> cases h'
    exact exists_order_of_texts rfl rfl

/-- Members of one enumeration clash unless they are numbers or texts. -/
theorem settled_enumeration {name : String} (ha : s.isInstance (.enumeration name) a)
    (hb : s.isInstance (.enumeration name) b) : Settled s (.enumeration name) a b := by
  cases a with
  | member e base n v =>
    cases b with
    | member e' base' n' v' =>
      obtain ⟨declared, hdeclared, rfl, hfits⟩ := declared_of_isInstance ha
      obtain ⟨declared', hdeclared', rfl, hfits'⟩ := declared_of_isInstance hb
      obtain rfl : declared = declared' := Option.some.inj (hdeclared.symm.trans hdeclared')
      have hordered := isOrdered_enumeration hdeclared
      by_cases hplain : declared.base = .plain
      · have hclash : s.isOrdered (.enumeration name) = false := by rw [hordered, hplain]; rfl
        refine .inl ⟨.unordered hclash, .unsupported .greater e e', order_eq_error rfl rfl ?_⟩
        rw [hplain]
        rfl
      · refine .inr ⟨?_, exists_order_of_members hplain hfits hfits'⟩
        rintro ⟨h⟩
        rw [hordered, bne_eq_false_iff_eq] at h
        exact hplain h
    | _ => cases hb
  | _ => cases ha

/-- Two instances of a declared type have an order unless they clash. -/
theorem settled_of_isInstance {type : FieldType} (hmixed : type.isMixed = false)
    (ha : s.isInstance type a) (hb : s.isInstance type b) : Settled s type a b := by
  cases type with
  | scalar k => exact settled_scalar ha hb
  | enumeration name => exact settled_enumeration ha hb
  | code =>
    refine .inr ⟨nofun, _, Kind.order_eq (k := .text) (.inr ?_) (.inr ?_)⟩
    · cases a <;> first | rfl | cases ha
    · cases b <;> first | rfl | cases hb
  | any | object => cases hmixed
  | union => cases hmixed
  | _ => cases ha

end Settled

end PagedQuery
