import Mathlib.Tactic
import PagedQuery.Plan.Basic

/-!
# Instances of declared types

Which values an attribute of a declared type holds. A type holds the values of the types that extend
it as well: truth values are integers, moments are days, and members of enumerations can be numbers
or texts.
-/

namespace PagedQuery

open PagedQuery.Number

/-- Whether members of an enumeration can have a value. -/
def EnumBase.fits : EnumBase → Value → Bool
  | .plain, _ => true
  | .integer, .int _ | .float, .float _ | .string, .text _ | .text, .text _ => true
  | _, _ => false

/-- Whether a value belongs to a scalar type or to one that extends it. -/
def Scalar.isInstance : Scalar → Value → Bool
  | .text, .text _ | .text, .code _ => true
  | .text, .member _ .string _ (.text _) | .text, .member _ .text _ (.text _) => true
  | .int, .int _ | .int, .bool _ | .int, .member _ .integer _ (.int _) => true
  | .float, .float _ | .float, .member _ .float _ (.float _) => true
  | .bool, .bool _ | .decimal, .decimal _ | .dateTime, .dateTime _ => true
  | .date, .date _ | .date, .dateTime _ => true
  | .time, .time _ | .span, .span _ | .uuid, .uuid _ | .bytes, .bytes _ => true
  | _, _ => false

namespace Value

/-- Whether a value is neither a collection nor an entity. -/
def isAtomic : Value → Bool
  | .list _ | .tuple _ | .set _ | .dict _ | .enclosing _ | .entity .. | .other _ => false
  | _ => true

/-- Whether an atomic value can be written out: integers are up to a number of digits. -/
def hasText : Value → Bool
  | .int n | .wrapped n | .member _ .integer _ (.int n) => n.natAbs < 10 ^ digitLimit
  | v => v.isAtomic

variable {v : Value}

theorem isAtomic_of_hasText (h : v.hasText) : v.isAtomic := by
  unfold hasText at h
  split at h <;> first | rfl | exact h

theorem not_isLong {n : ℤ} (h : decide (n.natAbs < 10 ^ digitLimit) = true) : ¬ isLong n := by
  unfold isLong
  generalize digitLimit = limit at h ⊢
  simpa using h

/-- Such a value has a text. -/
theorem written_of_hasText (h : v.hasText) : v.written = .ok v.toText := by
  have hnone : v.unwritable? = none := by
    unfold hasText at h
    unfold unwritable?
    split at h
    · simp only [unquotable?, unshown?, showsLong]
      exact if_neg (not_isLong h)
    · simp only [unquotable?, unshown?, showsLong]
      exact if_neg (not_isLong h)
    · exact if_neg (not_isLong h)
    · next hint hwrapped hmember =>
      split
      · exact (hmember _ _ _ rfl).elim
      · rfl
      · next hother =>
        cases v with
        | int n => exact (hint n rfl).elim
        | wrapped n => exact (hwrapped n rfl).elim
        | member e base n w => exact (hother e base n w rfl).elim
        | _ => first | rfl | cases h
  rw [written, hnone]

theorem unwritable?_int (n : ℤ) :
    (Value.int n).unwritable? = if isLong n then some .longInteger else none := rfl

theorem unwritable?_int_eq_none_iff {n : ℤ} :
    (Value.int n).unwritable? = none ↔ isLong n = false := by
  rw [unwritable?_int]
  cases isLong n <;> simp

theorem isAtomic_of_isNull (h : v.isNull) : v.isAtomic := by
  cases v <;> first | rfl | cases h

theorem isSequence_of_isAtomic (h : v.isAtomic) : v.isSequence = false := by
  cases v <;> first | rfl | cases h

end Value

namespace Schema

variable (s : Schema)

mutual
/-- Whether a value belongs to a declared type. An attribute that takes several types or any holds
values that can be written out. -/
def isInstance : FieldType → Value → Bool
  | .scalar k, v => k.isInstance v
  | .code, .code _ => true
  | .enumeration name, .member e base _ v =>
    e == name && (s.enumeration? name).any (·.base == base) && base.fits v
  | .any, v | .object, v => v.hasText
  | .union _ members, v => isSomeInstance members v && v.hasText
  | _, _ => false
/-- Whether a value belongs to one of several types. -/
def isSomeInstance : List FieldType → Value → Bool
  | [], _ => false
  | t :: ts, v => isInstance t v || isSomeInstance ts v
end

/-- An attribute is missing or holds an instance of its type. -/
def Admits (type : FieldType) (v : Value) : Prop := v.isNull ∨ s.isInstance type v

instance (type : FieldType) (v : Value) : Decidable (s.Admits type v) :=
  inferInstanceAs (Decidable (_ ∨ _))

end Schema

theorem Scalar.isAtomic_of_isInstance {k : Scalar} {v : Value} (h : k.isInstance v) :
    v.isAtomic := by
  cases v <;> first | rfl | (cases k <;> cases h)

theorem Schema.isAtomic_of_admits {s : Schema} {type : FieldType} {v : Value}
    (h : s.Admits type v) : v.isAtomic := by
  rcases h with h | h
  · exact Value.isAtomic_of_isNull h
  · unfold isInstance at h
    split at h
    · exact Scalar.isAtomic_of_isInstance h
    · rfl
    · rfl
    · exact Value.isAtomic_of_hasText h
    · exact Value.isAtomic_of_hasText h
    · rw [Bool.and_eq_true] at h
      exact Value.isAtomic_of_hasText h.2
    · cases h

/-- What a field of texts holds has a text, or is missing and shown as such. -/
theorem Schema.written_of_admits {s : Schema} {type : FieldType} {v : Value}
    (htype : s.holdsText type) (h : s.Admits type v) : v.written = .ok v.toText := by
  obtain h | h := h
  · cases v with
    | null => rfl
    | _ => cases h
  · unfold holdsText at htype
    split at htype
    · cases v with
      | text t => rfl
      | code t => rfl
      | member e base n w => cases base <;> first | rfl | cases h
      | _ => cases h
    · cases v with
      | code s => rfl
      | _ => cases h
    · exact Value.written_of_hasText h
    · exact Value.written_of_hasText h
    · next name =>
      cases v with
      | member e base n w =>
        unfold isInstance at h
        simp only [Bool.and_eq_true, Option.any_eq_true] at h
        obtain ⟨⟨-, e', he', hbase⟩, -⟩ := h
        rw [isEnumerationOf, he', Option.any_some, eq_of_beq hbase] at htype
        cases base <;> first | rfl | cases htype
      | _ => cases h
    · unfold isInstance at h
      rw [Bool.and_eq_true] at h
      exact Value.written_of_hasText h.2
    · cases htype

end PagedQuery
