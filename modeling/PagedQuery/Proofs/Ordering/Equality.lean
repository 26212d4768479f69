import PagedQuery.Proofs.Ordering.Kind
import PagedQuery.Proofs.Ordering.Undecided

/-!
# Values told apart by keys

Where only equality counts, a value stands for a key: a number for its magnitude, a text for its
characters, a day for its place in the calendar, a member for its name. Two such values are equal
exactly if they have one key. What is no number has no key, and neither have moments, which equal
no day.
-/

namespace PagedQuery

open PagedQuery.Number

/-- What is the same of equal values. -/
inductive EqualityKey
  | number (magnitude : WithBot (WithTop ℚ))
  | text (s : String)
  | day (ordinal : ℕ)
  | uuid (n : ℕ)
  | member (enumeration name : String)

namespace Value

def key? (v : Value) : Option EqualityKey :=
  match v.number?, v.text? with
  | some d, _ => d.1.position?.map .number
  | none, some s => some (.text s)
  | none, none =>
    match v with
    | .date d => some (.day d.ordinal)
    | .uuid n => some (.uuid n)
    | .member e _ n _ => some (.member e n)
    | _ => none

/-- Whether a value is one that is told apart by its key. -/
def isKeyed : Value → Bool
  | .bool _ | .int _ | .float _ | .text _ | .code _ | .date _ | .uuid _ | .member .. => true
  | _ => false

variable {v w u : Value}

theorem isAtomic_of_isKeyed (h : v.isKeyed) : v.isAtomic := by
  cases v <;> first | rfl | cases h

/-- Of keyed values none is a decimal number. -/
theorem snd_of_number? (h : v.isKeyed) {d : Decimal × Bool} (hd : v.number? = some d) :
    d.2 = false := by
  cases v with
  | bool b | int n | float x =>
    cases hd
    rfl
  | member e base n w => cases base <;> cases w <;> first | cases hd; rfl | cases hd
  | decimal d => cases h
  | _ => cases hd

/-- What is neither a number nor a text. -/
theorem cases_of_isKeyed (h : v.isKeyed) (hnumber : v.number? = none) (htext : v.text? = none) :
    (∃ d, v = .date d) ∨ (∃ n, v = .uuid n) ∨ ∃ e base n w, v = .member e base n w := by
  cases v with
  | date d => exact .inl ⟨d, rfl⟩
  | uuid n => exact .inr (.inl ⟨n, rfl⟩)
  | member e base n w => exact .inr (.inr ⟨e, base, n, w, rfl⟩)
  | bool b | int n | float x => cases hnumber
  | text s | code s => cases htext
  | _ => cases h

theorem compareNumbers_equal {m n : Decimal × Bool} (hm : m.2 = false) (hn : n.2 = false) :
    ∃ b, compareNumbers .equal m n = .ok b ∧
      (b ↔ m.1.position?.isSome ∧ m.1.position? = n.1.position?) := by
  unfold compareNumbers
  cases hp : m.1.position? with
  | none =>
    have hnone : compareDecimals m.1 n.1 = none :=
      compareDecimals_eq_none_iff.mpr (.inl (Decimal.position?_eq_none_iff.mp hp))
    exact ⟨false, by simp [hnone, hm, hn], by simp⟩
  | some p =>
    cases hq : n.1.position? with
    | none =>
      have hnone : compareDecimals m.1 n.1 = none :=
        compareDecimals_eq_none_iff.mpr (.inr (Decimal.position?_eq_none_iff.mp hq))
      exact ⟨false, by simp [hnone, hm, hn], by simp⟩
    | some q =>
      rw [compareDecimals_eq hp hq]
      refine ⟨_, rfl, ?_⟩
      simp [Comparison.holds]

/-- A key of a kind of its own. -/
theorem key?_of_number? {d : Decimal × Bool} (h : v.number? = some d) :
    v.key? = d.1.position?.map .number := by
  simp only [key?, h]

theorem key?_of_text? {s : String} (h : v.text? = some s) : v.key? = some (.text s) := by
  simp only [key?, Kind.number?_of_text? h, h]

/-- A keyed value that is no number has another key than a number. -/
theorem key?_ne_number (h : v.number? = none) (p : WithBot (WithTop ℚ)) :
    v.key? ≠ some (.number p) := by
  unfold key?
  rw [h]
  cases v.text? with
  | some s => simp
  | none => cases v <;> simp

theorem key?_ne_text (hnumber : v.number? = none) (h : v.text? = none) (s : String) :
    v.key? ≠ some (.text s) := by
  unfold key?
  rw [hnumber, h]
  cases v <;> simp

/-- Two keyed values are equal exactly if they have one key. -/
theorem compare_equal_of_isKeyed (hv : v.isKeyed) (hw : w.isKeyed) :
    ∃ b, Value.compare .equal v w = .ok b ∧ (b ↔ v.key?.isSome ∧ v.key? = w.key?) := by
  rw [PagedQuery.compare_eq_compareAtoms (isAtomic_of_isKeyed hv)]
  cases hm : v.number? with
  | some m =>
    cases hn : w.number? with
    | some n =>
      obtain ⟨b, hb, hiff⟩ := compareNumbers_equal (snd_of_number? hv hm) (snd_of_number? hw hn)
      refine ⟨b, by simp only [compareAtoms, hm, hn, hb], ?_⟩
      rw [key?_of_number? hm, key?_of_number? hn, Option.isSome_map, hiff,
        (Option.map_injective fun p q h => EqualityKey.number.inj h).eq_iff]
    | none =>
      refine ⟨false, by simp [compareAtoms, hm, hn], ?_⟩
      rw [key?_of_number? hm]
      cases m.1.position? with
      | none => simp
      | some p => simp [(key?_ne_number hn p).symm]
  | none =>
    cases hn : w.number? with
    | some n =>
      refine ⟨false, by simp [compareAtoms, hm, hn], ?_⟩
      rw [key?_of_number? hn]
      cases n.1.position? with
      | none => cases v.key? <;> simp
      | some p => simp [key?_ne_number hm p]
    | none =>
      cases hs : v.text? with
      | some s =>
        cases ht : w.text? with
        | some t =>
          refine ⟨_, Kind.compareAtoms_text hs ht .equal, ?_⟩
          simp [key?_of_text? hs, key?_of_text? ht, Comparison.holds]
        | none =>
          refine ⟨false, by simp [compareAtoms, hm, hn, hs, ht], ?_⟩
          simp [key?_of_text? hs, (key?_ne_text hn ht s).symm]
      | none =>
        cases ht : w.text? with
        | some t =>
          refine ⟨false, by simp [compareAtoms, hm, hn, hs, ht], ?_⟩
          simp [key?_of_text? ht, key?_ne_text hm hs t]
        | none =>
          obtain ⟨d, rfl⟩ | ⟨n, rfl⟩ | ⟨e, base, n, x, rfl⟩ := cases_of_isKeyed hv hm hs <;>
            obtain ⟨d', rfl⟩ | ⟨n', rfl⟩ | ⟨e', base', n', x', rfl⟩ := cases_of_isKeyed hw hn ht <;>
            simp [compareAtoms, key?, hm, hn, hs, ht, Comparison.holds]

/-- A moment equals no keyed value, and has no key. -/
theorem compare_equal (hv : v.isKeyed ∨ ∃ t, v = .dateTime t) (hw : w.isKeyed) :
    Value.compare .equal v w = .ok (Enumeration.sameValue v w) ∧
      (Enumeration.sameValue v w ↔ v.key?.isSome ∧ v.key? = w.key?) := by
  have hanswer : ∃ b, Value.compare .equal v w = .ok b ∧ (b ↔ v.key?.isSome ∧ v.key? = w.key?) := by
    obtain hv | ⟨t, rfl⟩ := hv
    · exact compare_equal_of_isKeyed hv hw
    · refine ⟨false, ?_, by simp [key?, number?, text?]⟩
      rw [PagedQuery.compare_eq_compareAtoms rfl]
      cases w with
      | bool b | int n | float x | text s | code s | date d | uuid n => rfl
      | member e base n x => cases base <;> cases x <;> rfl
      | _ => cases hw
  obtain ⟨b, hb, hiff⟩ := hanswer
  have hsame : Enumeration.sameValue v w = b := by rw [Enumeration.sameValue, hb]
  rw [hsame]
  exact ⟨hb, hiff⟩

/-- Two values that equal a third one equal each other. -/
theorem sameValue_of_sameValue (hv : v.isKeyed ∨ ∃ t, v = .dateTime t)
    (hu : u.isKeyed ∨ ∃ t, u = .dateTime t) (hw : w.isKeyed) (hvw : Enumeration.sameValue v w)
    (huw : Enumeration.sameValue u w) : Enumeration.sameValue v u := by
  obtain ⟨hsome, hkey⟩ := (compare_equal hv hw).2.mp hvw
  obtain ⟨hsome', hkey'⟩ := (compare_equal hu hw).2.mp huw
  have hu' : u.isKeyed := by
    refine hu.resolve_right ?_
    rintro ⟨t, rfl⟩
    cases hsome'
  exact (compare_equal hv hu').2.mpr ⟨hsome, hkey.trans hkey'.symm⟩

theorem align_of_isKeyed (hw : w.isKeyed) : align v w = (v, w) := by
  cases v with
  | dateTime t => cases w <;> first | rfl | cases hw
  | _ => rfl

end Value

end PagedQuery
