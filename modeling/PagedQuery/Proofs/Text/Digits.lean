import Mathlib.Tactic
import PagedQuery.Proofs.Text.Blank
import PagedQuery.Proofs.Text.Order
import PagedQuery.Text.Digit

/-!
# Numbers as they are written

A numeral is a row of digits of any script. None of them is a blank or a mark, so that a numeral
ends where a mark follows it. What is written for a number, padded with zeros or not, is a numeral
of its value in ASCII digits.
-/

namespace PagedQuery.Text

/-! ## Digits -/

variable {c : Char} {d : ℕ}

theorem digitValue?_of_isDigit (h : c.isDigit) : digitValue? c = some (c.toNat - 48) := by
  have hcode : c.toNat < 128 := by
    simp only [Char.isDigit, Bool.and_eq_true, decide_eq_true_eq] at h
    have hle : c.toNat ≤ 57 := h.2
    omega
  rw [digitValue?, if_pos hcode, if_pos h]

theorem digitValue?_eq_none (hcode : c.toNat < 128) (h : ¬ c.isDigit) : digitValue? c = none := by
  rw [digitValue?, if_pos hcode, if_neg h]

/-- A digit is one of the ASCII ones or one of the ten after a zero of the table. -/
theorem digitValue?_cases (h : digitValue? c = some d) :
    (c.isDigit ∧ d = c.toNat - 48) ∨
      ∃ first ∈ digitZeros.toList,
        first ≤ c.toNat ∧ c.toNat < first + 10 ∧ d = c.toNat - first := by
  rw [digitValue?] at h
  split at h
  · split at h
    · next hdigit => exact .inl ⟨hdigit, (Option.some.inj h).symm⟩
    · cases h
  · obtain ⟨first, hfirst, hd⟩ := Option.map_eq_some_iff.mp h
    have hrange := Array.find?_some hfirst
    simp only [Bool.and_eq_true, decide_eq_true_eq] at hrange
    exact .inr ⟨first, Array.mem_toList_iff.mpr (Array.mem_of_find?_eq_some hfirst), hrange.1,
      hrange.2, hd.symm⟩

theorem digitValue?_lt (h : digitValue? c = some d) : d < 10 := by
  obtain ⟨hdigit, rfl⟩ | ⟨first, -, hle, hlt, rfl⟩ := digitValue?_cases h
  · simp only [Char.isDigit, Bool.and_eq_true, decide_eq_true_eq] at hdigit
    have hle : c.toNat ≤ 57 := hdigit.2
    omega
  · omega

theorem isBlank_of_isDigit (h : c.isDigit) : isBlank c = false := by
  simp only [Char.isDigit, Bool.and_eq_true, decide_eq_true_eq] at h
  have hge : 48 ≤ c.toNat := h.1
  have hle : c.toNat ≤ 57 := h.2
  simp only [isBlank, Bool.or_eq_false_iff, Bool.and_eq_false_iff, decide_eq_false_iff_not,
    beq_eq_false_iff_ne]
  omega

/-- No digit of any script is a blank. -/
theorem isBlank_of_digitValue? (h : (digitValue? c).isSome) : isBlank c = false := by
  obtain ⟨d, hd⟩ := Option.isSome_iff_exists.mp h
  obtain ⟨hdigit, -⟩ | ⟨first, hfirst, hle, hlt, -⟩ := digitValue?_cases hd
  · exact isBlank_of_isDigit hdigit
  · have hall : ∀ first ∈ digitZeros.toList, ∀ k < 10,
        isBlank (Char.ofNat (first + k)) = false := by
      decide
    have hc := hall first hfirst (c.toNat - first) (by omega)
    rwa [Nat.add_sub_cancel' hle, c.ofNat_toNat] at hc

theorem ofDigits_append (ds es : List ℕ) :
    ofDigits (ds ++ es) = ofDigits ds * 10 ^ es.length + ofDigits es := by
  induction es using List.reverseRecOn with
  | nil => simp [ofDigits]
  | append_singleton es e ih =>
    rw [← List.append_assoc, ofDigits_append_singleton, ofDigits_append_singleton, ih,
      List.length_append, List.length_singleton, pow_succ]
    ring

theorem ofDigits_replicate_zero (n : ℕ) : ofDigits (List.replicate n 0) = 0 := by
  induction n with
  | zero => rfl
  | succ n ih => rw [List.replicate_succ', ofDigits_append_singleton, ih]

/-! ## Numerals -/

/-- A row of digits of any script. -/
structure Numeral where
  chars : List Char
  isSome_digitValue? : ∀ c ∈ chars, (digitValue? c).isSome

namespace Numeral

variable (m : Numeral)

/-- The values of the digits. -/
def digits : List ℕ := m.chars.filterMap digitValue?

/-- The number that is written. -/
def value : ℕ := ofDigits m.digits

def length : ℕ := m.chars.length

theorem length_digits : m.digits.length = m.length := by
  have h := m.isSome_digitValue?
  unfold digits length
  generalize m.chars = cs at h
  induction cs with
  | nil => rfl
  | cons c cs ih =>
    obtain ⟨d, hd⟩ := Option.isSome_iff_exists.mp (h c List.mem_cons_self)
    rw [List.filterMap_cons_some hd, List.length_cons, List.length_cons,
      ih fun e he => h e (List.mem_cons_of_mem c he)]

theorem lt_ten_of_mem_digits (h : d ∈ m.digits) : d < 10 := by
  obtain ⟨c, -, hc⟩ := List.mem_filterMap.mp h
  exact digitValue?_lt hc

theorem not_isBlank_of_mem (h : c ∈ m.chars) : isBlank c = false :=
  isBlank_of_digitValue? (m.isSome_digitValue? c h)

/-- A numeral ends where no digit follows. -/
theorem takeWhile_append {rest : List Char} (h : ∀ c ∈ rest.head?, digitValue? c = none) :
    (m.chars ++ rest).takeWhile (fun c => (digitValue? c).isSome) = m.chars := by
  rw [List.takeWhile_append_of_pos m.isSome_digitValue?]
  cases rest with
  | nil => exact List.append_nil _
  | cons c rest => rw [List.takeWhile_cons_of_neg (by simp [h c rfl]), List.append_nil]

theorem dropWhile_append {rest : List Char} (h : ∀ c ∈ rest.head?, digitValue? c = none) :
    (m.chars ++ rest).dropWhile (fun c => (digitValue? c).isSome) = rest := by
  rw [List.dropWhile_append_of_pos m.isSome_digitValue?]
  cases rest with
  | nil => rfl
  | cons c rest => rw [List.dropWhile_cons_of_neg (by simp [h c rfl])]

/-- A row of ASCII digits. -/
def ofAscii (cs : List Char) (h : ∀ c ∈ cs, c.isDigit) : Numeral where
  chars := cs
  isSome_digitValue? c hc := by rw [digitValue?_of_isDigit (h c hc)]; rfl

theorem value_ofAscii (cs : List Char) (h : ∀ c ∈ cs, c.isDigit) :
    (ofAscii cs h).value = ofDigits (cs.map fun c => c.toNat - 48) := by
  have hdigits : cs.filterMap digitValue? = cs.map fun c => c.toNat - 48 := by
    rw [← List.filterMap_eq_map]
    exact List.filterMap_congr fun c hc => digitValue?_of_isDigit (h c hc)
  exact congrArg ofDigits hdigits

end Numeral

/-! ## Printed numbers -/

theorem isDigit_of_mem_toDigits {n : ℕ} (h : c ∈ Nat.toDigits 10 n) : c.isDigit :=
  Nat.isDigit_of_mem_toDigits (by decide) (by decide) h

theorem isDigit_of_mem_digitChars {width n : ℕ} (h : c ∈ digitChars width n) : c.isDigit := by
  rcases List.mem_append.mp h with h | h
  · rw [List.eq_of_mem_replicate h]
    rfl
  · exact isDigit_of_mem_toDigits h

theorem ofDigits_map_toNat (cs : List Char) :
    ofDigits (cs.map fun c => c.toNat - 48) = Nat.ofDigitChars 10 cs 0 := by
  rw [ofDigits, List.foldl_map, Nat.ofDigitChars_eq_foldl]
  rfl

/-- The digits of a number spell it. -/
theorem ofDigits_toDigits (n : ℕ) :
    ofDigits ((Nat.toDigits 10 n).map fun c => c.toNat - 48) = n := by
  rw [ofDigits_map_toNat, Nat.ofDigitChars_ten_toDigits]

/-- The zeros before a number do not count. -/
theorem ofDigits_digitChars (width n : ℕ) :
    ofDigits ((digitChars width n).map fun c => c.toNat - 48) = n := by
  rw [ofDigits_map_toNat, digitChars, Nat.ofDigitChars_append, Nat.ofDigitChars_replicate_zero,
    Nat.mul_zero, Nat.ofDigitChars_ten_toDigits]

theorem digitChars_one_eq_toDigits (n : ℕ) : digitChars 1 n = Nat.toDigits 10 n := by
  rw [digitChars, Nat.sub_eq_zero_of_le Nat.length_toDigits_pos]
  rfl

namespace Numeral

/-- A number padded with zeros to a width. -/
def padded (width n : ℕ) : Numeral :=
  ofAscii (digitChars width n) fun _ => isDigit_of_mem_digitChars

theorem value_padded (width n : ℕ) : (padded width n).value = n := by
  rw [padded, value_ofAscii, ofDigits_digitChars]

theorem length_padded {width n : ℕ} (hw : width ≠ 0) (h : n < 10 ^ width) :
    (padded width n).length = width := length_digitChars hw h

/-- A number written without zeros before it has a digit, and as few as can be. -/
theorem length_padded_one {width n : ℕ} (hw : width ≠ 0) (h : n < 10 ^ width) :
    1 ≤ (padded 1 n).length ∧ (padded 1 n).length ≤ width := by
  have hchars : (padded 1 n).length = (Nat.toDigits 10 n).length :=
    congrArg List.length (digitChars_one_eq_toDigits n)
  rw [hchars]
  exact ⟨Nat.length_toDigits_pos,
    (Nat.length_toDigits_le_iff (by decide) (Nat.pos_of_ne_zero hw)).mpr h⟩

end Numeral

end PagedQuery.Text
