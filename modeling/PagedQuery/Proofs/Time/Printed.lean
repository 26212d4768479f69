import PagedQuery.Proofs.Number.Printed
import PagedQuery.Proofs.Time.Clock
import PagedQuery.Proofs.Time.Iso

/-!
# Durations as they are printed

A duration is printed as its time of day after a number of whole days. Without days this is the
clock notation, which is read back. With days it is not: a word follows their number, and commas
stand neither in this notation nor in a count of one unit.
-/

namespace PagedQuery.Time.Span

open PagedQuery.Number PagedQuery.Text PagedQuery.Time

/-! ## Less than a day -/

namespace ClockNotation

variable {micros : ℕ}

/-- The time of day after midnight. -/
def withinDay (h : micros < 86400000000) : ClockNotation where
  negative := false
  days := none
  hours := Numeral.padded 1 (micros / 1000000 / 3600)
  minutes := Numeral.padded 2 (micros / 1000000 / 60 % 60)
  seconds := some (.ofNumbers (micros / 1000000 % 60)
    (if micros % 1000000 = 0 then none else some (micros % 1000000)) (Nat.mod_lt _ (by decide))
    fun m hm => Option.some.inj (Option.mem_ite_none_left.mp hm).2 ▸ Nat.mod_lt _ (by decide))
  length_days := by simp
  length_hours := Numeral.length_padded_one (by decide) (by omega)
  length_minutes := Numeral.length_padded (by decide) (by omega)

theorem chars_withinDay (h : micros < 86400000000) :
    (withinDay h).chars = (spanText micros).toList := by
  have hdays : Int.fdiv micros microsPerDay = 0 := by
    rw [Int.fdiv_eq_ediv_of_nonneg _ (by decide)]
    unfold microsPerDay
    omega
  have hrest : (Int.fmod micros microsPerDay).toNat = micros := by
    rw [Int.fmod_eq_emod_of_nonneg _ (by decide)]
    unfold microsPerDay
    omega
  unfold spanText
  simp only [hdays, hrest]
  by_cases hmicro : micros % 1000000 = 0 <;>
    simp [chars, unsignedChars, tailChars, SecondsNotation.chars, SecondsNotation.ofNumbers,
      withinDay, Numeral.padded, Numeral.ofAscii, String.toList_append, toList_padded,
      digitChars_one_eq_toDigits, hmicro]

theorem micros_withinDay (h : micros < 86400000000) : (withinDay h).micros = micros := by
  have hmicro : (if micros % 1000000 = 0 then none else some (micros % 1000000)).getD 0 =
      micros % 1000000 := by
    split
    · next hzero => exact hzero.symm
    · rfl
  have hmagnitude : (withinDay h).magnitude = micros := by
    simp only [magnitude, dayCount, clockMicros, secondCount, withinDay, Option.elim_some,
      Option.elim_none, Numeral.value_padded, SecondsNotation.fractionMicros_ofNumbers, hmicro]
    simp only [SecondsNotation.ofNumbers, Numeral.value_padded]
    omega
  exact congrArg (fun m : ℕ => (m : ℤ)) hmagnitude

end ClockNotation

/-- A duration of less than a day is read back from its text. -/
theorem read_spanText {micros : ℤ} (h : 0 ≤ micros) (hday : micros < microsPerDay) :
    Span.read (spanText micros) = .ok micros := by
  obtain ⟨n, rfl⟩ := Int.eq_ofNat_of_zero_le h
  have hn : n < 86400000000 := by
    unfold microsPerDay at hday
    omega
  have hread :
      Yields (Span.read (String.ofList ([] ++ (ClockNotation.withinDay hn).chars ++ []))) _ :=
    (ClockNotation.withinDay hn).read_yields (by simp) (by simp)
  rw [List.nil_append, List.append_nil, ClockNotation.chars_withinDay, String.ofList_toList,
    ClockNotation.micros_withinDay] at hread
  refine hread.1 ⟨?_, ?_⟩ <;> unfold microsPerDay <;> omega

/-! ## Days -/

/-- What stands between a number of days and the time of day. -/
def dayWords : List (List Char) := [" day, ".toList, " days, ".toList]

variable {m : Numeral} {word rest : List Char}

theorem exists_eq_of_mem_dayWords (hword : word ∈ dayWords) (rest : List Char) :
    ∃ more, word ++ rest = ' ' :: more := by
  simp only [dayWords, List.mem_cons, List.not_mem_nil, or_false] at hword
  rcases hword with rfl | rfl <;> exact ⟨_, rfl⟩

theorem spanDigits_append_blank (m : Numeral) (rest : List Char) :
    spanDigits (m.chars ++ ' ' :: rest) = (m.digits, ' ' :: rest) :=
  spanDigits_append m fun c hc => Option.some.inj hc ▸ digitValue?_eq_none (by decide) (by decide)

/-- Behind the number of days stands no colon. -/
theorem readClock?_dayWord (negative : Bool) (hm : m.chars ≠ []) (hword : word ∈ dayWords) :
    readClock? (signChars negative ++ (m.chars ++ (word ++ rest))) = none := by
  obtain ⟨more, hmore⟩ := exists_eq_of_mem_dayWords hword rest
  obtain ⟨first, others, hchars⟩ := List.exists_cons_of_ne_nil hm
  have hfirst : first ≠ '-' := by
    rintro rfl
    have hsome := m.isSome_digitValue? '-' (hchars ▸ List.mem_cons_self)
    rw [digitValue?_mark (.inl rfl)] at hsome
    cases hsome
  have hunsigned : (if (signChars negative ++ (m.chars ++ ' ' :: more)).head? = some '-' then
      (signChars negative ++ (m.chars ++ ' ' :: more)).drop 1
      else signChars negative ++ (m.chars ++ ' ' :: more)) = m.chars ++ ' ' :: more := by
    cases negative with
    | true => rfl
    | false => simp [signChars, hchars, hfirst]
  have htail : ∀ rest, readTail? (' ' :: rest) = none := fun rest => rfl
  simp only [readClock?, hmore, hunsigned, spanDigits_append_blank]
  split
  · next hpoint => exact absurd (List.cons.inj hpoint).1 (by decide)
  · rw [htail]
    exact ite_self none

/-- Behind the name of the unit stands a comma. -/
theorem readCount?_dayWord (negative : Bool) (hword : word ∈ dayWords) :
    readCount? (signChars negative ++ (m.chars ++ (word ++ rest))) = none := by
  cases negative with
  | true =>
    have hdash : digitValue? '-' = none := digitValue?_mark (.inl rfl)
    simp [readCount?, spanDigits, signChars, hdash]
  | false =>
    simp only [dayWords, List.mem_cons, List.not_mem_nil, or_false] at hword
    unfold readCount?
    rcases hword with rfl | rfl
    · simp [signChars, spanDigits_append_blank, units, afterWord?, isBlank, sameLetter]
    · simp [signChars, spanDigits_append_blank, units, afterWord?, isBlank, sameLetter]

theorem toList_spanText {micros : ℤ} (h : Int.fdiv micros microsPerDay ≠ 0) :
    ∃ (m : Numeral), ∃ word ∈ dayWords, ∃ clock : List Char, m.chars ≠ [] ∧ clock ≠ [] ∧
      (∀ c ∈ clock, IsNumeric c) ∧ (spanText micros).toList =
        signChars (Int.fdiv micros microsPerDay < 0) ++ (m.chars ++ (word ++ clock)) := by
  unfold spanText
  simp only [if_neg h]
  generalize Int.fdiv micros microsPerDay = days
  generalize (Int.fmod micros microsPerDay).toNat = rest
  refine ⟨Numeral.padded 1 days.natAbs,
    if days.natAbs = 1 then " day, ".toList else " days, ".toList, ?_,
    Nat.toDigits 10 (rest / 1000000 / 3600) ++
      ':' :: (digitChars 2 (rest / 1000000 / 60 % 60) ++
      ':' :: (digitChars 2 (rest / 1000000 % 60) ++
        if rest % 1000000 = 0 then [] else '.' :: digitChars 6 (rest % 1000000))), ?_, ?_, ?_, ?_⟩
  · split <;> simp [dayWords]
  · exact (digitChars_one_eq_toDigits _).trans_ne Nat.toDigits_ne_nil
  · simp
  · simp only [List.forall_mem_append, List.forall_mem_cons]
    refine ⟨fun c hc => isNumeric_of_isDigit (isDigit_of_mem_toDigits hc), by decide,
      isNumeric_of_mem_digitChars, by decide, isNumeric_of_mem_digitChars, ?_⟩
    split
    · simp
    · exact List.forall_mem_cons.mpr ⟨by decide, isNumeric_of_mem_digitChars⟩
  · have hnumber : days.repr.toList = signChars (days < 0) ++ Nat.toDigits 10 days.natAbs :=
      toList_toString_int days
    by_cases hone : days.natAbs = 1 <;> by_cases hmicro : rest % 1000000 = 0 <;>
      simp [String.toList_append, toList_padded, hnumber, Numeral.padded, Numeral.ofAscii,
        digitChars_one_eq_toDigits, hone, hmicro]

/-- A duration of days is not read back from its text. -/
theorem read_spanText_of_days {micros : ℤ} (h : ¬ (0 ≤ micros ∧ micros < microsPerDay)) :
    Span.read (spanText micros) = .error .malformed := by
  have hdays : Int.fdiv micros microsPerDay ≠ 0 := by
    rw [Int.fdiv_eq_ediv_of_nonneg _ (by decide)]
    unfold microsPerDay at h ⊢
    omega
  obtain ⟨m, word, hword, clock, hm, hclock, hnumeric, htext⟩ := toList_spanText hdays
  have hstripped : Stripped (signChars (Int.fdiv micros microsPerDay < 0) ++
      (m.chars ++ (word ++ clock))) := by
    rw [← List.append_assoc, ← List.append_assoc]
    exact stripped_between word (List.append_ne_nil_of_right_ne_nil _ hm) hclock
      (stripped_signed hm fun c hc => m.not_isBlank_of_mem hc) (stripped_of_isNumeric hnumeric)
  simp only [Span.read, htext, trimChars_of_stripped hstripped, readClock?_dayWord _ hm hword,
    readCount?_dayWord _ hword]

end PagedQuery.Time.Span
