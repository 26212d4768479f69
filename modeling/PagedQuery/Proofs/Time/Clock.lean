import PagedQuery.Proofs.Coercion.Remembering
import PagedQuery.Proofs.Text.Digits
import PagedQuery.Proofs.Time.Reading

/-!
# Durations in clock notation

A duration is written as a sign, a number of days, hours, minutes and seconds with a fraction, of
which only hours and minutes must be there. It is read as the sum of its parts, the fraction cut off
after the microseconds, if this is a duration, and refused if it is too long in either direction. As
every duration can be written in this notation, every one can be read.
-/

namespace PagedQuery.Time.Span

open PagedQuery.Number PagedQuery.Text PagedQuery.Time

/-- The shortest duration is a whole number of days before none, the longest one lacks a microsecond
to as many days and one. -/
def IsSpan (micros : ℤ) : Prop :=
  -999999999 * microsPerDay ≤ micros ∧ micros < 1000000000 * microsPerDay

instance (micros : ℤ) : Decidable (IsSpan micros) := inferInstanceAs (Decidable (_ ∧ _))

/-! ## The notation -/

/-- Seconds as they are written, with a fraction or none. -/
structure SecondsNotation where
  whole : Numeral
  fraction : Option Numeral
  length_whole : whole.length = 2
  length_fraction : ∀ f ∈ fraction, 1 ≤ f.length ∧ f.length ≤ 7

/-- A duration as it is written. -/
structure ClockNotation where
  negative : Bool
  days : Option Numeral
  hours : Numeral
  minutes : Numeral
  seconds : Option SecondsNotation
  length_days : ∀ d ∈ days, 1 ≤ d.length ∧ d.length ≤ digitLimit
  length_hours : 1 ≤ hours.length ∧ hours.length ≤ 2
  length_minutes : minutes.length = 2

namespace SecondsNotation

variable (t : SecondsNotation)

def chars : List Char := t.whole.chars ++ t.fraction.elim [] fun f => '.' :: f.chars

/-- The microseconds of a fraction, which is cut off behind them. -/
def fractionMicros : ℕ := t.fraction.elim 0 fun f => f.value * 1000000 / 10 ^ f.length

end SecondsNotation

namespace ClockNotation

variable (n : ClockNotation)

/-- The minutes and seconds. -/
def tailChars : List Char :=
  ':' :: (n.minutes.chars ++ n.seconds.elim [] fun t => ':' :: t.chars)

/-- What follows the sign. -/
def unsignedChars : List Char :=
  n.days.elim [] (fun d => d.chars ++ ['.']) ++ (n.hours.chars ++ n.tailChars)

def chars : List Char := (if n.negative then ['-'] else []) ++ n.unsignedChars

/-- The number of days, none if it is not written. -/
def dayCount : ℕ := n.days.elim 0 (·.value)

/-- The number of seconds, none if it is not written. -/
def secondCount : ℕ := n.seconds.elim 0 (·.whole.value)

/-- The parts without the days, in microseconds. -/
def clockMicros : ℕ :=
  ((n.hours.value * 60 + n.minutes.value) * 60 + n.secondCount) * 1000000 +
    n.seconds.elim 0 (·.fractionMicros)

/-- The sum of the parts in microseconds. -/
def magnitude : ℕ := n.dayCount * 86400000000 + n.clockMicros

/-- The sum of the parts under the sign. -/
def micros : ℤ := if n.negative then -(n.magnitude : ℤ) else n.magnitude

/-- The digits of the parts. -/
def parts : ClockParts where
  negative := n.negative
  days := n.days.map (·.digits)
  hours := n.hours.digits
  minutes := n.minutes.digits
  seconds := n.seconds.elim [] (·.whole.digits)
  fraction := (n.seconds.bind (·.fraction)).elim [] (·.digits)

end ClockNotation

/-! ## Reading the parts -/

theorem digitValue?_mark {c : Char} (h : c = '-' ∨ c = '.' ∨ c = ':') : digitValue? c = none := by
  rcases h with rfl | rfl | rfl <;> decide

theorem spanDigits_append (m : Numeral) {rest : List Char}
    (h : ∀ c ∈ rest.head?, digitValue? c = none) :
    spanDigits (m.chars ++ rest) = (m.digits, rest) := by
  rw [spanDigits, m.takeWhile_append h, m.dropWhile_append h]
  rfl

theorem spanDigits_chars (m : Numeral) : spanDigits m.chars = (m.digits, []) := by
  have h : spanDigits (m.chars ++ []) = (m.digits, []) := spanDigits_append m (by simp)
  rwa [List.append_nil] at h

theorem spanDigits_append_mark (m : Numeral) {mark : Char}
    (h : mark = '-' ∨ mark = '.' ∨ mark = ':') (rest : List Char) :
    spanDigits (m.chars ++ mark :: rest) = (m.digits, mark :: rest) :=
  spanDigits_append m fun c hc => by
    rw [List.head?_cons, Option.mem_some_iff] at hc
    exact hc ▸ digitValue?_mark h

namespace ClockNotation

variable (n : ClockNotation)

theorem readTail?_tailChars :
    readTail? n.tailChars = some (n.parts.minutes, n.parts.seconds, n.parts.fraction) := by
  have hminutes : n.minutes.digits.length = 2 := n.minutes.length_digits.trans n.length_minutes
  unfold tailChars parts readTail?
  cases hseconds : n.seconds with
  | none => simp [spanDigits_chars, hminutes]
  | some t =>
    have hwhole : t.whole.digits.length = 2 := t.whole.length_digits.trans t.length_whole
    unfold SecondsNotation.chars
    cases hfraction : t.fraction with
    | none =>
      simp [spanDigits_append_mark n.minutes (.inr (.inr rfl)), spanDigits_chars, hminutes, hwhole,
        hfraction]
    | some f =>
      have hf := t.length_fraction f hfraction
      rw [← f.length_digits] at hf
      simp [spanDigits_append_mark n.minutes (.inr (.inr rfl)),
        spanDigits_append_mark t.whole (.inr (.inl rfl)), spanDigits_chars, hminutes, hwhole,
        hfraction, hf]

/-- What follows the sign begins with a digit. -/
theorem isSome_of_head?_unsignedChars {c : Char} (h : c ∈ n.unsignedChars.head?) :
    (digitValue? c).isSome := by
  have hhead : ∀ (m : Numeral) (rest : List Char), 1 ≤ m.length → c ∈ (m.chars ++ rest).head? →
      (digitValue? c).isSome := by
    intro m rest hlength hc
    obtain ⟨first, others, hchars⟩ := List.exists_cons_of_ne_nil (List.length_pos_iff.mp hlength)
    rw [hchars, List.cons_append, List.head?_cons, Option.mem_some_iff] at hc
    exact m.isSome_digitValue? c (hchars ▸ hc ▸ List.mem_cons_self)
  unfold unsignedChars at h
  cases hdays : n.days with
  | none =>
    rw [hdays] at h
    exact hhead n.hours n.tailChars n.length_hours.1 h
  | some d =>
    rw [hdays, Option.elim_some, List.append_assoc] at h
    exact hhead d _ (n.length_days d hdays).1 h

theorem head?_chars : n.chars.head? = some '-' ↔ n.negative = true := by
  unfold chars
  cases n.negative with
  | true => simp
  | false =>
    have hdigit : n.unsignedChars.head? ≠ some '-' := fun h => by
      have hsome := n.isSome_of_head?_unsignedChars h
      rw [digitValue?_mark (.inl rfl)] at hsome
      cases hsome
    simpa using hdigit

/-- The parts of a notation are found in it. -/
theorem readClock?_chars : readClock? n.chars = some n.parts := by
  have hhours : n.hours.digits.length = n.hours.length := n.hours.length_digits
  have hrange := n.length_hours
  have hunsigned : (if n.negative = true then n.chars.drop 1 else n.chars) = n.unsignedChars := by
    unfold chars
    cases n.negative <;> rfl
  have hspan := spanDigits_append_mark n.hours (.inr (.inr rfl))
    (n.minutes.chars ++ n.seconds.elim [] fun t => ':' :: t.chars)
  rw [← tailChars] at hspan
  unfold readClock?
  simp only [n.head?_chars, hunsigned]
  unfold unsignedChars
  cases hdays : n.days with
  | none =>
    -- A colon follows the first number, so that it is that of the hours.
    obtain ⟨rest, htail⟩ : ∃ rest, n.tailChars = ':' :: rest := ⟨_, rfl⟩
    have hread := n.readTail?_tailChars
    rw [htail] at hspan hread
    rw [Option.elim_none, List.nil_append, htail, hspan]
    split
    · next first others hmark => exact absurd (List.cons.inj hmark).1 (by decide)
    · rw [if_neg (by simp only [reduceCtorEq, false_or]; omega), hread]
      simp [parts, hdays]
  | some d =>
    -- A point follows it, so that it is that of the days.
    have hd : d.digits ≠ [] := by
      rw [← List.length_pos_iff, d.length_digits]
      exact (n.length_days d hdays).1
    rw [Option.elim_some, List.append_assoc, List.singleton_append,
      spanDigits_append_mark d (.inr (.inl rfl))]
    simp only [hspan, Option.some.injEq, hd, hhours, false_or]
    rw [if_neg (by omega), n.readTail?_tailChars]
    simp [parts, hdays]

theorem tailChars_eq_append : ∃ (cs : List Char) (m : Numeral), n.tailChars = cs ++ m.chars ∧
    1 ≤ m.length := by
  unfold tailChars
  cases n.seconds with
  | none => exact ⟨[':'], n.minutes, by simp, by rw [n.length_minutes]; decide⟩
  | some t =>
    unfold SecondsNotation.chars
    cases hfraction : t.fraction with
    | none =>
      refine ⟨':' :: n.minutes.chars ++ [':'], t.whole, by simp [hfraction], ?_⟩
      rw [t.length_whole]
      decide
    | some f =>
      exact ⟨':' :: n.minutes.chars ++ ':' :: (t.whole.chars ++ ['.']), f, by simp [hfraction],
        (t.length_fraction f hfraction).1⟩

/-- A notation neither begins nor ends with a blank. -/
theorem stripped_chars : Stripped n.chars := by
  constructor
  · intro c hc
    by_cases hnegative : n.negative
    · rw [n.head?_chars.mpr hnegative, Option.mem_some_iff] at hc
      exact hc ▸ rfl
    · rw [chars, if_neg hnegative, List.nil_append] at hc
      exact isBlank_of_digitValue? (n.isSome_of_head?_unsignedChars hc)
  · intro c hc
    obtain ⟨cs, m, htail, hlength⟩ := n.tailChars_eq_append
    have hne : m.chars ≠ [] := List.length_pos_iff.mp hlength
    rw [chars, unsignedChars, htail, ← List.append_assoc, ← List.append_assoc, ← List.append_assoc,
      List.getLast?_append_of_ne_nil _ hne] at hc
    exact m.not_isBlank_of_mem (List.mem_of_getLast? hc)

end ClockNotation

/-! ## Sums -/

/-- Six digits of a fraction count. -/
theorem fractionMicros_eq {ds : List ℕ} (h : ∀ d ∈ ds, d < 10) :
    fractionMicros ds = ofDigits ds * 1000000 / 10 ^ ds.length := by
  unfold fractionMicros
  rcases Nat.le_total ds.length 6 with hle | hle
  · have hpow : (1000000 : ℕ) = 10 ^ (6 - ds.length) * 10 ^ ds.length := by
      rw [← pow_add, Nat.sub_add_cancel hle]
      rfl
    rw [List.take_append, List.take_of_length_le hle, List.take_replicate, ofDigits_append,
      ofDigits_replicate_zero, List.length_replicate, Nat.min_eq_left (Nat.sub_le 6 _), hpow,
      ← Nat.mul_assoc, Nat.mul_div_cancel _ (Nat.pow_pos (by decide)), Nat.add_zero]
  · have hpow : 10 ^ ds.length = 1000000 * 10 ^ (ds.length - 6) := by
      rw [show (1000000 : ℕ) = 10 ^ 6 from rfl, ← pow_add, Nat.add_sub_cancel' hle]
    have hrest : ofDigits (ds.drop 6) < 10 ^ (ds.length - 6) := by
      rw [← List.length_drop]
      exact ofDigits_lt fun d hd => h d (List.mem_of_mem_drop hd)
    have hvalue : ofDigits ds =
        ofDigits (ds.take 6) * 10 ^ (ds.length - 6) + ofDigits (ds.drop 6) := by
      rw [← List.length_drop, ← ofDigits_append, List.take_append_drop]
    rw [List.take_append_of_le_length hle, hpow, Nat.mul_comm (ofDigits ds),
      Nat.mul_div_mul_left _ _ (by decide), hvalue, Nat.mul_comm, Nat.mul_add_div
      (Nat.pow_pos (by decide)), Nat.div_eq_of_lt hrest, Nat.add_zero]

/-- The result is the duration of a number of microseconds, or an error where there is none. -/
def Yields (result : Except SpanError ℤ) (micros : ℤ) : Prop :=
  (IsSpan micros → result = .ok micros) ∧ (¬ IsSpan micros → ∃ e, result = .error e)

/-- A duration is as good as its whole days. -/
theorem isSpan_iff {micros : ℤ} :
    IsSpan micros ↔ (Int.fdiv micros microsPerDay).natAbs ≤ 999999999 := by
  rw [Int.fdiv_eq_ediv_of_nonneg micros (by decide)]
  unfold IsSpan microsPerDay
  omega

theorem ofDays_yields (days micros : ℕ) :
    Yields (ofDays days micros) (days * microsPerDay + micros) := by
  unfold Yields ofDays
  rw [isSpan_iff]
  generalize (days : ℤ) * microsPerDay + micros = total
  constructor
  · intro h
    simp only
    rw [if_neg (by omega), if_neg (by omega)]
  · intro h
    simp only
    split
    · exact ⟨_, rfl⟩
    · rw [if_pos (by omega)]
      exact ⟨_, rfl⟩

theorem negate_yields (micros : ℤ) : Yields (negate micros) (-micros) := by
  unfold Yields negate
  rw [isSpan_iff]
  constructor
  · intro h
    exact if_neg (by omega)
  · intro h
    exact ⟨_, if_pos (by omega)⟩

namespace ClockNotation

variable (n : ClockNotation)

theorem ofDigitList_days_parts : ofDigitList (n.parts.days.getD []) = .ok n.dayCount := by
  unfold parts dayCount
  cases hdays : n.days with
  | none => rfl
  | some d =>
    have hlength : d.digits.length ≤ digitLimit := by
      rw [d.length_digits]
      exact (n.length_days d hdays).2
    exact if_pos hlength

theorem ofDigits_seconds_parts : ofDigits n.parts.seconds = n.secondCount := by
  unfold parts secondCount
  cases n.seconds <;> rfl

theorem fractionMicros_parts :
    Span.fractionMicros n.parts.fraction = n.seconds.elim 0 (·.fractionMicros) := by
  unfold parts SecondsNotation.fractionMicros
  cases n.seconds with
  | none => rfl
  | some t =>
    cases hfraction : t.fraction with
    | none => simp [hfraction, Span.fractionMicros, ofDigits]
    | some f =>
      simp only [Option.bind_some, hfraction, Option.elim_some]
      rw [Span.fractionMicros_eq fun d hd => f.lt_ten_of_mem_digits hd, f.length_digits]
      rfl

/-- The parts of a notation add up to its sum. -/
theorem span_parts_yields : Yields n.parts.span n.micros := by
  have hsum := ofDays_yields n.dayCount n.clockMicros
  have hmagnitude : (n.magnitude : ℤ) = n.dayCount * microsPerDay + n.clockMicros := by
    rw [magnitude, microsPerDay]
    push_cast
    rfl
  rw [← hmagnitude] at hsum
  have hparts : n.parts.span = (do
      let span ← ofDays n.dayCount n.clockMicros
      if n.negative then negate span else pure span) := by
    have hhours : ofDigits n.parts.hours = n.hours.value := rfl
    have hminutes : ofDigits n.parts.minutes = n.minutes.value := rfl
    have hnegative : n.parts.negative = n.negative := rfl
    simp only [ClockParts.span, clockMicros, n.ofDigitList_days_parts, n.ofDigits_seconds_parts,
      n.fractionMicros_parts, hhours, hminutes, hnegative, pure_bind]
  rw [hparts, micros]
  cases n.negative with
  | false =>
    simp only [Bool.false_eq_true, if_false, bind_pure]
    exact hsum
  | true =>
    simp only [if_true]
    by_cases hspan : IsSpan n.magnitude
    · have hnegate : (ofDays n.dayCount n.clockMicros >>= negate) = negate n.magnitude := by
        rw [hsum.1 hspan]
        exact pure_bind _ _
      rw [hnegate]
      exact negate_yields n.magnitude
    · -- What is too long has no opposite either.
      obtain ⟨e, he⟩ := hsum.2 hspan
      have hopposite : ¬ IsSpan (-n.magnitude) := by
        unfold IsSpan microsPerDay at hspan ⊢
        omega
      rw [he]
      exact ⟨fun h => absurd h hopposite, fun _ => ⟨e, rfl⟩⟩

/-- A notation is read as its sum, whatever blanks surround it. -/
theorem read_yields {before after : List Char} (hbefore : ∀ c ∈ before, isBlank c)
    (hafter : ∀ c ∈ after, isBlank c) :
    Yields (Span.read (String.ofList (before ++ n.chars ++ after))) n.micros := by
  unfold Span.read
  simp only [String.toList_ofList, trimChars_surrounded hbefore n.stripped_chars hafter,
    n.readClock?_chars]
  exact n.span_parts_yields

end ClockNotation

/-! ## Durations in full -/

/-- A duration with all of its parts, two digits each and six of the fraction. -/
def clockText (micros : ℤ) : String :=
  let seconds := micros.natAbs / 1000000
  (if micros < 0 then "-" else "") ++ padded 1 (seconds / 86400) ++ "." ++
    padded 2 (seconds / 3600 % 24) ++ ":" ++ padded 2 (seconds / 60 % 60) ++ ":" ++
    padded 2 (seconds % 60) ++ "." ++ padded 6 (micros.natAbs % 1000000)

/-- Two digits of seconds and six of microseconds, if these are written. -/
def SecondsNotation.ofNumbers (second : ℕ) (micro : Option ℕ) (hsecond : second < 60)
    (hmicro : ∀ m ∈ micro, m < 1000000) : SecondsNotation where
  whole := Numeral.padded 2 second
  fraction := micro.map (Numeral.padded 6)
  length_whole := Numeral.length_padded (by decide) (by omega)
  length_fraction := by
    intro f hf
    obtain ⟨m, hm, rfl⟩ := Option.map_eq_some_iff.mp hf
    rw [Numeral.length_padded (by decide) (hmicro m hm)]
    decide

theorem SecondsNotation.fractionMicros_ofNumbers {second : ℕ} {micro : Option ℕ}
    (hsecond : second < 60) (hmicro : ∀ m ∈ micro, m < 1000000) :
    (ofNumbers second micro hsecond hmicro).fractionMicros = micro.getD 0 := by
  cases micro with
  | none => rfl
  | some m =>
    have hlength : (Numeral.padded 6 m).length = 6 :=
      Numeral.length_padded (by decide) (hmicro m rfl)
    simp only [fractionMicros, ofNumbers, Option.map_some, Option.elim_some, hlength,
      Numeral.value_padded, Option.getD_some]
    exact Nat.mul_div_cancel m (by decide)

namespace ClockNotation

variable {micros : ℤ}

/-- The notation of a duration in full. -/
def inFull (h : IsSpan micros) : ClockNotation where
  negative := micros < 0
  days := some (Numeral.padded 1 (micros.natAbs / 1000000 / 86400))
  hours := Numeral.padded 2 (micros.natAbs / 1000000 / 3600 % 24)
  minutes := Numeral.padded 2 (micros.natAbs / 1000000 / 60 % 60)
  seconds := some (.ofNumbers (micros.natAbs / 1000000 % 60) (some (micros.natAbs % 1000000))
    (Nat.mod_lt _ (by decide)) fun m hm => Option.some.inj hm ▸ Nat.mod_lt _ (by decide))
  length_days := by
    intro d hd
    obtain rfl := Option.some.inj hd
    have hdays : micros.natAbs / 1000000 / 86400 < 10 ^ 9 := by
      unfold IsSpan microsPerDay at h
      omega
    have hlength := Numeral.length_padded_one (by decide) hdays
    exact ⟨hlength.1, hlength.2.trans (by decide)⟩
  length_hours := by
    rw [Numeral.length_padded (by decide) (by omega)]
    decide
  length_minutes := Numeral.length_padded (by decide) (by omega)

theorem chars_inFull (h : IsSpan micros) : (inFull h).chars = (clockText micros).toList := by
  unfold clockText
  by_cases hnegative : micros < 0 <;>
    simp [chars, unsignedChars, tailChars, SecondsNotation.chars, SecondsNotation.ofNumbers,
      inFull, Numeral.padded, Numeral.ofAscii, String.toList_append, toList_padded, hnegative]

theorem micros_inFull (h : IsSpan micros) : (inFull h).micros = micros := by
  have hmagnitude : (inFull h).magnitude = micros.natAbs := by
    simp only [magnitude, dayCount, clockMicros, secondCount, inFull, Option.elim_some,
      Numeral.value_padded, SecondsNotation.fractionMicros_ofNumbers, Option.getD_some]
    simp only [SecondsNotation.ofNumbers, Numeral.value_padded]
    omega
  have hnegative : (inFull h).negative = decide (micros < 0) := rfl
  rw [ClockNotation.micros, hmagnitude, hnegative]
  split
  · next hsign =>
    have hneg := of_decide_eq_true hsign
    omega
  · next hsign =>
    have hneg := of_decide_eq_false (Bool.eq_false_iff.mpr hsign)
    omega

end ClockNotation

end PagedQuery.Time.Span

namespace PagedQuery

open PagedQuery.Text PagedQuery.Time PagedQuery.Time.Span

/-! ## Coerced durations -/

/-- A text that is read as a duration is coerced to it, and a text that is not is an error. -/
theorem ConversionCache.convert_span (c : ConversionCache) (s : Schema) {raw : String} {micros : ℤ}
    (h : Yields (Span.read raw) micros) :
    (IsSpan micros → c.convert s raw (.scalar .span) = (.ok (.span micros), c)) ∧
      (¬ IsSpan micros → ∃ reason,
        c.convert s raw (.scalar .span) =
          (.error (.conversion raw (.scalar .span) reason), c)) := by
  have hread : c.convert s raw (.scalar .span) = ((Scalar.readSpan raw).mapError fun e =>
      .conversion raw (.scalar .span) e, c) := by
    rw [c.convert_of_grammar? rfl, Schema.apply_ofReader]
    rfl
  rw [hread]
  unfold Scalar.readSpan
  constructor
  · intro hspan
    rw [h.1 hspan]
    rfl
  · intro hspan
    obtain ⟨e, he⟩ := h.2 hspan
    rw [he]
    cases e <;> exact ⟨_, rfl⟩

/-- A duration in clock notation between blanks is coerced to the sum of its parts, and refused if
this is no duration. Every duration is the sum of the parts that it has in full. -/
theorem ConversionCache.convert_clock (c : ConversionCache) (s : Schema) :
    (∀ (n : ClockNotation) (before after : List Char), (∀ b ∈ before, isBlank b) →
      (∀ b ∈ after, isBlank b) →
      let raw := String.ofList (before ++ n.chars ++ after)
      (IsSpan n.micros → c.convert s raw (.scalar .span) = (.ok (.span n.micros), c)) ∧
      (¬ IsSpan n.micros → ∃ reason, c.convert s raw (.scalar .span) =
        (.error (.conversion raw (.scalar .span) reason), c))) ∧
    ∀ micros, IsSpan micros →
      c.convert s (clockText micros) (.scalar .span) = (.ok (.span micros), c) := by
  refine ⟨fun n before after hbefore hafter =>
    c.convert_span s (n.read_yields hbefore hafter), fun micros h => ?_⟩
  have hread : Yields (Span.read (String.ofList ([] ++ (ClockNotation.inFull h).chars ++ []))) _ :=
    (ClockNotation.inFull h).read_yields (by simp) (by simp)
  rw [List.nil_append, List.append_nil, ClockNotation.chars_inFull, String.ofList_toList,
    ClockNotation.micros_inFull] at hread
  exact (c.convert_span s hread).1 h

/-- `-1.02:30:00.5678901`. -/
def dayAndHours : ClockNotation where
  negative := true
  days := some (Numeral.padded 1 1)
  hours := Numeral.padded 2 2
  minutes := Numeral.padded 2 30
  seconds := some
    { whole := Numeral.padded 2 0
      fraction := some (Numeral.padded 7 5678901)
      length_whole := by decide
      length_fraction := by decide }
  length_days := by decide
  length_hours := by decide
  length_minutes := by decide

/-- `-999999999.24:00`, a day more than the longest duration before none. -/
def dayTooLong : ClockNotation where
  negative := true
  days := some (Numeral.padded 1 999999999)
  hours := Numeral.padded 2 24
  minutes := Numeral.padded 2 0
  seconds := none
  length_days := by decide
  length_hours := by decide
  length_minutes := by decide

theorem ConversionCache.signed_convert_clock :
    ({} : ConversionCache).convert {} "\t-1.02:30:00.5678901 " (.scalar .span) =
        (.ok (.span (-95400567890)), {}) ∧
      (∃ reason, ({} : ConversionCache).convert {} "-999999999.24:00" (.scalar .span) =
        (.error (.conversion "-999999999.24:00" (.scalar .span) reason), {})) ∧
      ({} : ConversionCache).convert {} "-999999999.00:00:00.000000" (.scalar .span) =
        (.ok (.span (-999999999 * microsPerDay)), {}) := by
  obtain ⟨hread, hfull⟩ := ConversionCache.convert_clock {} {}
  have hgiven := (hread dayAndHours ['\t'] [' '] (List.forall_mem_singleton.mpr rfl)
    (List.forall_mem_singleton.mpr rfl)).1 (by decide)
  have hlong := (hread dayTooLong [] [] (List.forall_mem_nil _) (List.forall_mem_nil _)).2
    (by decide)
  have hleast := hfull (-999999999 * microsPerDay) (by decide)
  rw [show String.ofList _ = "\t-1.02:30:00.5678901 " by decide,
    show dayAndHours.micros = -95400567890 by decide] at hgiven
  rw [show String.ofList _ = "-999999999.24:00" by decide] at hlong
  rw [show clockText _ = "-999999999.00:00:00.000000" by decide] at hleast
  exact ⟨hgiven, hlong, hleast⟩

end PagedQuery
