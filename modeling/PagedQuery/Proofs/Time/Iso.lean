import PagedQuery.Proofs.Text.Digits
import PagedQuery.Proofs.Text.Percent
import PagedQuery.Proofs.Time.Reading

/-!
# ISO texts read back

The ISO text of a day is read as that day, and those of a time of day and of a moment are read as
these, up to their distance from universal time: one below a second is read as none.
-/

namespace PagedQuery.Time

open PagedQuery.Text

/-! ## Characters of numeric texts -/

/-- Digits and the marks that stand between them: plus, dash, point, slash and colon. -/
def IsNumeric (c : Char) : Prop := 43 ≤ c.toNat ∧ c.toNat ≤ 58

instance (c : Char) : Decidable (IsNumeric c) := inferInstanceAs (Decidable (_ ∧ _))

theorem isNumeric_of_isDigit {c : Char} (h : c.isDigit) : IsNumeric c := by
  simp only [Char.isDigit, Bool.and_eq_true, decide_eq_true_eq] at h
  have hge : 48 ≤ c.toNat := h.1
  have hle : c.toNat ≤ 57 := h.2
  unfold IsNumeric
  omega

theorem isNumeric_of_mem_digitChars {width n : ℕ} : ∀ c ∈ digitChars width n, IsNumeric c :=
  fun _ hc => isNumeric_of_isDigit (isDigit_of_mem_digitChars hc)

theorem IsNumeric.isBlank {c : Char} (h : IsNumeric c) : isBlank c = false := by
  unfold IsNumeric at h
  simp only [Text.isBlank, Bool.or_eq_false_iff, Bool.and_eq_false_iff, decide_eq_false_iff_not,
    beq_eq_false_iff_ne]
  omega

theorem IsNumeric.isAscii {c : Char} (h : IsNumeric c) : Percent.isAscii c := by
  unfold IsNumeric at h
  rw [Percent.isAscii, decide_eq_true_eq]
  omega

theorem stripped_of_isNumeric {cs : List Char} (h : ∀ c ∈ cs, IsNumeric c) : Stripped cs :=
  stripped_of_forall fun c hc => (h c hc).isBlank

/-! ## Texts as characters -/

/-- The characters of a day. -/
def Date.chars (d : Date) : List Char :=
  digitChars 4 d.year ++ '-' :: (digitChars 2 d.month ++ '-' :: digitChars 2 d.day)

theorem Date.toList_text (d : Date) : d.text.toList = d.chars := by
  simp [Date.text, Date.chars, String.toList_append, toList_padded]

/-- `HH:MM:SS`, with microseconds where they are not zero. -/
def clockChars (hour minute second micro : ℕ) : List Char :=
  digitChars 2 hour ++ ':' :: (digitChars 2 minute ++ ':' :: (digitChars 2 second ++
    if micro = 0 then [] else '.' :: digitChars 6 micro))

/-- The hours and minutes of an offset, with all that follows where seconds or microseconds are not
zero. -/
def offsetClockChars (micros : ℕ) : List Char :=
  let seconds := micros / 1000000
  if micros % 60000000 = 0 then
    digitChars 2 (seconds / 3600) ++ ':' :: digitChars 2 (seconds / 60 % 60)
  else clockChars (seconds / 3600) (seconds / 60 % 60) (seconds % 60) (micros % 1000000)

def offsetChars (offset : ℤ) : List Char :=
  (if offset < 0 then '-' else '+') :: offsetClockChars offset.natAbs

theorem toList_offsetText (offset : ℤ) : (offsetText offset).toList = offsetChars offset := by
  have hwhole : offset.natAbs % 60000000 = 0 → offset.natAbs % 1000000 = 0 := by omega
  unfold offsetText offsetChars offsetClockChars clockChars
  by_cases hminute : offset.natAbs % 60000000 = 0
  · by_cases hsign : offset < 0 <;>
      simp [String.toList_append, toList_padded, hminute, hwhole hminute, hsign]
  · by_cases hsign : offset < 0 <;> by_cases hmicro : offset.natAbs % 1000000 = 0 <;>
      simp [String.toList_append, toList_padded, hminute, hmicro, hsign]

namespace TimeOfDay

variable (t : TimeOfDay)

/-- The characters of a time of day. -/
def chars : List Char :=
  clockChars t.hour t.minute t.second t.micro ++ t.offset.elim [] offsetChars

theorem toList_text : t.text.toList = t.chars := by
  unfold text chars clockChars
  cases t.offset <;> by_cases hmicro : t.micro = 0 <;>
    simp [String.toList_append, toList_padded, toList_offsetText, hmicro]

end TimeOfDay

theorem mem_clockChars {hour minute second micro : ℕ} :
    ∀ c ∈ clockChars hour minute second micro, c.isDigit ∨ c = ':' ∨ c = '.' := by
  have hdigits : ∀ {width n}, ∀ c ∈ digitChars width n, c.isDigit ∨ c = ':' ∨ c = '.' :=
    fun c hc => .inl (isDigit_of_mem_digitChars hc)
  unfold clockChars
  simp only [List.forall_mem_append, List.forall_mem_cons]
  refine ⟨hdigits, by decide, hdigits, by decide, hdigits, ?_⟩
  split
  · simp
  · exact List.forall_mem_cons.mpr ⟨by decide, hdigits⟩

theorem isNumeric_of_mem_clockChars {hour minute second micro : ℕ} :
    ∀ c ∈ clockChars hour minute second micro, IsNumeric c := fun c hc => by
  rcases mem_clockChars c hc with h | rfl | rfl
  · exact isNumeric_of_isDigit h
  · decide
  · decide

theorem isNumeric_of_mem_offsetChars {offset : ℤ} : ∀ c ∈ offsetChars offset, IsNumeric c := by
  unfold offsetChars offsetClockChars
  rw [List.forall_mem_cons]
  refine ⟨by split <;> decide, ?_⟩
  simp only
  split
  · simp only [List.forall_mem_append, List.forall_mem_cons]
    exact ⟨isNumeric_of_mem_digitChars, by decide, isNumeric_of_mem_digitChars⟩
  · exact isNumeric_of_mem_clockChars

theorem Date.isNumeric_of_mem_chars {d : Date} : ∀ c ∈ d.chars, IsNumeric c := by
  unfold Date.chars
  simp only [List.forall_mem_append, List.forall_mem_cons]
  exact ⟨isNumeric_of_mem_digitChars, by decide, isNumeric_of_mem_digitChars, by decide,
    isNumeric_of_mem_digitChars⟩

theorem TimeOfDay.isNumeric_of_mem_chars {t : TimeOfDay} : ∀ c ∈ t.chars, IsNumeric c := by
  unfold TimeOfDay.chars
  rw [List.forall_mem_append]
  refine ⟨isNumeric_of_mem_clockChars, ?_⟩
  cases t.offset with
  | none => simp
  | some offset => exact isNumeric_of_mem_offsetChars

theorem Date.length_chars {d : Date} (h : d.valid) : d.chars.length = 10 := by
  obtain ⟨hyear, hmonth, hday⟩ := Date.bounds h
  rw [chars, List.length_append, List.length_cons, List.length_append, List.length_cons,
    length_digitChars (by decide) hyear, length_digitChars (by decide) hmonth,
    length_digitChars (by decide) hday]

theorem Date.of?_eq {d : Date} (h : d.valid) : Date.of? d.year d.month d.day = some d := if_pos h

/-! ## Offsets -/

/-- What is left of an offset: one below a second is read as none. -/
def keptOffset (offset : ℤ) : ℤ := if offset.natAbs < 1000000 then 0 else offset

theorem keptOffset_eq_self_iff {offset : ℤ} :
    keptOffset offset = offset ↔ offset = 0 ∨ 1000000 ≤ offset.natAbs := by
  unfold keptOffset
  split <;> omega

namespace TimeOfDay

/-- The time of day with what is left of its offset. -/
def kept (t : TimeOfDay) : TimeOfDay := { t with offset := t.offset.map keptOffset }

/-- Whether the offset, if there is one, is less than a day. -/
def hasOffset (t : TimeOfDay) : Prop := ∀ o ∈ t.offset, o.natAbs < 86400000000

instance (t : TimeOfDay) : Decidable t.hasOffset :=
  inferInstanceAs (Decidable (∀ o ∈ t.offset, _))

theorem kept_eq_self_iff {t : TimeOfDay} :
    t.kept = t ↔ ∀ o ∈ t.offset, o = 0 ∨ 1000000 ≤ o.natAbs := by
  obtain ⟨hour, minute, second, micro, offset⟩ := t
  cases offset with
  | none => simp [kept]
  | some offset => simp [kept, keptOffset_eq_self_iff]

end TimeOfDay

namespace Iso

/-! ## Fields -/

theorem bytes_eq {s : String} (h : ∀ c ∈ s.toList, Percent.isAscii c) : bytes s = s.toList := by
  unfold bytes encodeUtf8
  generalize s.toList = cs at h
  induction cs with
  | nil => rfl
  | cons c cs ih =>
    obtain ⟨hc, hcs⟩ := List.forall_mem_cons.mp h
    have hcode : (UInt8.ofNat c.toNat).toNat = c.toNat := by
      rw [Percent.isAscii, decide_eq_true_eq] at hc
      exact toNat_ofNat_byte (by omega)
    rw [List.flatMap_cons, Percent.utf8EncodeChar_of_isAscii hc, List.map_append, ih hcs,
      List.map_singleton, hcode, c.ofNat_toNat, List.singleton_append]

/-- A number in as many digits as are read is read. -/
theorem digits?_digitChars {width n : ℕ} (hw : width ≠ 0) (h : n < 10 ^ width) (rest : List Char) :
    digits? width (digitChars width n ++ rest) = some (n, rest) := by
  have hlength := length_digitChars hw h
  simp only [digits?]
  rw [List.take_append_of_le_length hlength.ge, List.drop_append_of_le_length hlength.ge,
    List.take_of_length_le hlength.le, List.drop_of_length_le hlength.le, ofDigits_digitChars]
  exact if_pos ⟨hlength, List.all_eq_true.mpr fun c hc => isDigit_of_mem_digitChars hc⟩

theorem digits?_eq_none {width : ℕ} {cs : List Char} {c : Char} (hc : c ∈ cs.take width)
    (h : ¬ c.isDigit) : digits? width cs = none := by
  refine if_neg fun ⟨_, hall⟩ => h (List.all_eq_true.mp hall c hc)

theorem isDigit_of_head?_digitChars {width n : ℕ} (hw : width ≠ 0) (h : n < 10 ^ width)
    {rest : List Char} {c : Char} (hc : c ∈ (digitChars width n ++ rest).head?) : c.isDigit := by
  have hne : digitChars width n ≠ [] :=
    List.ne_nil_of_length_pos ((length_digitChars hw h).symm ▸ Nat.pos_of_ne_zero hw)
  rw [List.head?_append_of_ne_nil _ hne] at hc
  exact isDigit_of_mem_digitChars (List.mem_of_head? hc)

/-! ## Days -/

theorem readDay?_chars {d : Date} (h : d.valid) : readDay? d.chars = some d := by
  obtain ⟨hyear, hmonth, hday⟩ := Date.bounds h
  have hweek : (digitChars 2 d.month ++ '-' :: digitChars 2 d.day).head? ≠ some 'W' := fun hw =>
    absurd (isDigit_of_head?_digitChars (by decide) hmonth hw) (by decide)
  have hlast := digits?_digitChars (by decide) hday []
  rw [List.append_nil] at hlast
  unfold readDay? Date.chars
  rw [digits?_digitChars (by decide) hyear]
  simp only [Option.bind_eq_bind, Option.bind_some, List.head?_cons, decide_true, if_true,
    List.drop_succ_cons, List.drop_zero, if_neg hweek,
    digits?_digitChars (by decide : 2 ≠ 0) hmonth, separator?, hlast, Date.of?_eq h]

theorem dayLength_chars_append {d : Date} (h : d.valid) (rest : List Char) :
    dayLength (d.chars ++ rest) = 10 := by
  have hlength := d.length_chars h
  have hyear : (digitChars 4 d.year).length = 4 := length_digitChars (by decide) (Date.bounds h).1
  have hdash : (d.chars ++ rest)[4]? = some '-' := by
    rw [List.getElem?_append_left (by omega), Date.chars,
      List.getElem?_append_right (by omega), hyear]
    rfl
  have hweek : (d.chars ++ rest)[5]? ≠ some 'W' := fun hw => by
    rw [List.getElem?_append_left (by omega)] at hw
    exact absurd (Date.isNumeric_of_mem_chars 'W' (List.mem_of_getElem? hw)) (by decide)
  simp only [dayLength, List.length_append, hlength]
  rw [if_neg (by omega), if_pos hdash, if_neg hweek]

/-! ## Clocks -/

theorem afterField?_colon (more : Bool) {cs : List Char} (h : cs ≠ []) :
    afterField? true more (':' :: cs) = some (.next cs) := by
  obtain ⟨c, cs, rfl⟩ := List.exists_cons_of_ne_nil h
  rfl

theorem afterField?_point {colons more : Bool} {cs : List Char} (h : cs ≠ []) :
    afterField? colons more ('.' :: cs) = some (.fraction cs) := by
  obtain ⟨c, cs, rfl⟩ := List.exists_cons_of_ne_nil h
  cases colons <;> rfl

theorem digitChars_append_ne_nil {width n : ℕ} (hw : width ≠ 0) (h : n < 10 ^ width)
    (rest : List Char) : digitChars width n ++ rest ≠ [] :=
  List.append_ne_nil_of_left_ne_nil
    (List.ne_nil_of_length_pos ((length_digitChars hw h).symm ▸ Nat.pos_of_ne_zero hw)) rest

theorem readFraction?_digitChars {micro : ℕ} (more : Bool) (h : micro < 1000000) :
    readFraction? more (digitChars 6 micro) = some (micro, more) := by
  have hread := digits?_digitChars (by decide : 6 ≠ 0) h []
  rw [List.append_nil] at hread
  simp only [readFraction?, length_digitChars (by decide : 6 ≠ 0) h, min_self, hread]
  simp [isStray]

theorem readClock?_clockChars {hour minute second micro : ℕ} (more : Bool) (hhour : hour < 100)
    (hminute : minute < 100) (hsecond : second < 100) (hmicro : micro < 1000000) :
    readClock? more (clockChars hour minute second micro) =
      some ⟨hour, minute, second, micro, more⟩ := by
  have hminutes := fun rest => afterField?_colon more
    (digitChars_append_ne_nil (by decide : 2 ≠ 0) hminute rest)
  have hseconds := fun rest => afterField?_colon more
    (digitChars_append_ne_nil (by decide : 2 ≠ 0) hsecond rest)
  unfold readClock? clockChars
  rw [digits?_digitChars (by decide) hhour]
  simp only [Option.bind_eq_bind, Option.bind_some, List.head?_cons, decide_true, hminutes,
    hseconds, digits?_digitChars (by decide : 2 ≠ 0) hminute,
    digits?_digitChars (by decide : 2 ≠ 0) hsecond]
  split
  · next hzero =>
    rw [hzero]
    rfl
  · have hne := digitChars_append_ne_nil (by decide : 6 ≠ 0) hmicro []
    rw [List.append_nil] at hne
    simp only [afterField?_point hne, Option.bind_some, readFraction?_digitChars more hmicro]
    rfl

/-- The clock of an offset. -/
theorem readClock?_offsetClockChars {micros : ℕ} (h : micros < 86400000000) :
    readClock? false (offsetClockChars micros) = some ⟨micros / 1000000 / 3600,
      micros / 1000000 / 60 % 60, micros / 1000000 % 60, micros % 1000000, false⟩ := by
  unfold offsetClockChars
  simp only
  split
  · next hwhole =>
    have hhour : micros / 1000000 / 3600 < 10 ^ 2 := by omega
    have hminute : micros / 1000000 / 60 % 60 < 10 ^ 2 := by omega
    have hne := digitChars_append_ne_nil (by decide : 2 ≠ 0) hminute []
    have hread := digits?_digitChars (by decide : 2 ≠ 0) hminute []
    rw [List.append_nil] at hne hread
    unfold readClock?
    rw [digits?_digitChars (by decide) hhour]
    simp only [Option.bind_eq_bind, Option.bind_some, List.head?_cons, decide_true,
      afterField?_colon false hne, hread, show micros / 1000000 % 60 = 0 by omega,
      show micros % 1000000 = 0 by omega]
    rfl
  · exact readClock?_clockChars false (by omega) (by omega) (by omega) (by omega)

/-! ## Times of day and moments -/

theorem offset_clock {offset : ℤ} (h : offset.natAbs < 86400000000) :
    Clock.offset (decide (offset < 0)) ⟨offset.natAbs / 1000000 / 3600,
      offset.natAbs / 1000000 / 60 % 60, offset.natAbs / 1000000 % 60, offset.natAbs % 1000000,
      false⟩ = keptOffset offset := by
  have hseconds : (offset.natAbs / 1000000 / 3600 * 60 + offset.natAbs / 1000000 / 60 % 60) * 60 +
      offset.natAbs / 1000000 % 60 = offset.natAbs / 1000000 := by omega
  simp only [Clock.offset, hseconds, keptOffset, microsPerSecond]
  by_cases hsmall : offset.natAbs < 1000000
  · rw [if_pos (by omega), if_pos hsmall]
  · rw [if_neg (by omega), if_neg hsmall]
    by_cases hsign : offset < 0 <;> simp only [hsign, decide_true, decide_false, if_true,
      Bool.false_eq_true, if_false] <;> omega

theorem not_startsOffset_of_mem_clockChars {hour minute second micro : ℕ} :
    ∀ c ∈ clockChars hour minute second micro, (!startsOffset c) = true := fun c hc => by
  rcases mem_clockChars c hc with h | rfl | rfl
  · have hne : ∀ mark : Char, ¬ mark.isDigit → c ≠ mark := fun _ hmark hc => hmark (hc ▸ h)
    simp [startsOffset, hne '+' (by decide), hne '-' (by decide), hne 'Z' (by decide)]
  · rfl
  · rfl

theorem readParts_chars {t : TimeOfDay} (h : t.valid) (ho : t.hasOffset) :
    readParts t.chars = .ok (⟨t.hour, t.minute, t.second, t.micro, t.offset.isSome⟩,
      t.offset.map keptOffset) := by
  obtain ⟨hhour, hminute, hsecond, hmicro⟩ := TimeOfDay.valid_iff.mp h
  have hread := fun more => readClock?_clockChars more (by omega : t.hour < 100)
    (by omega : t.minute < 100) (by omega : t.second < 100) hmicro
  simp only [readParts, TimeOfDay.chars,
    List.takeWhile_append_of_pos not_startsOffset_of_mem_clockChars,
    List.dropWhile_append_of_pos not_startsOffset_of_mem_clockChars]
  cases hoffset : t.offset with
  | none => simp [hread]
  | some offset =>
    have hlt : offset.natAbs < 86400000000 := ho offset hoffset
    have hclock := offset_clock hlt
    have hrange : ¬ (keptOffset offset ≤ -microsPerDay ∨ microsPerDay ≤ keptOffset offset) := by
      unfold keptOffset microsPerDay
      split <;> omega
    by_cases hsign : offset < 0
    · simp only [hsign, decide_true] at hclock
      simp [offsetChars, hsign, startsOffset, hread, readClock?_offsetClockChars hlt, hclock,
        hrange]
    · simp only [hsign, decide_false] at hclock
      simp [offsetChars, hsign, startsOffset, hread, readClock?_offsetClockChars hlt, hclock,
        hrange]

theorem toTime_eq {t : TimeOfDay} (h : t.valid) (stray : Bool) (offset : Option ℤ) :
    Clock.toTime ⟨t.hour, t.minute, t.second, t.micro, stray⟩ offset =
      .ok { t with offset := offset } := by
  obtain ⟨hhour, hminute, hsecond, -⟩ := TimeOfDay.valid_iff.mp h
  simp only [Clock.toTime]
  rw [if_neg (by omega), if_neg (by omega), if_neg (by omega)]

/-- The ISO text of a time of day is read as it, with what is left of its offset. -/
theorem readTime_text {t : TimeOfDay} (h : t.valid) (ho : t.hasOffset) :
    readTime t.text = .ok t.kept := by
  have hchars := t.toList_text
  have hbytes : bytes t.text = t.chars := by
    rw [bytes_eq, hchars]
    exact fun c hc => (TimeOfDay.isNumeric_of_mem_chars c (hchars ▸ hc)).isAscii
  have hmark : t.chars.head? ≠ some 'T' := fun hhead =>
    absurd (TimeOfDay.isNumeric_of_mem_chars 'T' (List.mem_of_head? hhead)) (by decide)
  simp only [readTime, hbytes, if_neg hmark, readParts_chars h ho]
  exact toTime_eq h _ _

/-- The text of a moment with any ASCII character between the day and the time is read as it, with
what is left of its offset. -/
theorem readDateTime_textWith {t : DateTime} (h : t.valid) (ho : t.time.hasOffset)
    {separator : String} {c : Char} (hseparator : separator.toList = [c])
    (hascii : Percent.isAscii c) :
    readDateTime (t.textWith separator) = .ok ⟨t.date, t.time.kept⟩ := by
  rw [DateTime.valid, Bool.and_eq_true] at h
  have hlength := t.date.length_chars h.1
  have hchars : (t.textWith separator).toList = t.date.chars ++ c :: t.time.chars := by
    rw [DateTime.textWith, String.toList_append, String.toList_append, t.date.toList_text,
      t.time.toList_text, hseparator, List.append_assoc, List.singleton_append]
  have hbytes : bytes (t.textWith separator) = t.date.chars ++ c :: t.time.chars := by
    rw [bytes_eq, hchars]
    rw [hchars, List.forall_mem_append, List.forall_mem_cons]
    exact ⟨fun c hc => (Date.isNumeric_of_mem_chars c hc).isAscii, hascii,
      fun c hc => (TimeOfDay.isNumeric_of_mem_chars c hc).isAscii⟩
  have hsize : characterSize c - 1 = 0 := by
    have hcode : c.toNat < 128 := of_decide_eq_true hascii
    rw [characterSize, if_pos hcode]
  simp only [readDateTime, hbytes, dayLength_chars_append h.1, List.take_left' hlength,
    List.drop_left' hlength, readDay?_chars h.1, hsize, List.drop_zero, readParts_chars h.2 ho]
  refine (pure_bind _ _).trans ?_
  rw [toTime_eq h.2]
  rfl

/-- The text of a day is read as a day. -/
theorem readDate?_text {d : Date} (h : d.valid) : readDate? d.text = some d := by
  have hbytes : bytes d.text = d.chars := by
    rw [bytes_eq, d.toList_text]
    exact fun c hc => (Date.isNumeric_of_mem_chars c (d.toList_text ▸ hc)).isAscii
  simp only [readDate?, hbytes, d.length_chars h]
  exact readDay?_chars h

/-- The text of a day is read as its midnight. -/
theorem readDateTime_text {d : Date} (h : d.valid) : readDateTime d.text = .ok d.toDateTime := by
  have hbytes : bytes d.text = d.chars := by
    rw [bytes_eq, d.toList_text]
    exact fun c hc => (Date.isNumeric_of_mem_chars c (d.toList_text ▸ hc)).isAscii
  have hlength := dayLength_chars_append h []
  rw [List.append_nil] at hlength
  simp only [readDateTime, hbytes, hlength, List.take_of_length_le (d.length_chars h).le,
    List.drop_of_length_le (d.length_chars h).le, readDay?_chars h]
  rfl

end Iso

end PagedQuery.Time
