import PagedQuery.Proofs.Coercion.Remembering
import PagedQuery.Proofs.Time.Iso

/-!
# Days and moments coerced from their texts

A day can be written as three numbers with dashes or slashes, the year first or the day. Every such
text is refused by all readers that come before the one for its form, and is coerced to the day and
to its midnight. The ISO text of a moment is coerced to the moment, unless its distance from
universal time is below a second: this distance is lost.
-/

namespace PagedQuery.Time

open PagedQuery.Text

namespace Pattern

variable {d : Date} {form : Form}

/-! ## Numeric dates -/

/-- The characters of a day in a form. -/
def Form.chars (form : Form) (d : Date) : List Char :=
  if form.yearFirst then
    digitChars 4 d.year ++ form.separator :: (digitChars 2 d.month ++
      form.separator :: digitChars 2 d.day)
  else
    digitChars 2 d.day ++ form.separator :: (digitChars 2 d.month ++
      form.separator :: digitChars 4 d.year)

/-- A day in a form, padded with zeros. -/
def Form.text (form : Form) (d : Date) : String := String.ofList (form.chars d)

/-- A part is read as a number at first; in its other readings a digit is left over. -/
def ReadsAs (part : Part) (cs : List Char) (n : ℕ) (rest : List Char) : Prop :=
  ∃ others, part.readings cs = (n, rest) :: others ∧ ∀ r ∈ others, ∃ c ∈ r.2.head?, c.isDigit

theorem readsAs_alone {part : Part} {cs : List Char} {n : ℕ} {rest : List Char}
    (h : part.readings cs = [(n, rest)]) : ReadsAs part cs n rest :=
  ⟨[], h, fun _ hr => absurd hr List.not_mem_nil⟩

/-- The second reading takes one digit of two. -/
theorem readsAs_twice {part : Part} {cs : List Char} {n n' : ℕ} {c : Char} {rest : List Char}
    (h : part.readings cs = [(n, rest), (n', c :: rest)]) (hc : c.isDigit) :
    ReadsAs part cs n rest :=
  ⟨[(n', c :: rest)], h, fun _ hr => ⟨c, by rw [List.mem_singleton.mp hr]; rfl, hc⟩⟩

theorem readsAs_day {n : ℕ} (h : 1 ≤ n) (h' : n ≤ 31) (rest : List Char) :
    ReadsAs .day (digitChars 2 n ++ rest) n rest := by
  rcases Nat.lt_or_ge n 10 with hn | hn
  · interval_cases n <;> exact readsAs_alone rfl
  · interval_cases n <;> exact readsAs_twice rfl rfl

theorem readsAs_month {n : ℕ} (h : 1 ≤ n) (h' : n ≤ 12) (rest : List Char) :
    ReadsAs .month (digitChars 2 n ++ rest) n rest := by
  rcases Nat.lt_or_ge n 10 with hn | hn
  · interval_cases n <;> exact readsAs_alone rfl
  · interval_cases n <;> exact readsAs_twice rfl rfl

theorem valueOf_digitChars {width n : ℕ} : valueOf (digitChars width n) = n := by
  exact Numeral.value_padded width n

theorem readsAs_year {n : ℕ} (h : n < 10 ^ 4) (rest : List Char) :
    ReadsAs .year (digitChars 4 n ++ rest) n rest := by
  have hlength : (digitChars 4 n).length = 4 := length_digitChars (by decide) h
  refine readsAs_alone ?_
  simp only [Part.readings, yearReadings, List.take_left' hlength, List.drop_left' hlength,
    valueOf_digitChars]
  refine if_pos ⟨hlength, List.all_eq_true.mpr fun c hc => ?_⟩
  rw [digitValue?_of_isDigit (isDigit_of_mem_digitChars hc)]
  rfl

/-- Two digits and a separator are no year. -/
theorem yearReadings_eq_nil {n : ℕ} (h : n < 10 ^ 2) {separator : Char}
    (hseparator : digitValue? separator = none) (rest : List Char) :
    yearReadings (digitChars 2 n ++ separator :: rest) = [] := by
  have hlength : (digitChars 2 n).length = 2 := length_digitChars (by decide) h
  have hmem : separator ∈ (digitChars 2 n ++ separator :: rest).take 4 := by
    rw [List.take_append, hlength]
    exact List.mem_append_right _ List.mem_cons_self
  refine if_neg fun ⟨_, hall⟩ => ?_
  have hsome := List.all_eq_true.mp hall separator hmem
  rw [hseparator] at hsome
  cases hsome

theorem firstReading?_cons_cons (separator : Char) (part next : Part) (parts : List Part)
    (cs : List Char) :
    firstReading? separator (part :: next :: parts) cs =
      (part.readings cs).findSome? fun (n, rest) =>
        if rest.head? = some separator then
          (firstReading? separator (next :: parts) (rest.drop 1)).map fun (ns, rest) =>
            (n :: ns, rest)
        else none := by
  rw [firstReading?]
  simp

/-- What comes after the first reading of a part must be its separator. -/
theorem firstReading?_cons {separator mark : Char} {part next : Part} {parts : List Part}
    {cs : List Char} {n : ℕ} {rest : List Char} (hseparator : ¬ separator.isDigit)
    (h : ReadsAs part cs n (mark :: rest)) :
    firstReading? separator (part :: next :: parts) cs =
      if mark = separator then
        (firstReading? separator (next :: parts) rest).map fun (ns, rest) => (n :: ns, rest)
      else none := by
  obtain ⟨others, hreadings, hothers⟩ := h
  have hnone : others.findSome? (fun (n, rest) =>
      if rest.head? = some separator then
        (firstReading? separator (next :: parts) (rest.drop 1)).map
          fun (ns, rest) => (n :: ns, rest)
      else none) = none := by
    rw [List.findSome?_eq_none_iff]
    intro r hr
    obtain ⟨c, hc, hdigit⟩ := hothers r hr
    refine if_neg fun hhead => hseparator ?_
    rw [hhead, Option.mem_some_iff] at hc
    exact hc ▸ hdigit
  rw [firstReading?_cons_cons, hreadings, List.findSome?_cons, hnone]
  simp only [List.head?_cons, Option.some.injEq, List.drop_succ_cons, List.drop_zero]
  by_cases hmark : mark = separator
  · rw [if_pos hmark]
    cases firstReading? separator (next :: parts) rest <;> rfl
  · rw [if_neg hmark]

theorem firstReading?_singleton {separator : Char} {part : Part} {cs : List Char} {n : ℕ}
    {rest : List Char} (h : ReadsAs part cs n rest) :
    firstReading? separator [part] cs = some ([n], rest) := by
  obtain ⟨others, hreadings, -⟩ := h
  rw [firstReading?, hreadings]
  rfl

/-- Three parts with one mark between them are read if it is the separator. -/
theorem firstReading?_three {separator mark : Char} {first second third : Part}
    {cs cs' cs'' : List Char} {n n' n'' : ℕ} (hseparator : ¬ separator.isDigit)
    (h : ReadsAs first cs n (mark :: cs')) (h' : ReadsAs second cs' n' (mark :: cs''))
    (h'' : ReadsAs third cs'' n'' []) :
    firstReading? separator [first, second, third] cs =
      if mark = separator then some ([n, n', n''], []) else none := by
  rw [firstReading?_cons hseparator h, firstReading?_cons hseparator h',
    firstReading?_singleton h'']
  split <;> rfl

/-! ## Forms -/

/-- A day in a form is read in the same form, and not with another separator. -/
theorem Form.read?_text (form : Form) (h : d.valid) {separator : Char}
    (hseparator : ¬ separator.isDigit) :
    (Form.mk separator form.yearFirst).read? (form.text d) =
      if form.separator = separator then some d else none := by
  obtain ⟨hyear, hmonth, hday⟩ := Date.valid_iff.mp h
  have hyear := (Date.bounds h).1
  have hlast : d.day ≤ 31 := hday.2.trans (daysInMonth_le _ _)
  have hm := fun rest => readsAs_month hmonth.1 hmonth.2 rest
  unfold Form.read? Form.text Form.chars
  cases form.yearFirst with
  | true =>
    have hd := readsAs_day hday.1 hlast []
    rw [List.append_nil] at hd
    simp only [if_true, String.toList_ofList,
      firstReading?_three hseparator (readsAs_year hyear _) (hm _) hd]
    by_cases hsame : form.separator = separator
    · simp only [if_pos hsame, Date.of?_eq h]
    · simp only [if_neg hsame]
  | false =>
    have hy := readsAs_year hyear []
    rw [List.append_nil] at hy
    simp only [Bool.false_eq_true, if_false, String.toList_ofList,
      firstReading?_three hseparator (readsAs_day hday.1 hlast _) (hm _) hy]
    by_cases hsame : form.separator = separator
    · simp only [if_pos hsame, Date.of?_eq h]
    · simp only [if_neg hsame]

/-- A day before its year is not read with the year first. -/
theorem Form.read?_text_of_dayFirst (separator : Char) (h : d.valid) {mark : Char}
    (hmark : digitValue? mark = none) :
    (Form.mk separator true).read? ((Form.mk mark false).text d) = none := by
  have hnone : ∀ rest, firstReading? separator [.year, .month, .day]
      (digitChars 2 d.day ++ mark :: rest) = none := by
    intro rest
    have hyear := yearReadings_eq_nil (Date.bounds h).2.2 hmark rest
    rw [firstReading?_cons_cons, Part.readings, hyear, List.findSome?_nil]
  unfold Form.read? Form.text Form.chars
  simp only [if_true, Bool.false_eq_true, if_false, String.toList_ofList, hnone]

theorem digitValue?_separator (h : form ∈ forms) : digitValue? form.separator = none := by
  simp only [forms, List.mem_cons, List.not_mem_nil, or_false] at h
  rcases h with rfl | rfl | rfl | rfl <;> decide

/-- A day in one of the accepted forms is read. -/
theorem readDate?_text (h : d.valid) (hform : form ∈ forms) : readDate? (form.text d) = some d := by
  have hdash := fun form => Form.read?_text form h (by decide : ¬ '-'.isDigit)
  have hslash := fun form => Form.read?_text form h (by decide : ¬ '/'.isDigit)
  have hyear := fun separator => Form.read?_text_of_dayFirst separator h
    (digitValue?_separator hform)
  simp only [forms, List.mem_cons, List.not_mem_nil, or_false] at hform
  unfold readDate? forms
  rcases hform with rfl | rfl | rfl | rfl
  · rw [List.findSome?_cons, hdash ⟨'-', true⟩]
    rfl
  · rw [List.findSome?_cons, hdash ⟨'/', true⟩, List.findSome?_cons, hslash ⟨'/', true⟩]
    rfl
  · rw [List.findSome?_cons, hyear, List.findSome?_cons, hyear, List.findSome?_cons,
      hdash ⟨'-', false⟩]
    rfl
  · rw [List.findSome?_cons, hyear, List.findSome?_cons, hyear, List.findSome?_cons,
      hdash ⟨'/', false⟩, List.findSome?_cons, hslash ⟨'/', false⟩]
    rfl

theorem Form.isNumeric_of_mem_chars (h : form ∈ forms) : ∀ c ∈ form.chars d, IsNumeric c := by
  have hseparator : IsNumeric form.separator := by
    simp only [forms, List.mem_cons, List.not_mem_nil, or_false] at h
    rcases h with rfl | rfl | rfl | rfl <;> decide
  unfold Form.chars
  split <;> simp only [List.forall_mem_append, List.forall_mem_cons] <;>
    exact ⟨isNumeric_of_mem_digitChars, hseparator, isNumeric_of_mem_digitChars, hseparator,
      isNumeric_of_mem_digitChars⟩

theorem Form.length_chars (h : d.valid) (form : Form) : (form.chars d).length = 10 := by
  obtain ⟨hyear, hmonth, hday⟩ := Date.bounds h
  have hyear := length_digitChars (by decide : 4 ≠ 0) hyear
  have hmonth := length_digitChars (by decide : 2 ≠ 0) hmonth
  have hday := length_digitChars (by decide : 2 ≠ 0) hday
  unfold Form.chars
  split <;>
    rw [List.length_append, List.length_cons, List.length_append, List.length_cons] <;> omega

end Pattern

namespace Iso

open Pattern

variable {d : Date} {form : Form}

/-! ## Days that are no ISO texts -/

theorem seven_le_dayLength (cs : List Char) : 7 ≤ dayLength cs := by
  unfold dayLength
  simp only
  split_ifs <;> omega

theorem readDay?_slash {year : ℕ} (h : year < 10 ^ 4) (rest : List Char) :
    readDay? (digitChars 4 year ++ '/' :: rest) = none := by
  have hmonth : digits? 2 ('/' :: rest) = none := digits?_eq_none List.mem_cons_self (by decide)
  unfold readDay?
  rw [digits?_digitChars (by decide) h]
  simp [hmonth]

theorem readDay?_mark {day n : ℕ} (h : day < 10 ^ 2) (hn : 7 ≤ n) {mark : Char}
    (hmark : digitValue? mark = none) (rest : List Char) :
    readDay? ((digitChars 2 day ++ mark :: rest).take n) = none := by
  have hlength : (digitChars 2 day).length = 2 := length_digitChars (by decide) h
  have hmem : mark ∈ ((digitChars 2 day ++ mark :: rest).take n).take 4 := by
    rw [List.take_take, min_eq_left (by omega), List.take_append, hlength]
    exact List.mem_append_right _ List.mem_cons_self
  have hyear := digits?_eq_none hmem fun hdigit => by
    rw [digitValue?_of_isDigit hdigit] at hmark
    cases hmark
  unfold readDay?
  rw [hyear]
  rfl

/-- No part of a day in another form than the ISO one is an ISO day, if it is long enough. -/
theorem readDay?_take_chars (h : d.valid) (hform : form ∈ forms) (hiso : form ≠ ⟨'-', true⟩) {n : ℕ}
    (hn : 7 ≤ n) : readDay? ((form.chars d).take n) = none := by
  have hmark := digitValue?_separator hform
  simp only [forms, List.mem_cons, List.not_mem_nil, or_false] at hform
  unfold Form.chars
  rcases hform with rfl | rfl | rfl | rfl
  · exact (hiso rfl).elim
  · obtain ⟨k, rfl⟩ := Nat.exists_eq_add_of_le' (Nat.le_trans (by decide : 5 ≤ 7) hn)
    have hlength : (digitChars 4 d.year).length = 4 :=
      length_digitChars (by decide) (Date.bounds h).1
    rw [if_pos rfl, List.take_append, List.take_of_length_le (by omega), hlength,
      show k + 5 - 4 = k + 1 by omega, List.take_succ_cons]
    exact readDay?_slash (Date.bounds h).1 _
  · exact readDay?_mark (Date.bounds h).2.2 hn hmark _
  · exact readDay?_mark (Date.bounds h).2.2 hn hmark _

theorem bytes_text (hform : form ∈ forms) : bytes (form.text d) = form.chars d := by
  have hchars : (form.text d).toList = form.chars d := String.toList_ofList
  rw [bytes_eq, hchars]
  exact fun c hc => (Form.isNumeric_of_mem_chars hform c (hchars ▸ hc)).isAscii

theorem readDate?_form (h : d.valid) (hform : form ∈ forms) (hiso : form ≠ ⟨'-', true⟩) :
    readDate? (form.text d) = none := by
  have hread := readDay?_take_chars h hform hiso (n := 10) (by decide)
  rw [List.take_of_length_le (form.length_chars h).le] at hread
  simp only [readDate?, bytes_text hform, hread, ite_self]

theorem readDateTime_form (h : d.valid) (hform : form ∈ forms) (hiso : form ≠ ⟨'-', true⟩) :
    readDateTime (form.text d) = .error .malformed := by
  simp only [readDateTime, bytes_text hform,
    readDay?_take_chars h hform hiso (seven_le_dayLength _)]

end Iso

end PagedQuery.Time

namespace PagedQuery.Scalar

open PagedQuery.Text PagedQuery.Time

variable {d : Date} {form : Pattern.Form} {t : DateTime}

/-! ## Readers of request texts -/

/-- Only a final letter is spelled out. -/
theorem spellOutZulu_of_isNumeric {s : String} (h : ∀ c ∈ s.toList.getLast?, IsNumeric c) :
    spellOutZulu s = s := by
  have hupper : s.toList.getLast? ≠ some 'Z' := fun hz => absurd (h 'Z' hz) (by decide)
  have hlower : s.toList.getLast? ≠ some 'z' := fun hz => absurd (h 'z' hz) (by decide)
  simp only [spellOutZulu, hupper, hlower, or_self, if_false]

theorem text_dash (d : Date) : (Pattern.Form.mk '-' true).text d = d.text := by
  rw [← String.toList_inj, d.toList_text]
  exact String.toList_ofList

theorem toList_text_form (form : Pattern.Form) (d : Date) : (form.text d).toList = form.chars d :=
  String.toList_ofList

theorem trim_text_form (hform : form ∈ Pattern.forms) : trim (form.text d) = form.text d :=
  trim_of_stripped (toList_text_form form d ▸
    stripped_of_isNumeric (Pattern.Form.isNumeric_of_mem_chars hform))

theorem readDate_of_iso {raw : String} (htrim : trim raw = raw) (h : Iso.readDate? raw = some d) :
    readDate raw = .ok (.date d) := by
  simp only [readDate, htrim, h, Option.orElse_some]

theorem readDate_of_pattern {raw : String} (htrim : trim raw = raw)
    (h : Iso.readDate? raw = none) (h' : Pattern.readDate? raw = some d) :
    readDate raw = .ok (.date d) := by
  simp only [readDate, htrim, h, h', Option.orElse_none]

theorem readDateTime_of_iso {raw spelled : String} (hspelled : spellOutZulu (trim raw) = spelled)
    (h : Iso.readDateTime spelled = .ok t) : readDateTime raw = .ok (.dateTime t) := by
  unfold readDateTime
  simp only [hspelled, h]

theorem readDateTime_of_pattern {raw spelled : String} {e : Iso.IsoError}
    (hspelled : spellOutZulu (trim raw) = spelled) (h : Iso.readDateTime spelled = .error e)
    (h' : Pattern.readDate? spelled = some d) :
    readDateTime raw = .ok (.dateTime d.toDateTime) := by
  unfold readDateTime
  simp only [hspelled, h, h']

/-- A day in one of the accepted forms is read as the day. -/
theorem readDate_form (h : d.valid) (hform : form ∈ Pattern.forms) :
    readDate (form.text d) = .ok (.date d) := by
  have htrim := trim_text_form (d := d) hform
  by_cases hiso : form = ⟨'-', true⟩
  · exact readDate_of_iso htrim (hiso ▸ text_dash d ▸ Iso.readDate?_text h)
  · exact readDate_of_pattern htrim (Iso.readDate?_form h hform hiso)
      (Pattern.readDate?_text h hform)

/-- A day in one of the accepted forms is read as its midnight. -/
theorem readDateTime_form (h : d.valid) (hform : form ∈ Pattern.forms) :
    readDateTime (form.text d) = .ok (.dateTime d.toDateTime) := by
  have hspelled : spellOutZulu (trim (form.text d)) = form.text d := by
    rw [trim_text_form hform]
    exact spellOutZulu_of_isNumeric fun c hc => Pattern.Form.isNumeric_of_mem_chars hform c
      (toList_text_form form d ▸ List.mem_of_getLast? hc)
  by_cases hiso : form = ⟨'-', true⟩
  · exact readDateTime_of_iso hspelled (hiso ▸ text_dash d ▸ Iso.readDateTime_text h)
  · exact readDateTime_of_pattern hspelled (Iso.readDateTime_form h hform hiso)
      (Pattern.readDate?_text h hform)

theorem toList_textWith {separator : String} {c : Char} (hseparator : separator.toList = [c]) :
    (t.textWith separator).toList = t.date.chars ++ [c] ++ t.time.chars := by
  rw [DateTime.textWith, String.toList_append, String.toList_append, t.date.toList_text,
    t.time.toList_text, hseparator]

/-- The text of a moment is read as it, with what is left of its offset. -/
theorem readDateTime_textWith (h : t.valid) (ho : t.time.hasOffset) {separator : String} {c : Char}
    (hseparator : separator.toList = [c]) (hascii : Percent.isAscii c) :
    readDateTime (t.textWith separator) = .ok (.dateTime ⟨t.date, t.time.kept⟩) := by
  have hchars := toList_textWith (t := t) hseparator
  have hdate : t.date.chars ≠ [] := by simp [Date.chars]
  have htime : t.time.chars ≠ [] := by simp [TimeOfDay.chars, clockChars]
  have htrim : trim (t.textWith separator) = t.textWith separator := by
    refine trim_of_stripped ?_
    rw [hchars]
    exact stripped_between _ hdate htime (stripped_of_isNumeric Date.isNumeric_of_mem_chars)
      (stripped_of_isNumeric TimeOfDay.isNumeric_of_mem_chars)
  have hspelled : spellOutZulu (t.textWith separator) = t.textWith separator := by
    refine spellOutZulu_of_isNumeric ?_
    rw [hchars, List.getLast?_append_of_ne_nil _ htime]
    exact fun c hc => TimeOfDay.isNumeric_of_mem_chars c (List.mem_of_getLast? hc)
  exact readDateTime_of_iso (by rw [htrim, hspelled])
    (Iso.readDateTime_textWith h ho hseparator hascii)

theorem readDateTime_iso (h : t.valid) (ho : t.time.hasOffset) :
    readDateTime t.iso = .ok (.dateTime ⟨t.date, t.time.kept⟩) := by
  rw [DateTime.iso]
  exact readDateTime_textWith h ho (c := 'T') rfl rfl

/-- The ISO text of a moment without its offset. -/
def wallText (t : DateTime) : String := ({ t with time := { t.time with offset := none } }).iso

theorem iso_eq_wallText (hoffset : t.time.offset = some 0) : t.iso = wallText t ++ "+00:00" := by
  have hzero : offsetText 0 = "+00:00" := by decide
  simp only [wallText, DateTime.iso, DateTime.textWith, TimeOfDay.text, hoffset, hzero,
    String.append_empty, String.append_assoc]

/-- The letter for no offset is as good as the offset. -/
theorem readDateTime_zulu (h : t.valid) (hoffset : t.time.offset = some 0) {letter : String}
    (hletter : letter = "Z" ∨ letter = "z") :
    readDateTime (wallText t ++ letter) = .ok (.dateTime t) := by
  obtain ⟨mark, hmark, hchars⟩ : ∃ mark, (mark = 'Z' ∨ mark = 'z') ∧
      (wallText t ++ letter).toList = (wallText t).toList ++ [mark] := by
    rcases hletter with rfl | rfl
    · exact ⟨'Z', .inl rfl, String.toList_append⟩
    · exact ⟨'z', .inr rfl, String.toList_append⟩
  have hwall : (wallText t).toList = t.date.chars ++
      'T' :: clockChars t.time.hour t.time.minute t.time.second t.time.micro := by
    rw [wallText, DateTime.iso, toList_textWith (c := 'T') rfl]
    simp [TimeOfDay.chars]
  have hdate : t.date.chars ≠ [] := by simp [Date.chars]
  have htrim : trim (wallText t ++ letter) = wallText t ++ letter := by
    refine trim_of_stripped ?_
    rw [hchars, hwall]
    refine stripped_between _ hdate (List.cons_ne_nil _ _)
      (stripped_of_isNumeric Date.isNumeric_of_mem_chars) ?_
    rcases hmark with rfl | rfl <;> exact stripped_singleton (by decide)
  have hspelled : spellOutZulu (wallText t ++ letter) = t.iso := by
    have hlast : (wallText t ++ letter).toList.getLast? = some 'Z' ∨
        (wallText t ++ letter).toList.getLast? = some 'z' := by
      rw [hchars, List.getLast?_concat]
      exact hmark.imp (congrArg some) (congrArg some)
    unfold spellOutZulu
    simp only [if_pos hlast]
    rw [hchars, List.dropLast_concat, String.ofList_toList, iso_eq_wallText hoffset]
  have hkept : t.time.kept = t.time := TimeOfDay.kept_eq_self_iff.mpr fun o ho => by
    rw [hoffset, Option.mem_some_iff] at ho
    exact .inl ho.symm
  have hsmall : t.time.hasOffset := fun o ho => by
    rw [hoffset, Option.mem_some_iff] at ho
    rw [← ho]
    decide
  have hread : Iso.readDateTime t.iso = .ok ⟨t.date, t.time.kept⟩ :=
    Iso.readDateTime_textWith h hsmall (c := 'T') rfl rfl
  rw [hkept] at hread
  exact readDateTime_of_iso (by rw [htrim, hspelled]) hread

end PagedQuery.Scalar

namespace PagedQuery

open PagedQuery.Text PagedQuery.Time

/-! ## Coerced days and moments -/

theorem ConversionCache.convert_of_read (c : ConversionCache) (s : Schema) {k : Scalar} {v : Value}
    {raw : String} (hk : (FieldType.scalar k).grammar? = some (.ofReader k.read))
    (h : k.read raw = .ok v) : c.convert s raw (.scalar k) = (.ok v, c) := by
  rw [c.convert_of_grammar? hk, Schema.apply_ofReader, h]
  rfl

theorem ConversionCache.convert_date (c : ConversionCache) (s : Schema) {v : Value} {raw : String}
    (h : Scalar.readDate raw = .ok v) : c.convert s raw (.scalar .date) = (.ok v, c) :=
  c.convert_of_read s rfl h

theorem ConversionCache.convert_dateTime (c : ConversionCache) (s : Schema) {v : Value}
    {raw : String} (h : Scalar.readDateTime raw = .ok v) :
    c.convert s raw (.scalar .dateTime) = (.ok v, c) :=
  c.convert_of_read s rfl h

/-- A day is coerced to itself and to its midnight in each of the four forms. A moment is coerced to
itself from its ISO text, exactly if no distance from universal time below a second is lost; the
letter for universal time gives the same. -/
theorem ConversionCache.convert_calendar (c : ConversionCache) (s : Schema) :
    (∀ d : Date, d.valid → ∀ form ∈ Pattern.forms,
      c.convert s (form.text d) (.scalar .date) = (.ok (.date d), c) ∧
      c.convert s (form.text d) (.scalar .dateTime) = (.ok (.dateTime d.toDateTime), c)) ∧
    ∀ t : DateTime, t.valid → t.time.hasOffset →
      c.convert s t.iso (.scalar .dateTime) = (.ok (.dateTime ⟨t.date, t.time.kept⟩), c) ∧
      (t.time.kept = t.time ↔ ∀ o ∈ t.time.offset, o = 0 ∨ 1000000 ≤ o.natAbs) ∧
      (t.time.offset = some 0 → ∃ body, t.iso = body ++ "+00:00" ∧
        c.convert s (body ++ "Z") (.scalar .dateTime) = (.ok (.dateTime t), c) ∧
        c.convert s (body ++ "z") (.scalar .dateTime) = (.ok (.dateTime t), c)) := by
  refine ⟨fun d hd form hform => ⟨?_, ?_⟩, fun t ht ho => ⟨?_, TimeOfDay.kept_eq_self_iff, ?_⟩⟩
  · exact c.convert_date s (Scalar.readDate_form hd hform)
  · exact c.convert_dateTime s (Scalar.readDateTime_form hd hform)
  · exact c.convert_dateTime s (Scalar.readDateTime_iso ht ho)
  · intro hoffset
    exact ⟨_, Scalar.iso_eq_wallText hoffset,
      c.convert_dateTime s (Scalar.readDateTime_zulu ht hoffset (.inl rfl)),
      c.convert_dateTime s (Scalar.readDateTime_zulu ht hoffset (.inr rfl))⟩

/-- February 29th, 2024. -/
def leapDay : Date := ⟨2024, 2, 29⟩

/-- The last second of a leap day and a microsecond, a second and a half west of universal time. -/
def lastSecond : DateTime := ⟨leapDay, ⟨23, 59, 59, 1, some (-1500000)⟩⟩

/-- The noon of a leap day in universal time. -/
def universalNoon : DateTime := ⟨leapDay, ⟨12, 0, 0, 0, some 0⟩⟩

theorem ConversionCache.leapDay_convert_calendar :
    ({} : ConversionCache).convert {} "29/02/2024" (.scalar .date) = (.ok (.date leapDay), {}) ∧
      ({} : ConversionCache).convert {} "2024-02-29T23:59:59.000001-00:00:01.500000"
        (.scalar .dateTime) = (.ok (.dateTime lastSecond), {}) ∧
      ({} : ConversionCache).convert {} "2024-02-29T12:00:00z" (.scalar .dateTime) =
        (.ok (.dateTime universalNoon), {}) := by
  obtain ⟨hday, hmoment⟩ := ConversionCache.convert_calendar {} {}
  obtain ⟨hread, hkept, -⟩ := hmoment lastSecond (by decide) (by decide)
  obtain ⟨-, -, hzulu⟩ := hmoment universalNoon (by decide) (by decide)
  obtain ⟨body, hbody, -, hletter⟩ := hzulu rfl
  have hdate := (hday leapDay (by decide) ⟨'/', false⟩ (by simp [Pattern.forms])).1
  rw [show Pattern.Form.text _ _ = "29/02/2024" by decide] at hdate
  rw [hkept.mpr (by decide), show DateTime.iso _ = "2024-02-29T23:59:59.000001-00:00:01.500000" by
    decide] at hread
  rw [show DateTime.iso _ = "2024-02-29T12:00:00" ++ "+00:00" by decide,
    String.append_left_inj] at hbody
  rw [← hbody] at hletter
  exact ⟨hdate, hread, hletter⟩

/-- A microsecond from universal time. -/
def almostUniversal : DateTime := ⟨⟨2024, 1, 1⟩, ⟨0, 0, 0, 0, some 1⟩⟩

/-- An offset below a second is lost. -/
theorem ConversionCache.almostUniversal_lost :
    almostUniversal.valid ∧ almostUniversal.iso = "2024-01-01T00:00:00+00:00:00.000001" ∧
      ({} : ConversionCache).convert {} "2024-01-01T00:00:00+00:00:00.000001" (.scalar .dateTime) =
        (.ok (.dateTime ⟨⟨2024, 1, 1⟩, ⟨0, 0, 0, 0, some 0⟩⟩), {}) ∧
      ¬ ∀ t : DateTime, t.valid → t.time.hasOffset →
        ({} : ConversionCache).convert {} t.iso (.scalar .dateTime) = (.ok (.dateTime t), {}) := by
  have hiso : almostUniversal.iso = "2024-01-01T00:00:00+00:00:00.000001" := by decide
  have hread := ConversionCache.convert_dateTime {} {} (Scalar.readDateTime_iso
    (t := almostUniversal) (by decide) (by decide))
  rw [hiso] at hread
  refine ⟨by decide, hiso, hread, fun hall => ?_⟩
  have hsame := hall almostUniversal (by decide) (by decide)
  rw [hiso, hread] at hsame
  simp [almostUniversal, TimeOfDay.kept, keptOffset] at hsame

end PagedQuery
