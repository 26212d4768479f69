import PagedQuery.Number.Decimal
import PagedQuery.Proofs.Text.Digits
import PagedQuery.Proofs.Time.Reading

/-!
# Printed numbers

An integer of as many digits as can be written is read back from its text. So is a finite decimal
number: whether it is printed in positions or with an exponent, its text is made of digits, digits
after a point and an exponent, which give back its coefficient and its exponent.
-/

namespace PagedQuery.Number

open PagedQuery.Text

/-! ## Integers -/

theorem toList_toString_nat (n : ℕ) : (toString n).toList = Nat.toDigits 10 n :=
  Nat.toList_repr

/-- A sign where a number is negative. -/
def signChars (negative : Bool) : List Char := if negative then ['-'] else []

theorem eq_of_mem_signChars {negative : Bool} {c : Char} (h : c ∈ signChars negative) :
    c = '-' := by
  cases negative with
  | true => exact List.mem_singleton.mp h
  | false => cases h

theorem toList_toString_int (n : ℤ) :
    (toString n).toList = signChars (n < 0) ++ Nat.toDigits 10 n.natAbs := by
  cases n with
  | ofNat n => exact toList_toString_nat n
  | negSucc n =>
    have hsign : decide (Int.negSucc n < 0) = true := decide_eq_true (Int.negSucc_lt_zero n)
    rw [hsign]
    show ("-" ++ toString (n + 1)).toList = '-' :: Nat.toDigits 10 (n + 1)
    rw [String.toList_append, toList_toString_nat]
    rfl

theorem ne_of_isDigit {c mark : Char} (h : c.isDigit) (hmark : ¬ mark.isDigit) : c ≠ mark :=
  fun hc => hmark (hc ▸ h)

/-- What follows the sign of a number is split off if it begins with no sign. -/
theorem splitSign_signChars (negative : Bool) {cs : List Char}
    (h : ∀ c ∈ cs.head?, c ≠ '+' ∧ c ≠ '-') :
    splitSign (signChars negative ++ cs) = (negative, cs) := by
  cases negative with
  | true => rfl
  | false =>
    cases cs with
    | nil => rfl
    | cons c cs =>
      have hsign := h c rfl
      rw [signChars, if_neg Bool.false_ne_true, List.nil_append]
      unfold splitSign
      split
      · next heq => exact (hsign.2 (List.cons.inj heq).1).elim
      · next heq => exact (hsign.1 (List.cons.inj heq).1).elim
      · rfl

theorem ne_sign_of_isDigit {c : Char} (h : c.isDigit) : c ≠ '+' ∧ c ≠ '-' :=
  ⟨ne_of_isDigit h (by decide), ne_of_isDigit h (by decide)⟩

theorem asciiDigits?_eq {cs : List Char} (hne : cs ≠ []) (h : ∀ c ∈ cs, c.isDigit) :
    asciiDigits? cs = some (cs.map fun c => c.toNat - 48) := by
  have hall : ∀ cs : List Char, (∀ c ∈ cs, c.isDigit) →
      (cs.mapM fun c => if c.isDigit then some (c.toNat - 48) else none) =
        some (cs.map fun c => c.toNat - 48) := by
    intro cs
    induction cs with
    | nil => intro _; rfl
    | cons c cs ih =>
      intro h
      obtain ⟨hc, hcs⟩ := List.forall_mem_cons.mp h
      rw [List.mapM_cons, if_pos hc, ih hcs]
      rfl
  rw [asciiDigits?, if_neg (by simpa using hne)]
  exact hall cs h

theorem asciiDigits?_eq_none {cs : List Char} {c : Char} (hc : ¬ c.isDigit) (h : c ∈ cs) :
    asciiDigits? cs = none := by
  have hmap : (cs.mapM fun c => if c.isDigit then some (c.toNat - 48) else none) = none := by
    induction cs with
    | nil => cases h
    | cons first rest ih =>
      rw [List.mapM_cons]
      obtain rfl | h := List.mem_cons.mp h
      · rw [if_neg hc]
        rfl
      · rw [ih h]
        split <;> rfl
  rw [asciiDigits?, if_neg (by simpa using List.ne_nil_of_mem h), hmap]

theorem lt_ten_of_asciiDigits? {cs : List Char} {ds : List ℕ} (h : asciiDigits? cs = some ds) :
    ∀ d ∈ ds, d < 10 := by
  have hne : cs ≠ [] := by
    rintro rfl
    cases h
  have hdigits : ∀ c ∈ cs, c.isDigit := by
    intro c hc
    by_contra hdigit
    rw [asciiDigits?_eq_none hdigit hc] at h
    cases h
  rw [asciiDigits?_eq hne hdigits] at h
  obtain rfl := Option.some.inj h
  intro d hd
  obtain ⟨c, hc, rfl⟩ := List.mem_map.mp hd
  exact digitValue?_lt (digitValue?_of_isDigit (hdigits c hc))

theorem natAbs_applySign (negative : Bool) (n : ℕ) : (applySign negative n).natAbs = n := by
  cases negative <;> simp [applySign]

theorem applySign_natAbs (n : ℤ) : applySign (n < 0) n.natAbs = n := by
  unfold applySign
  by_cases h : n < 0 <;> simp only [h, decide_true, decide_false, if_true, Bool.false_eq_true,
    if_false] <;> omega

theorem stripped_signed {negative : Bool} {cs : List Char} (hne : cs ≠ [])
    (h : ∀ c ∈ cs, isBlank c = false) : Stripped (signChars negative ++ cs) := by
  constructor
  · intro c hc
    cases negative with
    | true =>
      obtain rfl := Option.some.inj hc
      rfl
    | false => exact h c (List.mem_of_head? hc)
  · intro c hc
    rw [List.getLast?_append_of_ne_nil _ hne] at hc
    exact h c (List.mem_of_getLast? hc)

theorem length_toDigits_le {n : ℤ} (h : isLong n = false) :
    (Nat.toDigits 10 n.natAbs).length ≤ digitLimit := by
  have hpos : 0 < digitLimit := by decide
  unfold isLong at h
  generalize digitLimit = limit at h hpos ⊢
  rw [decide_eq_false_iff_not, not_le] at h
  exact (Nat.length_toDigits_le_iff (by decide) hpos).mpr h

/-- An integer that is not too long is read back from its text. -/
theorem readPlain_toString {n : ℤ} (h : isLong n = false) : readPlain (toString n) = .ok n := by
  have hlist : ofDigitList ((Nat.toDigits 10 n.natAbs).map fun c => c.toNat - 48) =
      .ok n.natAbs := by
    rw [ofDigitList, List.length_map, if_pos (length_toDigits_le h), ofDigits_toDigits]
  have hstripped : Stripped (signChars (n < 0) ++ Nat.toDigits 10 n.natAbs) :=
    stripped_signed Nat.toDigits_ne_nil fun c hc => isBlank_of_isDigit (isDigit_of_mem_toDigits hc)
  unfold readPlain
  rw [toList_toString_int, trimChars_of_stripped hstripped, splitSign_signChars _ fun c hc =>
    ne_sign_of_isDigit (isDigit_of_mem_toDigits (List.mem_of_head? hc))]
  simp only [asciiDigits?_eq Nat.toDigits_ne_nil fun c hc => isDigit_of_mem_toDigits hc, hlist]
  exact congrArg Except.ok (applySign_natAbs n)

/-- What is read as an integer is not too long. -/
theorem isLong_of_readPlain {raw : String} {n : ℤ} (h : readPlain raw = .ok n) :
    isLong n = false := by
  unfold readPlain at h
  cases hds : asciiDigits? (splitSign (trimChars raw.toList)).2 with
  | none => simp [hds] at h
  | some ds =>
    simp only [hds, ofDigitList] at h
    split at h
    · next hlength =>
      have hlt : ofDigits ds < 10 ^ digitLimit :=
        (Time.ofDigits_lt (lt_ten_of_asciiDigits? hds)).trans_le
          (Nat.pow_le_pow_right (by decide) hlength)
      have hn : n.natAbs = ofDigits ds := by
        rw [← Except.ok.inj h, natAbs_applySign]
      unfold isLong
      generalize digitLimit = limit at hlt ⊢
      rw [decide_eq_false_iff_not, not_le, hn]
      exact hlt
    · cases h

namespace Decimal

/-! ## Decimal numbers -/

/-- Whether the leading digit is not too far before the point and the last not too far behind. -/
def InRange (coefficient : ℕ) (exponent : ℤ) : Prop :=
  (if coefficient = 0 then exponent else exponent + digitCount coefficient - 1) ≤ maxExponent ∧
    minExponent ≤ exponent

instance (coefficient : ℕ) (exponent : ℤ) : Decidable (InRange coefficient exponent) :=
  inferInstanceAs (Decidable (_ ∧ _))

/-- An exponent with its mark and its sign. -/
def exponentChars (e : ℤ) : List Char :=
  'E' :: (if e < 0 then '-' else '+') :: Nat.toDigits 10 e.natAbs

/-- Digits, digits after a point, and an exponent; of the last two each can be missing. -/
def numberChars (whole fraction : List Char) (e : Option ℤ) : List Char :=
  whole ++ (if fraction = [] then [] else '.' :: fraction) ++ e.elim [] exponentChars

/-- Whether the parts of a text spell a number. -/
structure Spells (whole fraction : List Char) (e : Option ℤ) (coefficient : ℕ) (exponent : ℤ) :
    Prop where
  ne_nil : whole ≠ []
  isDigit_whole : ∀ c ∈ whole, c.isDigit
  isDigit_fraction : ∀ c ∈ fraction, c.isDigit
  coefficient_eq : ofDigits ((whole ++ fraction).map fun c => c.toNat - 48) = coefficient
  exponent_eq : e.getD 0 - fraction.length = exponent

variable {whole fraction : List Char} {e : Option ℤ}

theorem readExponent?_eq (e : ℤ) :
    readExponent? ((if e < 0 then '-' else '+') :: Nat.toDigits 10 e.natAbs) = some e := by
  have hsign : splitSign ((if e < 0 then '-' else '+') :: Nat.toDigits 10 e.natAbs) =
      (decide (e < 0), Nat.toDigits 10 e.natAbs) := by
    by_cases h : e < 0 <;> simp only [h, if_true, if_false, decide_true, decide_false] <;> rfl
  unfold readExponent?
  simp only [hsign, asciiDigits?_eq Nat.toDigits_ne_nil fun c hc => isDigit_of_mem_toDigits hc,
    Option.map_some, ofDigits_toDigits, applySign_natAbs]

theorem readMantissa?_eq (hne : whole ≠ []) (hwhole : ∀ c ∈ whole, c.isDigit)
    (hfraction : ∀ c ∈ fraction, c.isDigit) :
    readMantissa? (whole ++ if fraction = [] then [] else '.' :: fraction) =
      some ((whole ++ fraction).map fun c => c.toNat - 48, fraction.length) := by
  have hall : (fraction.any fun c => !c.isDigit) = false := by
    simpa [List.any_eq_false] using hfraction
  have hempty : whole.isEmpty = false := by simpa using hne
  have hpoint : '.'.isDigit = false := rfl
  unfold readMantissa?
  rw [List.takeWhile_append_of_pos hwhole, List.dropWhile_append_of_pos hwhole]
  by_cases hnil : fraction = []
  · simp [hnil, hempty]
  · simp [hnil, hall, hempty, hpoint]

theorem not_isMark_of_isDigit {c : Char} (h : c.isDigit) : (!(c == 'e' || c == 'E')) = true := by
  have hlower : c ≠ 'e' := ne_of_isDigit h (by decide)
  have hupper : c ≠ 'E' := ne_of_isDigit h (by decide)
  simp [hlower, hupper]

/-- The parts of a number are found in its text. -/
theorem readNumber?_eq (hne : whole ≠ []) (hwhole : ∀ c ∈ whole, c.isDigit)
    (hfraction : ∀ c ∈ fraction, c.isDigit) :
    readNumber? (numberChars whole fraction e) =
      some ((whole ++ fraction).map fun c => c.toNat - 48, fraction.length, e.getD 0) := by
  have hmantissa := readMantissa?_eq hne hwhole hfraction
  have hmarks : ∀ c ∈ whole ++ (if fraction = [] then [] else '.' :: fraction),
      (!(c == 'e' || c == 'E')) = true := by
    rw [List.forall_mem_append]
    refine ⟨fun c hc => not_isMark_of_isDigit (hwhole c hc), ?_⟩
    split
    · simp
    · exact List.forall_mem_cons.mpr
        ⟨by decide, fun c hc => not_isMark_of_isDigit (hfraction c hc)⟩
  unfold readNumber? numberChars
  simp only [List.takeWhile_append_of_pos hmarks, List.dropWhile_append_of_pos hmarks]
  cases e with
  | none => simp [hmantissa]
  | some e => simp [exponentChars, hmantissa, readExponent?_eq]

theorem toList_exponent (e : ℤ) :
    ("E" ++ (if e < 0 then "" else "+") ++ toString e).toList = exponentChars e := by
  rw [String.toList_append, String.toList_append, toList_toString_int, exponentChars, signChars]
  by_cases h : e < 0 <;> simp [h]

/-- Wherever the point is put, the digits stay the same, and so many of them follow it as are not
before it. -/
theorem exists_spells_pointText {digits : List Char} (hne : digits ≠ [])
    (h : ∀ c ∈ digits, c.isDigit) {point : ℤ} (hpoint : point ≤ digits.length) :
    ∃ whole fraction, (pointText digits point).toList = numberChars whole fraction none ∧
      Spells whole fraction none (ofDigits (digits.map fun c => c.toNat - 48))
        (point - digits.length) := by
  unfold pointText
  split
  · next hle =>
    -- A zero before the point and zeros behind it up to the digits.
    refine ⟨['0'], List.replicate point.natAbs '0' ++ digits, ?_, ?_, ?_, ?_, ?_, ?_⟩
    · simp [numberChars, String.toList_append, hne]
    · simp
    · simp
    · rw [List.forall_mem_append]
      exact ⟨fun c hc => List.eq_of_mem_replicate hc ▸ rfl, h⟩
    · have hzeros : ['0'] ++ (List.replicate point.natAbs '0' ++ digits) =
          List.replicate (point.natAbs + 1) '0' ++ digits := rfl
      rw [hzeros, List.map_append, List.map_replicate, ofDigits_append,
        show '0'.toNat - 48 = 0 from rfl, ofDigits_replicate_zero, Nat.zero_mul, Nat.zero_add]
    · rw [Option.getD_none, List.length_append, List.length_replicate, Nat.cast_add]
      omega
  · next hpos =>
    split
    · next hge =>
      obtain rfl : point = digits.length := le_antisymm hpoint hge
      refine ⟨digits, [], ?_, hne, h, by simp, by rw [List.append_nil], by simp⟩
      simp [numberChars]
    · next hlt =>
      have hdrop : digits.drop point.natAbs ≠ [] := by
        rw [ne_eq, List.drop_eq_nil_iff]
        omega
      refine ⟨digits.take point.natAbs, digits.drop point.natAbs, ?_, ?_, ?_, ?_, ?_, ?_⟩
      · simp [numberChars, String.toList_append, hdrop]
      · rw [ne_eq, List.take_eq_nil_iff]
        exact fun hnil => hnil.elim (by omega) hne
      · exact fun c hc => h c (List.mem_of_mem_take hc)
      · exact fun c hc => h c (List.mem_of_mem_drop hc)
      · rw [List.take_append_drop]
      · rw [Option.getD_none, List.length_drop]
        omega

/-- The text of a number spells it. -/
theorem exists_spells_finiteText (coefficient : ℕ) (exponent : ℤ) :
    ∃ whole fraction e, (finiteText coefficient exponent).toList = numberChars whole fraction e ∧
      Spells whole fraction e coefficient exponent := by
  have hdigits := fun c (hc : c ∈ Nat.toDigits 10 coefficient) => isDigit_of_mem_toDigits hc
  have hone : 1 ≤ (Nat.toDigits 10 coefficient).length := Nat.length_toDigits_pos
  unfold finiteText
  simp only
  generalize hpoint : (if exponent ≤ 0 ∧ exponent + (Nat.toDigits 10 coefficient).length > -6 then
    exponent + (Nat.toDigits 10 coefficient).length else 1) = point
  have hle : point ≤ (Nat.toDigits 10 coefficient).length := by
    rw [← hpoint]
    split <;> omega
  obtain ⟨whole, fraction, htext, hspells⟩ :=
    exists_spells_pointText Nat.toDigits_ne_nil hdigits hle
  have hplaces := hspells.exponent_eq
  rw [Option.getD_none] at hplaces
  have hcoefficient := hspells.coefficient_eq
  rw [ofDigits_toDigits] at hcoefficient
  split
  · next heq =>
    refine ⟨whole, fraction, none, htext, hspells.ne_nil, hspells.isDigit_whole,
      hspells.isDigit_fraction, hcoefficient, ?_⟩
    rw [Option.getD_none]
    omega
  · refine ⟨whole, fraction, some (exponent + (Nat.toDigits 10 coefficient).length - point), ?_,
      hspells.ne_nil, hspells.isDigit_whole, hspells.isDigit_fraction, hcoefficient, ?_⟩
    · rw [String.append_assoc, String.append_assoc, String.toList_append, htext,
        ← String.append_assoc, toList_exponent]
      simp [numberChars]
    · rw [Option.getD_some]
      omega

theorem mem_numberChars (hwhole : ∀ c ∈ whole, c.isDigit) (hfraction : ∀ c ∈ fraction, c.isDigit) :
    ∀ c ∈ numberChars whole fraction e, c.isDigit ∨ c ∈ ['.', 'E', '+', '-'] := by
  have hexponent : ∀ e, ∀ c ∈ exponentChars e, c.isDigit ∨ c ∈ ['.', 'E', '+', '-'] := by
    intro e
    unfold exponentChars
    rw [List.forall_mem_cons, List.forall_mem_cons]
    refine ⟨by decide, ?_, fun c hc => .inl (isDigit_of_mem_toDigits hc)⟩
    split <;> decide
  unfold numberChars
  rw [List.forall_mem_append, List.forall_mem_append]
  refine ⟨⟨fun c hc => .inl (hwhole c hc), ?_⟩, ?_⟩
  · split
    · simp
    · exact List.forall_mem_cons.mpr ⟨by decide, fun c hc => .inl (hfraction c hc)⟩
  · cases e with
    | none => simp
    | some e => exact hexponent e

/-- The characters of a number are neither blanks nor digits of another script. -/
theorem plain_of_mem_numberChars {c : Char} (h : c.isDigit ∨ c ∈ ['.', 'E', '+', '-']) :
    isBlank c = false ∧ asciiDigit c = c := by
  rcases h with h | h
  · refine ⟨isBlank_of_isDigit h, ?_⟩
    have hge : 48 ≤ c.toNat := by
      simp only [Char.isDigit, Bool.and_eq_true, decide_eq_true_eq] at h
      exact h.1
    simp only [asciiDigit, digitValue?_of_isDigit h, Nat.add_sub_cancel' hge, c.ofNat_toNat]
  · simp only [List.mem_cons, List.not_mem_nil, or_false] at h
    rcases h with rfl | rfl | rfl | rfl <;> decide

theorem toLower_of_isDigit {c : Char} (h : c.isDigit) : c.toLower = c := by
  have hle : c.toNat ≤ 57 := by
    simp only [Char.isDigit, Bool.and_eq_true, decide_eq_true_eq] at h
    exact h.2
  exact dif_neg fun hupper => absurd (show 65 ≤ c.toNat from hupper.1) (by omega)

theorem ofReading?_eq {negative : Bool} {coefficient : ℕ} {exponent : ℤ}
    (h : Spells whole fraction e coefficient exponent) (hrange : InRange coefficient exponent) :
    ofReading? negative ((whole ++ fraction).map fun c => c.toNat - 48) fraction.length (e.getD 0) =
      some (.finite negative coefficient exponent) := by
  simp only [ofReading?, h.coefficient_eq, h.exponent_eq]
  exact if_neg fun hout => hout.elim (not_lt.mpr hrange.1) (not_lt.mpr hrange.2)

/-! ## Texts of decimal numbers -/

variable {negative : Bool} {coefficient : ℕ} {exponent : ℤ}

theorem exists_spells_text (negative : Bool) (coefficient : ℕ) (exponent : ℤ) :
    ∃ whole fraction e, (text (.finite negative coefficient exponent)).toList =
        signChars negative ++ numberChars whole fraction e ∧
      Spells whole fraction e coefficient exponent := by
  obtain ⟨whole, fraction, e, htext, hspells⟩ := exists_spells_finiteText coefficient exponent
  refine ⟨whole, fraction, e, ?_, hspells⟩
  rw [text, String.toList_append, htext]
  cases negative <;> rfl

theorem mem_text : ∀ c ∈ (text (.finite negative coefficient exponent)).toList,
    c.isDigit ∨ c ∈ ['.', 'E', '+', '-'] := by
  obtain ⟨whole, fraction, e, htext, hspells⟩ := exists_spells_text negative coefficient exponent
  rw [htext, List.forall_mem_append]
  refine ⟨fun c hc => ?_, mem_numberChars hspells.isDigit_whole hspells.isDigit_fraction⟩
  rw [eq_of_mem_signChars hc]
  decide

theorem trim_text : trim (text (.finite negative coefficient exponent)) =
    text (.finite negative coefficient exponent) :=
  trim_of_stripped (stripped_of_forall fun c hc => (plain_of_mem_numberChars (mem_text c hc)).1)

/-- A finite decimal number is read back from its text, its exponent included. -/
theorem read?_text (hrange : InRange coefficient exponent) :
    read? (text (.finite negative coefficient exponent)) =
      some (.finite negative coefficient exponent) := by
  obtain ⟨whole, fraction, e, hchars, hspells⟩ := exists_spells_text negative coefficient exponent
  obtain ⟨d, rest, hd, hnumber⟩ :
      ∃ d rest, d.isDigit ∧ numberChars whole fraction e = d :: rest := by
    obtain ⟨d, others, hwhole⟩ := List.exists_cons_of_ne_nil hspells.ne_nil
    exact ⟨d, _, hspells.isDigit_whole d (hwhole ▸ List.mem_cons_self), by rw [hwhole]; rfl⟩
  have hascii : (text (.finite negative coefficient exponent)).toList.map asciiDigit =
      (text (.finite negative coefficient exponent)).toList := by
    rw [List.map_congr_left fun c hc => (plain_of_mem_numberChars (mem_text c hc)).2, List.map_id']
  have hread :=
    readNumber?_eq (e := e) hspells.ne_nil hspells.isDigit_whole hspells.isDigit_fraction
  have hword : ∀ (n : ℕ) (word : String) {letter : Char}, 0 < n →
      word.toList.head? = some letter → ¬ letter.isDigit →
      ((numberChars whole fraction e).map Char.toLower).take n ≠ word.toList := by
    rintro n word letter hn hhead hletter htake
    rw [← htake, hnumber, List.map_cons, toLower_of_isDigit hd, List.head?_take,
      if_neg hn.ne'] at hhead
    exact hletter (Option.some.inj hhead ▸ hd)
  have hwhole : ∀ (word : String) {letter : Char}, word.toList.head? = some letter →
      ¬ letter.isDigit → (numberChars whole fraction e).map Char.toLower ≠ word.toList := by
    rintro word letter hhead hletter hsame
    rw [← hsame, hnumber, List.map_cons, toLower_of_isDigit hd] at hhead
    exact hletter (Option.some.inj hhead ▸ hd)
  unfold read?
  rw [← toList_trim, trim_text, hascii, hchars,
    splitSign_signChars _ (by
      rw [hnumber]
      exact fun c hc => ne_sign_of_isDigit (Option.some.inj hc ▸ hd))]
  -- The first character is a digit, so that the text is none of the words.
  simp only [hread, ofReading?_eq hspells hrange, hwhole "inf" rfl (by decide),
    hwhole "infinity" rfl (by decide), hword 4 "snan" (by decide) rfl (by decide),
    hword 3 "nan" (by decide) rfl (by decide), or_self, if_false]

end Decimal

end PagedQuery.Number
