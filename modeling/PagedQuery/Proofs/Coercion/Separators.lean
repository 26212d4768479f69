import PagedQuery.Proofs.Coercion.Remembering
import PagedQuery.Proofs.Number.Identifier
import PagedQuery.Proofs.Text.Lower

/-!
# Separators between digits

No integer, number with a point, truth value or duration is written with an underscore. Identifiers
are: the thirty-two characters that are left of a text without its words, braces and dashes are read
in the grammar of integers in base sixteen, in which single underscores part digits.
-/

namespace PagedQuery

open PagedQuery.Number PagedQuery.Text PagedQuery.Time

/-! ## Integers and truth values -/

namespace Number

variable {base : ℕ} {cs : List Char} {ds : List ℕ}

theorem mem_snd_splitSign {c : Char} (hminus : c ≠ '-') (hplus : c ≠ '+') (h : c ∈ cs) :
    c ∈ (splitSign cs).2 := by
  unfold splitSign
  split
  · exact (List.mem_cons.mp h).resolve_left hminus
  · exact (List.mem_cons.mp h).resolve_left hplus
  · exact h

theorem readPlain_of_underscore {s : String} (h : '_' ∈ s.toList) :
    readPlain s = .error .malformed := by
  have hmem : '_' ∈ (splitSign (trimChars s.toList)).2 :=
    mem_snd_splitSign (by decide) (by decide) (mem_trimChars h rfl)
  simp only [readPlain, asciiDigits?_eq_none (by decide) hmem]

/-! ## Digits with separators -/

/-- Digits in a base and their values. Single underscores may part them. -/
inductive Parted (base : ℕ) : List Char → List ℕ → Prop
  | last {c d} (hvalue : letterValue? c = some d) (hlt : d < base) : Parted base [c] [d]
  | next {c d cs ds} (hvalue : letterValue? c = some d) (hlt : d < base) (h : Parted base cs ds) :
      Parted base (c :: cs) (d :: ds)
  | apart {c d cs ds} (hvalue : letterValue? c = some d) (hlt : d < base) (h : Parted base cs ds) :
      Parted base (c :: '_' :: cs) (d :: ds)

theorem not_parted_underscore : ¬ Parted base ('_' :: cs) ds := by
  intro h
  have hnone : letterValue? '_' = none := by decide
  cases h with
  | last hvalue | next hvalue | apart hvalue => cases hnone.symm.trans hvalue

/-- Behind a digit the text ends, or more digits come, maybe after an underscore. -/
theorem parted_cons_iff {c : Char} {d : ℕ} (hvalue : letterValue? c = some d) (hlt : d < base) :
    Parted base (c :: cs) ds ↔ ∃ rest, ds = d :: rest ∧
      (Parted base cs rest ∨ cs = [] ∧ rest = [] ∨
        ∃ more, cs = '_' :: more ∧ Parted base more rest) := by
  constructor
  · intro h
    cases h with
    | last hvalue' => exact ⟨[], by rw [Option.some.inj (hvalue.symm.trans hvalue')], by simp⟩
    | next hvalue' _ h =>
      exact ⟨_, by rw [Option.some.inj (hvalue.symm.trans hvalue')], .inl h⟩
    | apart hvalue' _ h =>
      exact ⟨_, by rw [Option.some.inj (hvalue.symm.trans hvalue')], .inr (.inr ⟨_, rfl, h⟩)⟩
  · rintro ⟨rest, rfl, h | ⟨rfl, rfl⟩ | ⟨more, rfl, h⟩⟩
    · exact .next hvalue hlt h
    · exact .last hvalue hlt
    · exact .apart hvalue hlt h

theorem Parted.exists_value {c : Char} (h : Parted base (c :: cs) ds) :
    ∃ d, letterValue? c = some d ∧ d < base := by
  cases h with
  | last hvalue hlt | next hvalue hlt | apart hvalue hlt => exact ⟨_, hvalue, hlt⟩

/-- What is read after a digit or at the start. -/
theorem separatedDigits?_eq_some_iff (after : Bool) :
    separatedDigits? base after cs = some ds ↔ Parted base cs ds ∨ after = true ∧
      (cs = [] ∧ ds = [] ∨ ∃ more, cs = '_' :: more ∧ Parted base more ds) := by
  induction cs generalizing after ds with
  | nil =>
    have hnot : ¬ Parted base [] ds := nofun
    cases after <;> simp [separatedDigits?, hnot, eq_comm]
  | cons c cs ih =>
    by_cases hc : c = '_'
    · subst hc
      cases after <;> simp [separatedDigits?, not_parted_underscore, ih]
    · have hmark : ¬ ∃ more, c :: cs = '_' :: more ∧ Parted base more ds := by
        rintro ⟨more, hmore, -⟩
        exact hc (List.cons.inj hmore).1
      rw [separatedDigits?.eq_3 base after c cs hc]
      simp only [List.cons_ne_nil, false_and, hmark, or_self, and_false, or_false]
      split
      · next d hvalue =>
        split
        · next hlt =>
          rw [parted_cons_iff hvalue hlt, Option.map_eq_some_iff]
          simp only [ih, true_and, eq_comm (b := ds), and_comm]
        · next hlt =>
          refine iff_of_false nofun fun h => ?_
          obtain ⟨d', hvalue', hlt'⟩ := h.exists_value
          exact hlt (Option.some.inj (hvalue.symm.trans hvalue') ▸ hlt')
      · next hnone =>
        refine iff_of_false nofun fun h => ?_
        obtain ⟨d', hvalue', -⟩ := h.exists_value
        cases hnone.symm.trans hvalue'

end Number

/-! ## Durations -/

namespace Time.Span

variable {cs rest word : List Char}

theorem mem_snd_spanDigits (h : '_' ∈ cs) : '_' ∈ (spanDigits cs).2 := mem_dropWhile h (by decide)

theorem not_atEnd (h : '_' ∈ rest) : ¬ (rest = [] ∨ rest = ['\n']) := by
  rintro (rfl | rfl) <;> simp at h

theorem mem_of_mem_cons {mark : Char} (h : '_' ∈ mark :: rest) (hmark : '_' ≠ mark) : '_' ∈ rest :=
  (List.mem_cons.mp h).resolve_left hmark

theorem readTail?_of_underscore (h : '_' ∈ cs) : readTail? cs = none := by
  dsimp only [readTail?]
  split
  · next rest =>
    have hminutes := mem_snd_spanDigits (mem_of_mem_cons h (by decide))
    simp only [not_atEnd hminutes, if_false]
    split
    · rfl
    · split
      · next rest hcolon =>
        rw [hcolon] at hminutes
        have hseconds := mem_snd_spanDigits (mem_of_mem_cons hminutes (by decide))
        simp only [not_atEnd hseconds, if_false]
        split
        · rfl
        · split
          · next rest hpoint =>
            rw [hpoint] at hseconds
            have hfraction := mem_snd_spanDigits (mem_of_mem_cons hseconds (by decide))
            simp only [not_atEnd hfraction, and_false, if_false]
          · rfl
      · rfl
  · rfl

theorem readClock?_of_underscore (h : '_' ∈ cs) : readClock? cs = none := by
  have hunsigned : '_' ∈ if cs.head? = some '-' then cs.drop 1 else cs := by
    split
    · next hsign =>
      obtain ⟨rest, rfl⟩ := List.head?_eq_some_iff.mp hsign
      exact mem_of_mem_cons h (by decide)
    · exact h
  have hfirst := mem_snd_spanDigits hunsigned
  simp only [readClock?]
  split
  · next rest hpoint =>
    rw [hpoint] at hfirst
    have hhours := mem_snd_spanDigits (mem_of_mem_cons hfirst (by decide))
    simp only [readTail?_of_underscore hhours, Option.map_none, ite_self]
  · simp only [readTail?_of_underscore hfirst, Option.map_none, ite_self]

/-- Behind a word stands what is behind it. -/
theorem mem_of_afterWord? (hword : '_' ∉ word) (h : '_' ∈ cs)
    (hrest : afterWord? word cs = some rest) : '_' ∈ rest := by
  induction word generalizing cs with
  | nil => exact Option.some.inj hrest ▸ h
  | cons letter word ih =>
    obtain ⟨hletter, hword⟩ := not_or.mp (mt List.mem_cons.mpr hword)
    cases cs with
    | nil => cases h
    | cons c cs =>
      rw [afterWord?] at hrest
      split at hrest
      · next hsame =>
        refine ih hword (mem_of_mem_cons h ?_) hrest
        rintro rfl
        simp [sameLetter, hletter] at hsame
      · cases hrest

theorem readCount?_of_underscore (h : '_' ∈ cs) : readCount? cs = none := by
  have hwords : ∀ unit ∈ units, '_' ∉ unit.1.toList := by decide
  have hrest : '_' ∈ (spanDigits cs).2.dropWhile isBlank :=
    mem_dropWhile (mem_snd_spanDigits h) (by decide)
  simp only [readCount?]
  split
  · rfl
  · rw [List.findSome?_eq_none_iff]
    intro unit hunit
    split
    · rfl
    · next rest hafter =>
      have hmem := mem_of_afterWord? (hwords unit hunit) hrest hafter
      have hend : ∀ {rest : List Char}, '_' ∈ rest → (rest.isEmpty || rest == ['\n']) = false :=
        fun h => by simpa using not_atEnd h
      simp only [hend hmem, Bool.false_or]
      refine if_neg ?_
      cases rest with
      | nil => cases hmem
      | cons c rest =>
        obtain rfl | hmem := List.mem_cons.mp hmem
        · have hletter : sameLetter '_' 's' = false := by decide
          simp [hletter]
        · simp [hend hmem]

theorem read_of_underscore {s : String} (h : '_' ∈ s.toList) : Span.read s = .error .malformed := by
  have hmem : '_' ∈ trimChars s.toList := mem_trimChars h rfl
  simp only [Span.read, readClock?_of_underscore hmem, readCount?_of_underscore hmem]

end Time.Span

/-! ## Identifiers -/

namespace Identifier

variable {s : String} {n : ℕ}

/-- The characters that the number of an identifier is read from: all but the words, the braces
around the others and the dashes between them. -/
def bareChars (s : String) : List Char :=
  (stripList (fun c => c == '\x7b' || c == '\x7d')
    (removeWord "uuid:" (removeWord "urn:" s)).toList).filter (· != '-')

/-- The characters behind blanks, a sign and the mark of base sixteen. -/
def digitPart (cs : List Char) : List Char :=
  withoutBaseMark 16 (splitSign ((stripList isNumberBlank cs).map asciiDigit)).2

/-- Thirty-two characters that spell a number in base sixteen, in digits that single underscores may
part. -/
structure Spells (s : String) (n : ℕ) : Prop where
  length : (bareChars s).length = 32
  digits : ∃ ds, Parted 16 (digitPart (bareChars s)) ds ∧ ds.foldl (fun n d => 16 * n + d) 0 = n

theorem mem_of_mem_stripList {blank : Char → Bool} {cs : List Char} {c : Char}
    (h : c ∈ stripList blank cs) : c ∈ cs :=
  (List.dropWhile_suffix blank).subset (List.mem_reverse.mp
    ((List.dropWhile_suffix blank).subset (List.mem_reverse.mp h)))

theorem asciiDigit_ne_dash {c : Char} (h : c ≠ '-') : asciiDigit c ≠ '-' := by
  unfold asciiDigit
  split
  · next d hd =>
    have hall : ∀ d < 10, Char.ofNat (48 + d) ≠ '-' := by decide
    exact hall d (digitValue?_lt hd)
  · exact h

/-- A number without a dash has no sign below zero. -/
theorem readIn_sixteen {cs : List Char} (h : '-' ∉ cs) :
    readIn 16 (String.ofList cs) = (separatedDigits? 16 false (digitPart cs)).elim
      (.error .malformed) fun ds => .ok (ds.foldl (fun n d => 16 * n + d) 0 : ℕ) := by
  have hsign : (splitSign ((stripList isNumberBlank cs).map asciiDigit)).1 = false := by
    unfold splitSign
    split
    · next rest hrest =>
      obtain ⟨c, hc, hdash⟩ := List.mem_map.mp (hrest ▸ List.mem_cons_self)
      refine absurd hdash (asciiDigit_ne_dash ?_)
      rintro rfl
      exact h (mem_of_mem_stripList hc)
    · rfl
    · rfl
  simp only [readIn, String.toList_ofList, hsign]
  unfold digitPart
  cases separatedDigits? 16 false (withoutBaseMark 16
    (splitSign ((stripList isNumberBlank cs).map asciiDigit)).2) with
  | none => rfl
  | some ds => rfl

theorem dash_not_mem_bareChars (s : String) : '-' ∉ bareChars s := by
  simp [bareChars]

theorem read_eq (s : String) : read s =
    if (bareChars s).length ≠ 32 then .error .badLength
    else (separatedDigits? 16 false (digitPart (bareChars s))).elim
      (.error (.notHexadecimal (String.ofList (bareChars s))))
      fun ds => .ok (ds.foldl (fun n d => 16 * n + d) 0) := by
  have hread := readIn_sixteen (dash_not_mem_bareChars s)
  unfold bareChars stripList at hread ⊢
  simp only [read, String.length_ofList, hread]
  split
  · rfl
  · generalize separatedDigits? 16 false _ = digits
    cases digits with
    | none => rfl
    | some ds => simp

theorem Spells.read_eq (h : Spells s n) : read s = .ok n := by
  obtain ⟨ds, hparted, rfl⟩ := h.digits
  have hdigits := (separatedDigits?_eq_some_iff false).mpr (.inl hparted)
  rw [Identifier.read_eq, if_neg (by simp [h.length]), hdigits]
  rfl

/-- What spells no number has another length or is in other digits. -/
theorem read_of_not_spells (h : ∀ n, ¬ Spells s n) : read s = .error
    (if (bareChars s).length = 32 then .notHexadecimal (String.ofList (bareChars s))
      else .badLength) := by
  rw [Identifier.read_eq]
  by_cases hlength : (bareChars s).length = 32
  · rw [if_neg (by simp [hlength]), if_pos hlength]
    cases hdigits : separatedDigits? 16 false (digitPart (bareChars s)) with
    | none => rfl
    | some ds =>
      rw [separatedDigits?_eq_some_iff] at hdigits
      exact absurd ⟨hlength, ds, by simpa using hdigits, rfl⟩ (h _)
  · rw [if_pos hlength, if_neg hlength]

end Identifier

theorem Scalar.readUuid_of_spells {raw : String} {n : ℕ} (h : Identifier.Spells (trim raw) n) :
    Scalar.readUuid raw = .ok (.uuid n) := by
  unfold Scalar.readUuid
  rw [h.read_eq]

theorem Scalar.readUuid_of_not_spells {raw : String}
    (h : ∀ n, ¬ Identifier.Spells (trim raw) n) : Scalar.readUuid raw = .error
      (if (Identifier.bareChars (trim raw)).length = 32 then
        .identifierDigits (String.ofList (Identifier.bareChars (trim raw)))
      else .identifierLength) := by
  unfold Scalar.readUuid
  rw [Identifier.read_of_not_spells h]
  split_ifs <;> rfl

namespace ConversionCache

open Identifier (Spells bareChars)

variable {raw : String}

/-- A scalar with a grammar is read as the grammar has it, and the cache stays as it is. -/
theorem convert_scalar (c : ConversionCache) (s : Schema) {k : Scalar} (hk : k ≠ .text)
    (hk' : k ≠ .bytes) : c.convert s raw (.scalar k) =
      ((k.read raw).mapError fun e => .conversion raw (.scalar k) e, c) := by
  have hgrammar : (FieldType.scalar k).grammar? = some (.ofReader k.read) := by
    cases k with
    | text => exact absurd rfl hk
    | bytes => exact absurd rfl hk'
    | _ => rfl
  rw [convert_of_grammar? c hgrammar, Schema.apply_ofReader]

/-- A text with an underscore is no integer, number with a point, truth value or duration. It is an
identifier exactly if it spells one. -/
theorem convert_underscore (c : ConversionCache) (s : Schema) (h : '_' ∈ raw.toList) :
    let failed (k : Scalar) (reason : ConversionError) : Except Fault Value × ConversionCache :=
      (.error (.conversion raw (.scalar k) reason), c)
    c.convert s raw (.scalar .int) = failed .int (.integer .malformed) ∧
    c.convert s raw (.scalar .float) = failed .float .digitSeparators ∧
    c.convert s raw (.scalar .decimal) = failed .decimal .digitSeparators ∧
    c.convert s raw (.scalar .bool) = failed .bool .notBool ∧
    c.convert s raw (.scalar .span) = failed .span .notDuration ∧
    ((∃ n, Spells (trim raw) n ∧ c.convert s raw (.scalar .uuid) = (.ok (.uuid n), c)) ∨
      (∀ n, ¬ Spells (trim raw) n) ∧ c.convert s raw (.scalar .uuid) = failed .uuid
        (if (bareChars (trim raw)).length = 32 then
          .identifierDigits (String.ofList (bareChars (trim raw)))
        else .identifierLength)) := by
  intro failed
  have htrim : '_' ∈ (trim raw).toList := by
    rw [toList_trim]
    exact mem_trimChars h rfl
  have hfailed : ∀ {k : Scalar} {reason : ConversionError}, k ≠ .text → k ≠ .bytes →
      k.read raw = .error reason → c.convert s raw (.scalar k) = failed k reason := by
    intro k reason hk hk' hread
    rw [convert_scalar c s hk hk', hread]
    rfl
  have hseparators : Scalar.withoutSeparators raw = .error .digitSeparators :=
    if_pos (by simpa using h)
  refine ⟨hfailed nofun nofun ?_, hfailed nofun nofun ?_, hfailed nofun nofun ?_,
    hfailed nofun nofun ?_, hfailed nofun nofun ?_, ?_⟩
  · simp only [Scalar.read, Scalar.readInteger, readPlain_of_underscore htrim]
  · simp only [Scalar.read, Scalar.readFloat, hseparators]
    rfl
  · simp only [Scalar.read, Scalar.readDecimal, hseparators]
    rfl
  · have hlower : '_' ∈ (lower (trim raw)).toList :=
      mem_lower_of_mem (by decide) (by decide) htrim
    simp only [Scalar.read, Scalar.readBool]
    split
    · next heq => exact absurd (heq ▸ hlower) (by decide)
    · next heq => exact absurd (heq ▸ hlower) (by decide)
    · rfl
  · simp only [Scalar.read, Scalar.readSpan, Span.read_of_underscore h]
  · by_cases hspells : ∃ n, Spells (trim raw) n
    · obtain ⟨n, hn⟩ := hspells
      refine .inl ⟨n, hn, ?_⟩
      have hread : Scalar.uuid.read raw = .ok (.uuid n) := by
        simp only [Scalar.read, Scalar.readUuid_of_spells hn]
      rw [convert_scalar c s (k := .uuid) nofun nofun, hread]
      rfl
    · rw [not_exists] at hspells
      refine .inr ⟨hspells, hfailed nofun nofun ?_⟩
      simp only [Scalar.read, Scalar.readUuid_of_not_spells hspells]

theorem thousand_convert_underscore : '_' ∈ "1_000".toList ∧
    ({} : ConversionCache).convert {} "1_000" (.scalar .decimal) =
      (.error (.conversion "1_000" (.scalar .decimal) .digitSeparators), {}) :=
  ⟨by decide, (convert_underscore {} {} (by decide)).2.2.1⟩

/-- Thirty-one digits with a separator are taken for thirty-two, the first of them zero. -/
theorem separatedIdentifier_accepted : '_' ∈ "1234567812345678123456781234_678".toList ∧
    (({} : ConversionCache).convert {} "1234567812345678123456781234_678" (.scalar .uuid)).1 =
      .ok (.uuid 0x01234567812345678123456781234678) :=
  ⟨by decide, rfl⟩

end ConversionCache

end PagedQuery
