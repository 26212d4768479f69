import Mathlib.Tactic
import PagedQuery.Text.Blank
import PagedQuery.Text.Case

/-!
# Capital letters

The upper case of a character begins with a character that is its own upper case, also where it is
several characters long, and holds neither blanks nor separators. Both are read off the tables run
by run: the images of a run are an interval, which has to miss the runs themselves.
-/

namespace PagedQuery.Text

/-- The ranges of the characters that surround or separate names: blanks, commas and tildes. -/
def delimiters : List (ℕ × ℕ) :=
  [(0x9, 0xd), (0x1c, 0x20), (0x2c, 0x2c), (0x7e, 0x7e), (0x85, 0x85), (0xa0, 0xa0),
    (0x1680, 0x1680), (0x2000, 0x200a), (0x2028, 0x2029), (0x202f, 0x202f), (0x205f, 0x205f),
    (0x3000, 0x3000)]

def isDelimiter (code : ℕ) : Bool :=
  delimiters.any fun (first, last) => first ≤ code && code ≤ last

theorem isDelimiter_iff (c : Char) : isDelimiter c.toNat ↔ isBlank c ∨ c = ',' ∨ c = '~' := by
  have hcomma : c = ',' ↔ c.toNat = 0x2c := by
    rw [← Char.toNat_inj]
    rfl
  have htilde : c = '~' ↔ c.toNat = 0x7e := by
    rw [← Char.toNat_inj]
    rfl
  rw [hcomma, htilde]
  simp only [isDelimiter, delimiters, isBlank, List.any_cons, List.any_nil, Bool.or_eq_true,
    Bool.and_eq_true, decide_eq_true_eq, beq_iff_eq, Bool.false_eq_true, or_false]
  omega

/-- A code point that no table moves. -/
def isSettled (code : ℕ) : Bool :=
  !(0x61 ≤ code && code ≤ 0x7a) && upperLong.toList.all (fun entry => entry.1 != code) &&
    upperRuns.toList.all fun run => (run.image? code).isNone

theorem toUpper_of_not_lower {c : Char} (h : ¬ (0x61 ≤ c.toNat ∧ c.toNat ≤ 0x7a)) :
    c.toUpper = c := dif_neg h

theorem upperChar_of_isSettled {c : Char} (h : isSettled c.toNat) : upperChar c = [c] := by
  simp only [isSettled, Bool.and_eq_true, Bool.not_eq_true', Bool.and_eq_false_iff,
    decide_eq_false_iff_not, List.all_eq_true] at h
  obtain ⟨⟨hlower, hlong⟩, hruns⟩ := h
  unfold upperChar
  split
  · rw [toUpper_of_not_lower (by omega)]
  · have hfind : upperLong.find? (·.1 == c.toNat) = none :=
      Array.find?_eq_none.mpr fun entry he => by simpa using hlong entry (by simpa using he)
    have hsome : upperRuns.findSome? (·.image? c.toNat) = none :=
      Array.findSome?_eq_none_iff.mpr fun run hr => by simpa using hruns run (by simpa using hr)
    rw [mapCase, hfind]
    simp only [hsome]

namespace CaseRun

variable {r q : CaseRun} {code image : ℕ}

/-- The first image of a run. -/
def low (r : CaseRun) : ℕ := (r.first + r.shift).toNat

/-- The last image of a run. -/
def high (r : CaseRun) : ℕ := (r.last + r.shift).toNat

/-- Whether the images of a run all lie outside of an interval. -/
def avoids (r : CaseRun) (first last : ℕ) : Bool := Nat.blt r.high first || Nat.blt last r.low

/-- Whether the images of a run all lie outside of a run, between its members if need be. -/
def misses (r q : CaseRun) : Bool :=
  r.avoids q.first q.last ||
    q.stride == 2 && (r.stride == 2 || r.first == r.last) && (r.low + q.first) % 2 == 1

/-- Whether the images of a run are characters that no table moves and that separate nothing. -/
def lands (r : CaseRun) : Bool :=
  decide (0 ≤ r.first + r.shift) && r.avoids 0xD800 0xDFFF && Nat.blt r.high 0x110000 &&
    r.avoids 0x61 0x7a && delimiters.all (fun range => r.avoids range.1 range.2) &&
    upperLong.toList.all (fun entry => r.avoids entry.1 entry.1) && upperRuns.toList.all r.misses

theorem image?_bounds (hi : r.image? code = some image) :
    r.low ≤ image ∧ image ≤ r.high := by
  simp only [image?, Option.ite_none_right_eq_some, Option.some.injEq] at hi
  unfold low high
  omega

theorem not_mem_of_avoids {first last : ℕ} (h : r.avoids first last)
    (hi : r.image? code = some image) : ¬ (first ≤ image ∧ image ≤ last) := by
  have hbounds := image?_bounds hi
  simp only [avoids, Bool.or_eq_true, Nat.blt_eq] at h
  omega

theorem image?_eq_none_of_misses (h : r.misses q) (hs : 0 ≤ r.first + r.shift)
    (hi : r.image? code = some image) : q.image? image = none := by
  by_contra hne
  obtain ⟨next, hq⟩ := Option.ne_none_iff_exists'.mp hne
  have hmem : q.first ≤ image ∧ image ≤ q.last ∧ (image - q.first) % q.stride = 0 := by
    simp only [image?, Option.ite_none_right_eq_some] at hq
    exact hq.1
  simp only [misses, Bool.or_eq_true, Bool.and_eq_true, beq_iff_eq] at h
  rcases h with h | ⟨⟨hstride, hr⟩, hodd⟩
  · exact not_mem_of_avoids h hi ⟨hmem.1, hmem.2.1⟩
  · -- Every other code point is a member of the run, and the images are the ones between them.
    simp only [image?, Option.ite_none_right_eq_some, Option.some.injEq] at hi
    rw [hstride] at hmem
    unfold low at hodd
    rcases hr with hr | hr
    · rw [hr] at hi
      omega
    · omega

theorem lands_spec (h : r.lands) (hi : r.image? code = some image) :
    isSettled image ∧ image.isValidChar ∧ isDelimiter image = false := by
  simp only [lands, Bool.and_eq_true, decide_eq_true_eq, Nat.blt_eq, List.all_eq_true] at h
  obtain ⟨⟨⟨⟨⟨⟨hs, hsurrogate⟩, hhigh⟩, hlower⟩, hdelimiters⟩, hlong⟩, hruns⟩ := h
  refine ⟨?_, ?_, ?_⟩
  · simp only [isSettled, Bool.and_eq_true, List.all_eq_true]
    refine ⟨⟨?_, fun entry he => ?_⟩, fun run hr => ?_⟩
    · have hnot := not_mem_of_avoids hlower hi
      simp only [Bool.not_eq_true', Bool.and_eq_false_iff, decide_eq_false_iff_not]
      omega
    · have hnot := not_mem_of_avoids (hlong entry he) hi
      rw [bne_iff_ne]
      omega
    · rw [image?_eq_none_of_misses (hruns run hr) hs hi]
      rfl
  · have hbounds := image?_bounds hi
    have hnot := not_mem_of_avoids hsurrogate hi
    unfold Nat.isValidChar
    omega
  · simp only [isDelimiter, List.any_eq_false]
    intro range hrange
    have hnot := not_mem_of_avoids (hdelimiters range hrange) hi
    simpa using hnot

end CaseRun

theorem upperRuns_land : upperRuns.toList.all CaseRun.lands := by decide +kernel

/-- Whether a long image begins with a settled character and separates nothing. -/
def isLongImage : List ℕ → Bool
  | [] => false
  | code :: codes =>
    isSettled code && (code :: codes).all fun c => decide c.isValidChar && !isDelimiter c

theorem upperLong_land : upperLong.toList.all (fun entry => isLongImage entry.2) := by
  decide +kernel

/-! ## Characters -/

/-- What the upper case of a character is like: it begins with a character that is its own upper
case, and holds no delimiters. -/
def Capital (cs : List Char) : Prop :=
  (∃ head tail, cs = head :: tail ∧ upperChar head = [head]) ∧
    ∀ c ∈ cs, isDelimiter c.toNat = false

theorem Capital.plain {cs : List Char} (h : Capital cs) {x : Char} (hx : x ∈ cs) :
    isBlank x = false ∧ x ≠ ',' ∧ x ≠ '~' := by
  have hnot : ¬ (isBlank x ∨ x = ',' ∨ x = '~') := by
    rw [← isDelimiter_iff, h.2 x hx]
    exact Bool.false_ne_true
  simpa [not_or] using hnot

theorem toUpper_ascii : ∀ n < 128, isDelimiter n = false →
    (Char.ofNat n).toUpper.toUpper = (Char.ofNat n).toUpper ∧ (Char.ofNat n).toUpper.toNat < 128 ∧
      isDelimiter (Char.ofNat n).toUpper.toNat = false := by
  decide +kernel

theorem capital_ascii {c : Char} (h : c.toNat < 128) (hd : isDelimiter c.toNat = false) :
    Capital (upperChar c) := by
  obtain ⟨hupper, hascii, hd'⟩ := toUpper_ascii c.toNat h hd
  rw [Char.ofNat_toNat] at hupper hascii hd'
  rw [upperChar, if_pos h]
  refine ⟨⟨c.toUpper, [], rfl, ?_⟩, by simpa using hd'⟩
  rw [upperChar, if_pos hascii, hupper]

theorem toNat_charOfNat {code : ℕ} (h : code.isValidChar) : (Char.ofNat code).toNat = code := by
  rw [Char.ofNat, dif_pos h]
  rfl

theorem capital_ofNat {code : ℕ} (hs : isSettled code) (hv : code.isValidChar)
    (hd : isDelimiter code = false) : Capital [Char.ofNat code] := by
  have hn : (Char.ofNat code).toNat = code := toNat_charOfNat hv
  refine ⟨⟨Char.ofNat code, [], rfl, upperChar_of_isSettled (hn.symm ▸ hs)⟩, ?_⟩
  simpa [hn] using hd

theorem capital_long {codes : List ℕ} (h : isLongImage codes) :
    Capital (codes.map Char.ofNat) := by
  cases codes with
  | nil => cases h
  | cons code codes =>
    simp only [isLongImage, Bool.and_eq_true, List.all_eq_true, decide_eq_true_eq,
      Bool.not_eq_true'] at h
    obtain ⟨hs, hall⟩ := h
    refine ⟨⟨Char.ofNat code, codes.map Char.ofNat, rfl, upperChar_of_isSettled ?_⟩, ?_⟩
    · rwa [toNat_charOfNat (hall code List.mem_cons_self).1]
    · intro c hc
      obtain ⟨n, hn, rfl⟩ := List.mem_map.mp hc
      rw [toNat_charOfNat (hall n hn).1]
      exact (hall n hn).2

/-- The upper case of a character that is no delimiter. -/
theorem capital_upperChar {c : Char} (hd : isDelimiter c.toNat = false) :
    Capital (upperChar c) := by
  by_cases hascii : c.toNat < 128
  · exact capital_ascii hascii hd
  rw [upperChar, if_neg hascii, mapCase]
  split
  · next entry image hfind =>
    have hmem := Array.mem_of_find?_eq_some hfind
    exact capital_long (List.all_eq_true.mp upperLong_land _ (by simpa using hmem))
  · next hlong =>
    split
    · next code hsome =>
      obtain ⟨run, hrun, hi⟩ := Array.exists_of_findSome?_eq_some hsome
      have hland := List.all_eq_true.mp upperRuns_land run (by simpa using hrun)
      obtain ⟨hs, hv, hd'⟩ := CaseRun.lands_spec hland hi
      exact capital_ofNat hs hv hd'
    · next hruns =>
      have hup : upperChar c = [c] := by
        rw [upperChar, if_neg hascii, mapCase, hlong]
        simp only [hruns]
      exact ⟨⟨c, [], rfl, hup⟩, by simpa using hd⟩

end PagedQuery.Text
