import Mathlib
import PagedQuery.Table.Cell

/-!
# Case folding and the lower case of ASCII letters

Case folding knows all letters, a search in cells only those of ASCII. What the search finds is
found after folding, too, unless a null character cuts its pattern short. Both find the same among
characters that fold as ASCII letters are lowered.
-/

namespace PagedQuery.Text

/-- Whether a text contains another one, both case folded. -/
def foldedIn (pattern text : String) : Bool :=
  occursIn (foldChars pattern.toList) (foldChars text.toList)

/-- Folding goes character by character, so that it keeps what a text contains, and what is found in
a text depends on the folded texts alone. -/
theorem foldedIn_of_isInfix {pattern text pattern' text' : String}
    (h : pattern.toList <:+: text.toList) (hpattern : fold pattern' = fold pattern)
    (htext : fold text' = fold text) : foldedIn pattern' text' := by
  have hchars : ∀ {s t : String}, fold s = fold t → foldChars s.toList = foldChars t.toList := by
    intro s t heq
    simpa [fold, String.ofList_inj] using heq
  rw [foldedIn, occursIn_iff, hchars hpattern, hchars htext]
  exact h.flatMap foldChar

/-- Characters that fold as ASCII letters are lowered, the null character left out. -/
def isPlain (c : Char) : Bool := c != '\x00' && foldChar c == [c.toLower]

variable {c : Char}

theorem toNat_toLower_of_isUpper (h : c.isUpper) : c.toLower.toNat = c.toNat + 32 := by
  have hupper : 65 ≤ c.toNat ∧ c.toNat ≤ 90 := of_decide_eq_true h
  rw [Char.toLower_eq_of_isUpper h, Char.toNat_ofNat, if_pos]
  exact .inl (by omega)

/-- Lowering keeps to ASCII. -/
theorem toNat_toLower_lt (h : c.toNat < 128) : c.toLower.toNat < 128 := by
  by_cases hupper : c.isUpper
  · have hle : 65 ≤ c.toNat ∧ c.toNat ≤ 90 := of_decide_eq_true hupper
    rw [toNat_toLower_of_isUpper hupper]
    omega
  · rwa [Char.toLower_eq_of_not_isUpper hupper]

theorem toLower_ne_null (h : c ≠ '\x00') : c.toLower ≠ '\x00' := by
  by_cases hupper : c.isUpper
  · intro hnull
    have hcode := toNat_toLower_of_isUpper hupper
    rw [hnull] at hcode
    exact Nat.succ_ne_zero _ hcode.symm
  · rwa [Char.toLower_eq_of_not_isUpper hupper]

/-- Lowered ASCII letters fold alike. -/
@[simp] theorem foldChar_toLower (c : Char) : foldChar c.toLower = foldChar c := by
  by_cases h : c.toNat < 128
  · rw [foldChar, foldChar, if_pos h, if_pos (toNat_toLower_lt h), Char.toLower_toLower_eq_toLower]
  · have hupper : ¬ c.isUpper := fun hupper => by
      have hle : 65 ≤ c.toNat ∧ c.toNat ≤ 90 := of_decide_eq_true hupper
      omega
    rw [Char.toLower_eq_of_not_isUpper hupper]

theorem toList_lowerAscii (s : String) : (lowerAscii s).toList = s.toList.map Char.toLower :=
  String.toList_map

theorem foldChars_map_toLower (cs : List Char) : foldChars (cs.map Char.toLower) = foldChars cs := by
  rw [foldChars, foldChars, List.flatMap_map]
  exact List.flatMap_congr fun _ _ => foldChar_toLower _

theorem null_not_mem_lowerAscii {s : String} (h : '\x00' ∉ s.toList) :
    '\x00' ∉ (lowerAscii s).toList := by
  rw [toList_lowerAscii, List.mem_map]
  rintro ⟨c, hc, hnull⟩
  exact toLower_ne_null (fun heq => h (heq ▸ hc)) hnull

theorem patternChars_eq_self {cs : List Char} (h : '\x00' ∉ cs) : Cell.patternChars cs = cs :=
  List.takeWhile_eq_self_iff.mpr fun _ hc => bne_iff_ne.mpr fun heq => h (heq ▸ hc)

/-- Without null characters the search is one for lowered texts. -/
theorem textContains_eq {s pattern : String} (hpattern : '\x00' ∉ pattern.toList) :
    Cell.textContains s pattern =
      occursIn (pattern.toList.map Char.toLower)
        (Cell.patternChars (s.toList.map Char.toLower)) := by
  rw [Cell.textContains, if_neg (null_not_mem_lowerAscii hpattern), toList_lowerAscii,
    toList_lowerAscii]

/-- What is found in lowered texts is found in folded ones. -/
theorem foldedIn_of_textContains {s pattern : String} (hpattern : '\x00' ∉ pattern.toList)
    (h : Cell.textContains s pattern) : foldedIn pattern s := by
  rw [textContains_eq hpattern, occursIn_iff] at h
  have hinfix : pattern.toList.map Char.toLower <:+: s.toList.map Char.toLower :=
    h.trans (List.takeWhile_prefix _).isInfix
  have hfolded : foldChars (pattern.toList.map Char.toLower) <:+:
      foldChars (s.toList.map Char.toLower) := hinfix.flatMap foldChar
  rwa [foldChars_map_toLower, foldChars_map_toLower, ← occursIn_iff] at hfolded

theorem ne_null_of_isPlain (h : isPlain c) : c ≠ '\x00' := bne_iff_ne.mp (Bool.and_elim_left h)

theorem null_not_mem_of_isPlain {cs : List Char} (h : ∀ c ∈ cs, isPlain c) : '\x00' ∉ cs :=
  fun hnull => ne_null_of_isPlain (h _ hnull) rfl

/-- ASCII characters are plain. -/
theorem isPlain_of_lt (hne : c ≠ '\x00') (hlt : c.toNat < 128) : isPlain c := by
  rw [isPlain, Bool.and_eq_true, foldChar, if_pos hlt]
  exact ⟨bne_iff_ne.mpr hne, beq_self_eq_true _⟩

/-- Texts of plain characters fold as they are lowered. -/
theorem foldChars_eq_map_toLower {cs : List Char} (h : ∀ c ∈ cs, isPlain c) :
    foldChars cs = cs.map Char.toLower := by
  rw [foldChars, List.map_eq_flatMap]
  exact List.flatMap_congr fun c hc => beq_iff_eq.mp (Bool.and_elim_right (h c hc))

/-- Both searches find the same among plain characters. -/
theorem textContains_eq_foldedIn {s pattern : String} (hpattern : ∀ c ∈ pattern.toList, isPlain c)
    (hs : ∀ c ∈ s.toList, isPlain c) : Cell.textContains s pattern = foldedIn pattern s := by
  have hseen := null_not_mem_lowerAscii (null_not_mem_of_isPlain hs)
  rw [toList_lowerAscii] at hseen
  rw [textContains_eq (null_not_mem_of_isPlain hpattern), patternChars_eq_self hseen, foldedIn,
    foldChars_eq_map_toLower hpattern, foldChars_eq_map_toLower hs]

end PagedQuery.Text
