import PagedQuery.Proofs.Text.Capital
import PagedQuery.Proofs.Time.Iso

/-!
# Lower case of numeric texts

Digits and the marks between them are their own lower case, and that of no other character. So a
text of them stays as it is, and a name has the lower case of such a text only if it begins like
one.
-/

namespace PagedQuery.Text

open PagedQuery.Time

variable {c x : Char}

/-! ## Characters -/

theorem lowerRuns_avoid_numeric : lowerRuns.toList.all (·.avoids 43 58) := by decide

theorem lowerLong_avoid_numeric :
    lowerLong.toList.all fun entry =>
      entry.2.all fun code => !decide (IsNumeric (Char.ofNat code)) := by
  decide

theorem lowerLong_ne_nil : lowerLong.toList.all (fun entry => !entry.2.isEmpty) := by decide

theorem toLower_numeric : ∀ n < 128,
    IsNumeric (Char.ofNat n) ∨ IsNumeric (Char.ofNat n).toLower →
      (Char.ofNat n).toLower = Char.ofNat n := by
  decide

theorem toNat_charOfNat_le (code : ℕ) :
    (Char.ofNat code).toNat = code ∨ (Char.ofNat code).toNat = 0 := by
  by_cases h : code.isValidChar
  · exact .inl (toNat_charOfNat h)
  · exact .inr (by rw [Char.ofNat, dif_neg h]; rfl)

/-- Only a numeric character has itself in its lower case. -/
theorem eq_of_mem_lowerChar (hx : IsNumeric x) (h : x ∈ lowerChar c) : x = c := by
  unfold lowerChar at h
  split at h
  · next hascii =>
    obtain rfl := List.mem_singleton.mp h
    have hlower := toLower_numeric c.toNat hascii
    rw [Char.ofNat_toNat] at hlower
    exact hlower (.inr hx)
  · unfold mapCase at h
    split at h
    · next entry image hfind =>
      have hmem := Array.mem_of_find?_eq_some hfind
      have hall := List.all_eq_true.mp lowerLong_avoid_numeric _ (by simpa using hmem)
      obtain ⟨code, hcode, rfl⟩ := List.mem_map.mp h
      have hnot := List.all_eq_true.mp hall code hcode
      simp [hx] at hnot
    · split at h
      · next code hsome =>
        obtain ⟨run, hrun, hi⟩ := Array.exists_of_findSome?_eq_some hsome
        have havoids := List.all_eq_true.mp lowerRuns_avoid_numeric run (by simpa using hrun)
        have hnot := CaseRun.not_mem_of_avoids havoids hi
        obtain rfl := List.mem_singleton.mp h
        unfold IsNumeric at hx
        rcases toNat_charOfNat_le code with hcode | hcode <;> omega
      · exact List.mem_singleton.mp h

theorem lowerChar_ne_nil (c : Char) : lowerChar c ≠ [] := by
  unfold lowerChar
  split
  · simp
  · unfold mapCase
    split
    · next entry image hfind =>
      have hmem := Array.mem_of_find?_eq_some hfind
      have hall := List.all_eq_true.mp lowerLong_ne_nil _ (by simpa using hmem)
      simpa using hall
    · split <;> simp

theorem lowerChar_of_isNumeric (h : IsNumeric c) : lowerChar c = [c] := by
  have hascii : c.toNat < 128 := by
    unfold IsNumeric at h
    omega
  have hlower := toLower_numeric c.toNat hascii
  rw [Char.ofNat_toNat] at hlower
  rw [lowerChar, if_pos hascii, hlower (.inl h)]

/-! ## Texts -/

theorem mem_lowerFrom_iff (hx : IsNumeric x) {cs : List Char} {casedBefore : Bool} :
    x ∈ lowerFrom casedBefore cs ↔ x ∈ cs := by
  induction cs generalizing casedBefore with
  | nil => rfl
  | cons c cs ih =>
    rw [lowerFrom, List.mem_append, ih, List.mem_cons]
    refine or_congr_left ?_
    split
    · next hsigma =>
      -- No sigma is numeric.
      have hne : x ≠ 'Σ' ∧ x ≠ 'ς' ∧ x ≠ 'σ' := by
        refine ⟨?_, ?_, ?_⟩ <;> rintro rfl <;> exact absurd hx (by decide)
      rw [hsigma, List.mem_singleton]
      split <;> simp only [hne]
    · refine ⟨eq_of_mem_lowerChar hx, ?_⟩
      rintro rfl
      rw [lowerChar_of_isNumeric hx]
      exact List.mem_singleton_self x

theorem lowerFrom_of_isNumeric {cs : List Char} (h : ∀ c ∈ cs, IsNumeric c) (casedBefore : Bool) :
    lowerFrom casedBefore cs = cs := by
  induction cs generalizing casedBefore with
  | nil => rfl
  | cons c cs ih =>
    obtain ⟨hc, hcs⟩ := List.forall_mem_cons.mp h
    have hsigma : c ≠ 'Σ' := by
      rintro rfl
      exact absurd hc (by decide)
    rw [lowerFrom, if_neg hsigma, lowerChar_of_isNumeric hc, ih hcs, List.singleton_append]

/-- The lower case of a text has the same numeric characters. -/
theorem mem_lower_iff (hx : IsNumeric x) {s : String} : x ∈ (lower s).toList ↔ x ∈ s.toList := by
  rw [lower, String.toList_ofList]
  exact mem_lowerFrom_iff hx

/-- A character that is its own lower case stays in the lower case of a text. -/
theorem mem_lower_of_mem (hc : lowerChar c = [c]) (hsigma : c ≠ 'Σ') {s : String}
    (h : c ∈ s.toList) : c ∈ (lower s).toList := by
  have hfrom : ∀ {cs : List Char} {casedBefore : Bool}, c ∈ cs → c ∈ lowerFrom casedBefore cs := by
    intro cs casedBefore h
    induction cs generalizing casedBefore with
    | nil => cases h
    | cons first rest ih =>
      rw [lowerFrom, List.mem_append]
      obtain rfl | h := List.mem_cons.mp h
      · rw [if_neg hsigma, hc]
        exact .inl (List.mem_singleton_self c)
      · exact .inr (ih h)
  rw [lower, String.toList_ofList]
  exact hfrom h

/-- A text begins with a numeric character if its lower case holds no other. -/
theorem isNumeric_of_mem_head? {s : String} (h : ∀ c ∈ (lower s).toList, IsNumeric c) :
    ∀ c ∈ s.toList.head?, IsNumeric c := by
  rw [lower, String.toList_ofList] at h
  intro c hc
  obtain ⟨cs, hcs⟩ := List.head?_eq_some_iff.mp hc
  rw [hcs, lowerFrom, List.forall_mem_append] at h
  obtain ⟨himage, -⟩ := h
  split at himage
  · have hsigma := List.forall_mem_singleton.mp himage
    split at hsigma <;> exact absurd hsigma (by decide)
  · obtain ⟨x, hx⟩ := List.exists_mem_of_ne_nil _ (lowerChar_ne_nil c)
    exact eq_of_mem_lowerChar (himage x hx) hx ▸ himage x hx

theorem lower_of_isNumeric {s : String} (h : ∀ c ∈ s.toList, IsNumeric c) : lower s = s := by
  rw [lower, lowerFrom_of_isNumeric h, String.ofList_toList]

end PagedQuery.Text
