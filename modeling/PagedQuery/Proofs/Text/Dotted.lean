import Mathlib.Tactic
import PagedQuery.Proofs.Text.Capital
import PagedQuery.Proofs.Text.Split
import PagedQuery.Query.Clause

/-!
# Dotted paths

A path is the list of its segments: joining segments without dots and splitting the result gives
them back. Normalizing a segment brings in no dot, and normalizing it again changes nothing.
-/

namespace PagedQuery

open PagedQuery.Text

namespace Text

/-! ## Upper case -/

/-- Blanks, commas and tildes have no upper case. -/
theorem delimiters_settled : ∀ range ∈ delimiters, ∀ i < 11,
    range.1 + i ≤ range.2 → isSettled (range.1 + i) := by
  decide +kernel

theorem delimiters_short : ∀ range ∈ delimiters, range.2 < range.1 + 11 := by decide

theorem upperChar_of_isDelimiter {c : Char} (h : isDelimiter c.toNat) : upperChar c = [c] := by
  obtain ⟨range, hrange, hin⟩ := List.any_eq_true.mp h
  simp only [Bool.and_eq_true, decide_eq_true_eq] at hin
  have hshort := delimiters_short range hrange
  have hsettled := delimiters_settled range hrange (c.toNat - range.1) (by omega) (by omega)
  rw [Nat.add_sub_cancel' hin.1] at hsettled
  exact upperChar_of_isSettled hsettled

/-- The upper case of a character begins with a character that is its own upper case. -/
theorem upperChar_head (c : Char) :
    ∃ head tail, upperChar c = head :: tail ∧ upperChar head = [head] := by
  cases hd : isDelimiter c.toNat with
  | true =>
    have hc := upperChar_of_isDelimiter hd
    exact ⟨c, [], hc, hc⟩
  | false => exact (capital_upperChar hd).1

theorem capitalizeChars_capitalizeChars (cs : List Char) :
    capitalizeChars (capitalizeChars cs) = capitalizeChars cs := by
  cases cs with
  | nil => rfl
  | cons c rest =>
    obtain ⟨head, tail, hup, hhead⟩ := upperChar_head c
    rw [capitalizeChars_cons, hup, List.cons_append, capitalizeChars_cons, hhead,
      List.singleton_append]

/-! ## Separators -/

/-- The characters between the segments of a path and between the words of a name. -/
def separators : List Char := ['.', '_']

theorem forall_separators {P : Char → Prop} (hdot : P '.') (hunderscore : P '_') :
    ∀ separator ∈ separators, P separator :=
  List.forall_mem_cons.mpr ⟨hdot, List.forall_mem_singleton.mpr hunderscore⟩

theorem upperChar_separator : ∀ separator ∈ separators, upperChar separator = [separator] :=
  forall_separators (by decide) (by decide)

theorem upperRuns_avoid_separators : ∀ separator ∈ separators,
    upperRuns.toList.all (·.avoids separator.toNat separator.toNat) :=
  forall_separators (by decide) (by decide)

theorem upperLong_avoid_separators : ∀ separator ∈ separators,
    upperLong.toList.all (fun entry => entry.2.all fun code => Char.ofNat code != separator) :=
  forall_separators (by decide) (by decide)

theorem toUpper_ne_separator : ∀ separator ∈ separators, ∀ n < 128,
    (Char.ofNat n).toUpper = separator → Char.ofNat n = separator :=
  forall_separators (by decide) (by decide)

variable {separator : Char}

/-- Only a separator has it in its upper case. -/
theorem separator_not_mem_upperChar (hs : separator ∈ separators) {c : Char}
    (hc : c ≠ separator) : separator ∉ upperChar c := by
  unfold upperChar
  split
  · next hascii =>
    have hup := toUpper_ne_separator separator hs c.toNat hascii
    rw [Char.ofNat_toNat] at hup
    simpa using fun h : separator = c.toUpper => hc (hup h.symm)
  · unfold mapCase
    split
    · next entry image hfind =>
      have hmem := Array.mem_of_find?_eq_some hfind
      have hall :=
        List.all_eq_true.mp (upperLong_avoid_separators separator hs) _ (by simpa using hmem)
      intro hsep
      obtain ⟨code, hcode, hchar⟩ := List.mem_map.mp hsep
      have hne := List.all_eq_true.mp hall code hcode
      simp [hchar] at hne
    · split
      · next code hsome =>
        obtain ⟨run, hrun, hi⟩ := Array.exists_of_findSome?_eq_some hsome
        have havoids :=
          List.all_eq_true.mp (upperRuns_avoid_separators separator hs) run (by simpa using hrun)
        have hlands := List.all_eq_true.mp upperRuns_land run (by simpa using hrun)
        have hvalid := (CaseRun.lands_spec hlands hi).2.1
        have hne := CaseRun.not_mem_of_avoids havoids hi
        intro hsep
        have hcode : code = separator.toNat := by
          rw [List.mem_singleton.mp hsep, toNat_charOfNat hvalid]
        omega
      · simpa using hc.symm

theorem separator_not_mem_capitalizeChars (hs : separator ∈ separators) {cs : List Char}
    (h : separator ∉ cs) : separator ∉ capitalizeChars cs := by
  cases cs with
  | nil => exact h
  | cons c rest =>
    rw [List.mem_cons, not_or] at h
    rw [capitalizeChars_cons, List.mem_append, not_or]
    exact ⟨separator_not_mem_upperChar hs (Ne.symm h.1), h.2⟩

/-- The first piece of a capitalized text is capitalized, and the others are as before. -/
theorem splitChars_capitalizeChars (hs : separator ∈ separators) (cs : List Char) :
    splitChars separator (capitalizeChars cs) =
      (splitChars separator cs).modifyHead capitalizeChars := by
  cases cs with
  | nil => rfl
  | cons c rest =>
    rw [capitalizeChars_cons]
    by_cases hc : c = separator
    · simp [hc, upperChar_separator separator hs, splitChars, capitalizeChars]
    · rw [splitChars_append_of_not_mem (separator_not_mem_upperChar hs hc), splitChars, if_neg hc]
      cases hsplit : splitChars separator rest with
      | nil => exact (splitChars_ne_nil separator rest hsplit).elim
      | cons piece pieces => rfl

/-! ## Segments -/

theorem split_ne_nil (separator : Char) (s : String) : split separator s ≠ [] := by
  simp [split, splitChars_ne_nil]

theorem not_mem_of_mem_split {separator : Char} {s piece : String}
    (h : piece ∈ split separator s) : separator ∉ piece.toList := by
  obtain ⟨cs, hcs, rfl⟩ := List.mem_map.mp h
  rw [String.toList_ofList]
  exact not_mem_of_mem_splitChars hcs

/-- Segments without dots are those of the path that they make up. -/
theorem split_intercalate {segments : List String} (hne : segments ≠ [])
    (h : ∀ segment ∈ segments, '.' ∉ segment.toList) :
    split '.' (String.intercalate "." segments) = segments := by
  have hpieces : ∀ piece ∈ segments.map String.toList, '.' ∉ piece := by
    intro piece hpiece
    obtain ⟨segment, hsegment, rfl⟩ := List.mem_map.mp hpiece
    exact h segment hsegment
  have hdot : ".".toList = ['.'] := rfl
  rw [split, String.toList_intercalate, hdot, splitChars_intercalate (by simpa using hne) hpieces,
    List.map_map]
  simp [Function.comp_def]

/-- Joining the segments of a path gives the path back. -/
theorem intercalate_split (path : String) : String.intercalate "." (split '.' path) = path := by
  have hdot : ".".toList = ['.'] := rfl
  rw [← String.toList_inj, String.toList_intercalate, hdot, split, List.map_map]
  simp only [Function.comp_def, String.toList_ofList, List.map_id']
  exact intercalate_splitChars '.' path.toList

end Text

/-! ## Normalized paths -/

theorem normalizeProperty_normalizeProperty (name : String) :
    normalizeProperty (normalizeProperty name) = normalizeProperty name := by
  rw [normalizeProperty, normalizeProperty, capitalize, capitalize, String.toList_ofList,
    capitalizeChars_capitalizeChars]

theorem separator_not_mem_normalizeProperty {separator : Char} (hs : separator ∈ separators)
    {name : String} (h : separator ∉ name.toList) :
    separator ∉ (normalizeProperty name).toList := by
  rw [normalizeProperty, capitalize, String.toList_ofList]
  exact separator_not_mem_capitalizeChars hs h

theorem dot_not_mem_normalizeProperty {name : String} (h : '.' ∉ name.toList) :
    '.' ∉ (normalizeProperty name).toList :=
  separator_not_mem_normalizeProperty List.mem_cons_self h

theorem normalizeProperty_eq_empty_iff {name : String} :
    normalizeProperty name = "" ↔ name = "" := by
  rw [normalizeProperty, capitalize, ← String.toList_inj, ← String.toList_inj, String.toList_ofList]
  cases name.toList with
  | nil => rfl
  | cons c rest =>
    obtain ⟨head, tail, hup, -⟩ := upperChar_head c
    simp [capitalizeChars_cons, hup]

/-- The first piece of a normalized name is normalized, and the others are as before. -/
theorem split_normalizeProperty {separator : Char} (hs : separator ∈ separators) (name : String) :
    split separator (normalizeProperty name) =
      (split separator name).modifyHead normalizeProperty := by
  rw [split, split, normalizeProperty, capitalize, String.toList_ofList,
    splitChars_capitalizeChars hs]
  cases splitChars separator name.toList with
  | nil => rfl
  | cons piece pieces => simp [normalizeProperty, capitalize]

/-- The segments of a path, each with its first letter in upper case. -/
def segments (path : String) : List String := (split '.' path).map normalizeProperty

theorem segments_ne_nil (path : String) : segments path ≠ [] := by
  simp [segments, split_ne_nil]

theorem dot_not_mem_of_mem_segments {path segment : String} (h : segment ∈ segments path) :
    '.' ∉ segment.toList := by
  obtain ⟨piece, hpiece, rfl⟩ := List.mem_map.mp h
  exact dot_not_mem_normalizeProperty (not_mem_of_mem_split hpiece)

theorem normalizeProperty_of_mem_segments {path segment : String} (h : segment ∈ segments path) :
    normalizeProperty segment = segment := by
  obtain ⟨piece, -, rfl⟩ := List.mem_map.mp h
  exact normalizeProperty_normalizeProperty piece

theorem split_normalizePath (path : String) : split '.' (normalizePath path) = segments path :=
  split_intercalate (segments_ne_nil path) fun _ => dot_not_mem_of_mem_segments

theorem segments_normalizePath (path : String) : segments (normalizePath path) = segments path := by
  rw [segments, split_normalizePath]
  calc (segments path).map normalizeProperty = (segments path).map id :=
        List.map_congr_left fun _ h => normalizeProperty_of_mem_segments h
    _ = segments path := List.map_id _

theorem segments_normalizeProperty (path : String) :
    segments (normalizeProperty path) = segments path := by
  rw [segments, segments, split_normalizeProperty List.mem_cons_self]
  cases split '.' path with
  | nil => rfl
  | cons segment rest => simp [normalizeProperty_normalizeProperty]

/-- A path of normalized segments has these segments. -/
theorem segments_intercalate {route : List String} (hne : route ≠ [])
    (h : ∀ segment ∈ route, '.' ∉ segment.toList)
    (hnormal : ∀ segment ∈ route, normalizeProperty segment = segment) :
    segments (String.intercalate "." route) = route := by
  rw [segments, split_intercalate hne h]
  calc route.map normalizeProperty = route.map id := List.map_congr_left hnormal
    _ = route := List.map_id route

end PagedQuery
