import Mathlib.Tactic
import Mathlib.Data.List.DropRight
import PagedQuery.Text.Blank

/-!
# Stripped texts

Stripping a text leaves nothing if it holds nothing but blanks, and everything if it neither begins
nor ends with one.
-/

namespace PagedQuery.Text

/-- A text that neither begins nor ends with a blank. -/
def Stripped (cs : List Char) : Prop :=
  (∀ c ∈ cs.head?, isBlank c = false) ∧ ∀ c ∈ cs.getLast?, isBlank c = false

theorem trimChars_eq (cs : List Char) :
    trimChars cs = (cs.dropWhile isBlank).rdropWhile isBlank := rfl

theorem head?_dropWhile_isBlank (cs : List Char) {c : Char}
    (h : (cs.dropWhile isBlank).head? = some c) : isBlank c = false := by
  have hnot := List.head?_dropWhile_not isBlank cs
  rw [h] at hnot
  exact hnot

theorem trimChars_eq_nil_iff {cs : List Char} : trimChars cs = [] ↔ ∀ c ∈ cs, isBlank c := by
  rw [trimChars_eq, List.rdropWhile_eq_nil_iff]
  constructor
  · intro h
    rw [← List.dropWhile_eq_nil_iff]
    cases hdrop : cs.dropWhile isBlank with
    | nil => rfl
    | cons c rest =>
      have hc : isBlank c = false := head?_dropWhile_isBlank cs (by rw [hdrop]; rfl)
      rw [h c (by rw [hdrop]; exact List.mem_cons_self)] at hc
      cases hc
  · intro h
    rw [List.dropWhile_eq_nil_iff.mpr h]
    simp

theorem mem_of_mem_trimChars {cs : List Char} {c : Char} (h : c ∈ trimChars cs) : c ∈ cs :=
  (List.dropWhile_suffix isBlank).subset ((List.rdropWhile_prefix isBlank _).subset h)

theorem mem_dropWhile {α : Type} {p : α → Bool} {xs : List α} {x : α} (h : x ∈ xs)
    (hx : p x = false) : x ∈ xs.dropWhile p := by
  rw [← List.takeWhile_append_dropWhile (p := p) (l := xs), List.mem_append] at h
  refine h.resolve_left fun htake => ?_
  rw [List.mem_takeWhile_imp htake] at hx
  cases hx

/-- What is no blank is not stripped. -/
theorem mem_trimChars {cs : List Char} {c : Char} (h : c ∈ cs) (hc : isBlank c = false) :
    c ∈ trimChars cs := by
  rw [trimChars_eq, List.rdropWhile, List.mem_reverse]
  exact mem_dropWhile (List.mem_reverse.mpr (mem_dropWhile h hc)) hc

theorem stripped_trimChars (cs : List Char) : Stripped (trimChars cs) := by
  rw [trimChars_eq]
  generalize hdrop : cs.dropWhile isBlank = rest
  constructor
  · intro c hc
    obtain ⟨back, hback⟩ := List.rdropWhile_prefix isBlank rest
    apply head?_dropWhile_isBlank cs
    rw [hdrop, ← hback, List.head?_append, Option.mem_def.mp hc]
    rfl
  · intro c hc
    have hne : rest.rdropWhile isBlank ≠ [] := by
      rintro hnil
      simp [hnil] at hc
    have hlast := List.rdropWhile_last_not isBlank rest hne
    rw [List.getLast?_eq_some_getLast hne, Option.mem_some_iff] at hc
    rw [hc] at hlast
    simpa using hlast

theorem stripped_of_forall {cs : List Char} (h : ∀ c ∈ cs, isBlank c = false) : Stripped cs :=
  ⟨fun c hc => h c (List.mem_of_mem_head? hc), fun c hc => h c (List.mem_of_getLast? hc)⟩

theorem stripped_singleton {c : Char} (h : isBlank c = false) : Stripped [c] :=
  ⟨fun _ hc => Option.some.inj hc ▸ h, fun _ hc => Option.some.inj hc ▸ h⟩

theorem stripped_between {before after : List Char} (mid : List Char) (hbefore : before ≠ [])
    (hafter : after ≠ []) (h : Stripped before) (h' : Stripped after) :
    Stripped (before ++ mid ++ after) := by
  constructor
  · rw [List.append_assoc, List.head?_append_of_ne_nil _ hbefore]
    exact h.1
  · rw [List.getLast?_append_of_ne_nil _ hafter]
    exact h'.2

theorem trimChars_of_stripped {cs : List Char} (h : Stripped cs) : trimChars cs = cs := by
  have hdrop : cs.dropWhile isBlank = cs := by
    cases cs with
    | nil => rfl
    | cons c cs => rw [List.dropWhile_cons_of_neg (by simp [h.1 c rfl])]
  rw [trimChars_eq, hdrop, List.rdropWhile_eq_self_iff]
  intro hne
  simp [h.2 _ (List.getLast?_eq_some_getLast hne)]

theorem trimChars_append_left {before : List Char} (h : ∀ c ∈ before, isBlank c) (cs : List Char) :
    trimChars (before ++ cs) = trimChars cs := by
  rw [trimChars_eq, trimChars_eq, List.dropWhile_append_of_pos h]

theorem trimChars_append_right (cs : List Char) {after : List Char} (h : ∀ c ∈ after, isBlank c) :
    trimChars (cs ++ after) = trimChars cs := by
  rw [trimChars_eq, trimChars_eq, List.dropWhile_append, List.dropWhile_eq_nil_iff.mpr h]
  split
  · next hnil => rw [List.isEmpty_iff.mp hnil]
  · rw [List.rdropWhile, List.reverse_append,
      List.dropWhile_append_of_pos fun c hc => h c (List.mem_reverse.mp hc), ← List.rdropWhile]

theorem toList_trim (s : String) : (trim s).toList = trimChars s.toList := String.toList_ofList

theorem trim_of_stripped {s : String} (h : Stripped s.toList) : trim s = s := by
  rw [trim, trimChars_of_stripped h, String.ofList_toList]

theorem trim_surrounded {before after : String} (s : String) (hbefore : ∀ c ∈ before.toList, isBlank c)
    (hafter : ∀ c ∈ after.toList, isBlank c) : trim (before ++ s ++ after) = trim s := by
  rw [← String.toList_inj, toList_trim, toList_trim, String.toList_append, String.toList_append,
    trimChars_append_right _ hafter, trimChars_append_left hbefore]

/-- Blanks around a stripped text do not count. -/
theorem trimChars_surrounded {before cs after : List Char} (hbefore : ∀ c ∈ before, isBlank c)
    (h : Stripped cs) (hafter : ∀ c ∈ after, isBlank c) :
    trimChars (before ++ cs ++ after) = cs := by
  rw [trimChars_append_right _ hafter, trimChars_append_left hbefore, trimChars_of_stripped h]

end PagedQuery.Text
