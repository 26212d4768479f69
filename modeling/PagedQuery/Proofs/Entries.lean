import Mathlib.Data.List.Induction
import Mathlib.Data.List.Nodup
import PagedQuery.Json.Basic

/-!
# Keyed entries

Entries are found by their keys, the first of a key before the others. An entry that is put among
others takes the place of the one with its key, or the last place. So of entries that are put one
after the other the last of each key counts, in the place where the key first came.
-/

namespace PagedQuery

variable {α : Type} {key other : String} {value : α} {entries : List (String × α)}

/-! ## Finding entries -/

theorem mem_of_lookup? (h : lookup? key entries = some value) : (key, value) ∈ entries := by
  induction entries with
  | nil => cases h
  | cons e rest ih =>
    obtain ⟨k, w⟩ := e
    unfold lookup? at h
    split at h
    · next hk =>
      rw [← hk, ← Option.some.inj h]
      exact List.mem_cons_self
    · exact List.mem_cons_of_mem _ (ih h)

theorem lookup?_eq_none_iff : lookup? key entries = none ↔ key ∉ entries.map (·.1) := by
  induction entries with
  | nil => simp [lookup?]
  | cons e rest ih =>
    rw [lookup?, List.map_cons, List.mem_cons, not_or, ← ih]
    split
    · next h => simp [h]
    · next h => simp [Ne.symm h]

theorem isSome_lookup?_iff : (lookup? key entries).isSome ↔ key ∈ entries.map (·.1) := by
  rw [← not_iff_not, Option.not_isSome_iff_eq_none, lookup?_eq_none_iff]

theorem lookup?_append (key : String) (entries later : List (String × α)) :
    lookup? key (entries ++ later) = (lookup? key entries).or (lookup? key later) := by
  induction entries with
  | nil => rfl
  | cons e entries ih =>
    by_cases h : e.1 = key <;> simp [lookup?, h, ih]

theorem lookup?_append_of_not_mem (h : key ∉ entries.map (·.1)) (later : List (String × α)) :
    lookup? key (entries ++ later) = lookup? key later := by
  rw [lookup?_append, lookup?_eq_none_iff.mpr h, Option.none_or]

theorem lookup?_append_of_mem (hnodup : (entries.map (·.1)).Nodup) (h : (key, value) ∈ entries)
    (later : List (String × α)) : lookup? key (entries ++ later) = some value := by
  induction entries with
  | nil => cases h
  | cons e rest ih =>
    rw [List.map_cons, List.nodup_cons] at hnodup
    rcases List.mem_cons.mp h with rfl | h
    · exact if_pos rfl
    · have hne : e.1 ≠ key := fun heq => hnodup.1 (List.mem_map.mpr ⟨_, h, heq.symm⟩)
      exact (if_neg hne).trans (ih hnodup.2 h)

/-- Among different names the one with a name is found. -/
theorem find?_of_nodup {β : Type} {name : β → String} {xs : List β} (hnodup : (xs.map name).Nodup)
    {x : β} (h : x ∈ xs) : xs.find? (fun y => name y == name x) = some x := by
  induction xs with
  | nil => cases h
  | cons first rest ih =>
    rw [List.map_cons, List.nodup_cons] at hnodup
    obtain rfl | h := List.mem_cons.mp h
    · simp
    · have hne : name first ≠ name x := fun heq => hnodup.1 (heq ▸ List.mem_map_of_mem h)
      simp [hne, ih hnodup.2 h]

theorem lookup?_map {β : Type} (f : String → α → β) (key : String)
    (entries : List (String × α)) :
    lookup? key (entries.map fun e => (e.1, f e.1 e.2)) = (lookup? key entries).map (f key) := by
  induction entries with
  | nil => rfl
  | cons e rest ih =>
    by_cases h : e.1 = key <;> simp [lookup?, h, ih]

/-- Where no two entries have one key, their order does not matter. -/
theorem lookup?_reverse (h : (entries.map (·.1)).Nodup) :
    lookup? key entries.reverse = lookup? key entries := by
  induction entries with
  | nil => rfl
  | cons e rest ih =>
    rw [List.map_cons, List.nodup_cons] at h
    rw [List.reverse_cons, lookup?_append, ih h.2, lookup?, lookup?, lookup?]
    split
    · next hk => rw [lookup?_eq_none_iff.mpr (hk ▸ h.1), Option.none_or]
    · rw [Option.or_none]

/-! ## Putting an entry -/

theorem putEntry_ne_nil : putEntry key value entries ≠ [] := by
  cases entries with
  | nil => exact List.cons_ne_nil _ _
  | cons first rest =>
    rw [putEntry]
    split <;> exact List.cons_ne_nil _ _

theorem mem_putEntry {e : String × α} (h : e ∈ putEntry key value entries) :
    e = (key, value) ∨ e ∈ entries := by
  induction entries with
  | nil => exact .inl (List.mem_singleton.mp h)
  | cons first rest ih =>
    obtain ⟨k, v⟩ := first
    rw [putEntry] at h
    split at h
    · next hk =>
      subst hk
      exact (List.mem_cons.mp h).imp_right (List.mem_cons_of_mem _)
    · rcases List.mem_cons.mp h with rfl | h
      · exact .inr List.mem_cons_self
      · exact (ih h).imp_right (List.mem_cons_of_mem _)

/-- Putting an entry that is there changes nothing. -/
theorem putEntry_of_lookup? (h : lookup? key entries = some value) :
    putEntry key value entries = entries := by
  induction entries with
  | nil => cases h
  | cons first rest ih =>
    obtain ⟨k, v⟩ := first
    rw [lookup?] at h
    rw [putEntry]
    split at h
    · next hk => rw [if_pos hk, Option.some.inj h]
    · next hk => rw [if_neg hk, ih h]

theorem putEntry_append_of_not_mem (h : key ∉ entries.map (·.1)) (value : α)
    (later : List (String × α)) :
    putEntry key value (entries ++ later) = entries ++ putEntry key value later := by
  induction entries with
  | nil => rfl
  | cons e rest ih =>
    obtain ⟨k, v⟩ := e
    rw [List.map_cons, List.mem_cons, not_or] at h
    rw [List.cons_append, putEntry, if_neg (Ne.symm h.1), ih h.2, List.cons_append]

theorem keys_putEntry (key : String) (value : α) (entries : List (String × α)) :
    (putEntry key value entries).map (·.1) =
      entries.map (·.1) ++ if key ∈ entries.map (·.1) then [] else [key] := by
  induction entries with
  | nil => rfl
  | cons e rest ih =>
    rw [putEntry]
    split
    · next h => simp [h]
    · next h => simp only [List.map_cons, ih, List.mem_cons, Ne.symm h, false_or, List.cons_append]

theorem mem_keys_putEntry :
    other ∈ (putEntry key value entries).map (·.1) ↔ other = key ∨ other ∈ entries.map (·.1) := by
  rw [keys_putEntry]
  split
  · next hk =>
    rw [List.append_nil]
    exact ⟨.inr, fun h => h.elim (· ▸ hk) id⟩
  · rw [List.mem_append, List.mem_singleton, or_comm]

theorem nodup_putEntry (h : (entries.map (·.1)).Nodup) :
    ((putEntry key value entries).map (·.1)).Nodup := by
  rw [keys_putEntry]
  split
  · simpa using h
  · next hk => exact h.append (List.nodup_singleton key) (List.disjoint_singleton.mpr hk)

/-! ## Putting entries one after the other -/

theorem eraseDups_append_singleton (keys : List String) (key : String) :
    (keys ++ [key]).eraseDups = keys.eraseDups ++ if key ∈ keys then [] else [key] := by
  rw [List.eraseDups_append]
  by_cases h : key ∈ keys <;> simp [h, List.removeAll, List.eraseDups_cons]

theorem eraseDups_of_nodup {keys : List String} (h : keys.Nodup) : keys.eraseDups = keys := by
  induction keys with
  | nil => rfl
  | cons k keys ih =>
    obtain ⟨hk, hkeys⟩ := List.nodup_cons.mp h
    have hothers : ∀ other ∈ keys, !other == k := fun other hother => by
      simpa using fun heq : other = k => hk (heq ▸ hother)
    rw [List.eraseDups_cons, List.filter_eq_self.mpr hothers, ih hkeys]

/-- Entries with further ones put among them. -/
def putEntries (later entries : List (String × α)) : List (String × α) :=
  later.foldl (fun entries e => putEntry e.1 e.2 entries) entries

theorem putEntries_append_singleton (later : List (String × α)) (e : String × α)
    (entries : List (String × α)) :
    putEntries (later ++ [e]) entries = putEntry e.1 e.2 (putEntries later entries) := by
  rw [putEntries, List.foldl_append]
  rfl

/-- Keys that are there keep their places, and new ones follow in the order in which they come. -/
theorem keys_putEntries (later entries : List (String × α)) :
    (putEntries later entries).map (·.1) =
      entries.map (·.1) ++ (later.map (·.1)).eraseDups.filter (· ∉ entries.map (·.1)) := by
  induction later using List.reverseRecOn with
  | nil => simp [putEntries]
  | append_singleton later e ih =>
    rw [putEntries_append_singleton, keys_putEntry, ih, List.map_append, List.map_singleton,
      eraseDups_append_singleton, List.filter_append, ← List.append_assoc]
    congr 1
    generalize later.map (·.1) = new, entries.map (·.1) = there
    by_cases hnew : e.1 ∈ new <;> by_cases hthere : e.1 ∈ there <;> simp [hnew, hthere]

/-- Entries of new keys follow those that are there. -/
theorem putEntries_of_nodup {later entries : List (String × α)}
    (h : (entries.map (·.1) ++ later.map (·.1)).Nodup) :
    putEntries later entries = entries ++ later := by
  induction later generalizing entries with
  | nil => simp [putEntries]
  | cons e later ih =>
    obtain ⟨-, -, hapart⟩ := List.nodup_append.mp h
    have hnew : e.1 ∉ entries.map (·.1) := fun hmem => hapart _ hmem _ (by simp) rfl
    have hput : putEntry e.1 e.2 entries = entries ++ [e] := by
      simpa [putEntry] using putEntry_append_of_not_mem hnew e.2 []
    have hrest : putEntries later (entries ++ [e]) = entries ++ [e] ++ later :=
      ih (by simpa using h)
    rw [putEntries, List.foldl_cons, hput, ← putEntries, hrest, List.append_assoc,
      List.singleton_append]

theorem nodup_putEntries (later : List (String × α)) (h : (entries.map (·.1)).Nodup) :
    ((putEntries later entries).map (·.1)).Nodup := by
  induction later using List.reverseRecOn with
  | nil => exact h
  | append_singleton later e ih => exact putEntries_append_singleton later e _ ▸ nodup_putEntry ih

/-- The last entry of a key counts. -/
theorem lookup?_putEntries (key : String) (later entries : List (String × α)) :
    lookup? key (putEntries later entries) =
      (lookup? key later.reverse).or (lookup? key entries) := by
  induction later using List.reverseRecOn with
  | nil => rfl
  | append_singleton later e ih =>
    rw [putEntries_append_singleton, List.reverse_append, List.reverse_singleton,
      List.singleton_append]
    by_cases h : e.1 = key
    · subst h
      simp [lookup?, lookup?_putEntry]
    · rw [lookup?_putEntry_of_ne (Ne.symm h), ih]
      simp [lookup?, h]

end PagedQuery
