import PagedQuery.Proofs.Entries
import PagedQuery.Query.Saved

/-!
# Registering queries

What is kept of queries that are registered one after the other: for each name, the query and the
description of its last registration, and the file of the last one that gives a file.
-/

namespace PagedQuery

/-- A query that is put under a name, from a file if one is given. -/
structure Registration where
  name : String
  query : SavedQuery
  origin : Option String := none

/-- The registrations of a name, the last one first. -/
def registrationsOf (name : String) (registrations : List Registration) : List Registration :=
  (registrations.filter (·.name = name)).reverse

/-- What registrations give of some kind, each under its name. -/
def given {α : Type} (give : Registration → Option α) (registrations : List Registration) :
    List (String × α) :=
  registrations.filterMap fun r => (give r).map (r.name, ·)

theorem registrationsOf_append (name : String) (registrations later : List Registration) :
    registrationsOf name (registrations ++ later) =
      registrationsOf name later ++ registrationsOf name registrations := by
  rw [registrationsOf, List.filter_append, List.reverse_append]
  rfl

section Given

variable {α : Type} {registrations : List Registration}

theorem given_append (give : Registration → Option α) (registrations later : List Registration) :
    given give (registrations ++ later) = given give registrations ++ given give later :=
  List.filterMap_append

theorem keys_given_some (give : Registration → α) :
    (given (some ∘ give) registrations).map (·.1) = registrations.map (·.name) := by
  simp [given, List.filterMap_eq_map']

/-- Under a name, the last that is given counts. -/
theorem lookup?_given (name : String) (give : Registration → Option α)
    (registrations : List Registration) :
    lookup? name (given give registrations).reverse =
      (registrationsOf name registrations).findSome? give := by
  induction registrations using List.reverseRecOn with
  | nil => rfl
  | append_singleton registrations r ih =>
    rw [given_append, List.reverse_append, lookup?_append, ih, registrationsOf_append,
      List.findSome?_append]
    congr 1
    by_cases hname : r.name = name <;> cases hgive : give r <;>
      simp [given, registrationsOf, hname, hgive, lookup?]

end Given

/-- The registrations of queries that come from one place. -/
def registrationsFrom (origin : Option String) (queries : List (String × SavedQuery)) :
    List Registration :=
  queries.map fun (name, query) => ⟨name, query, origin⟩

/-- A name that comes once is registered once. -/
theorem head?_registrationsOf_from {queries : List (String × SavedQuery)}
    (h : (queries.map (·.1)).Nodup) (name : String) (origin : Option String) :
    (registrationsOf name (registrationsFrom origin queries)).head? =
      (lookup? name queries).map (⟨name, ·, origin⟩) := by
  have hgiven : given some (registrationsFrom origin queries) =
      queries.map fun e => (e.1, (⟨e.1, e.2, origin⟩ : Registration)) := by
    simp [given, registrationsFrom, Function.comp_def]
  have hmap :=
    lookup?_map (fun name query => Registration.mk name query origin) name queries.reverse
  rw [lookup?_reverse h, List.map_reverse, ← hgiven, lookup?_given] at hmap
  rw [← hmap]
  cases registrationsOf name (registrationsFrom origin queries) <;> rfl

namespace SavedQueries

variable (saved : SavedQueries) (registrations later : List Registration) (name : String)

/-- The saved queries after registrations. -/
def registerAll : SavedQueries :=
  registrations.foldl (fun saved r => saved.register r.name r.query r.origin) saved

theorem registerAll_append : saved.registerAll (registrations ++ later) =
    (saved.registerAll registrations).registerAll later := List.foldl_append

theorem queries_registerAll : (saved.registerAll registrations).queries =
    putEntries (given (some ∘ (·.query.query)) registrations) saved.queries := by
  induction registrations generalizing saved with
  | nil => rfl
  | cons r registrations ih => exact ih _

theorem descriptions_registerAll : (saved.registerAll registrations).descriptions =
    putEntries (given (some ∘ (·.query.description)) registrations) saved.descriptions := by
  induction registrations generalizing saved with
  | nil => rfl
  | cons r registrations ih => exact ih _

theorem origins_registerAll : (saved.registerAll registrations).origins =
    putEntries (given (·.origin) registrations) saved.origins := by
  induction registrations generalizing saved with
  | nil => rfl
  | cons r registrations ih =>
    obtain ⟨name, query, _ | path⟩ := r
    · exact ih _
    · exact ih _

/-- New names follow in the order in which they come. -/
theorem names_registerAll : (saved.registerAll registrations).names =
    saved.names ++ (registrations.map (·.name)).eraseDups.filter (· ∉ saved.names) := by
  rw [names, queries_registerAll, keys_putEntries, keys_given_some]
  rfl

theorem get_registerAll : (saved.registerAll registrations).get name =
    match (registrationsOf name registrations).head? with
    | some r => .ok r.query.query
    | none => saved.get name := by
  rw [get, queries_registerAll, lookup?_putEntries, lookup?_given]
  cases registrationsOf name registrations <;> rfl

theorem describe_registerAll : (saved.registerAll registrations).describe name =
    match (registrationsOf name registrations).head? with
    | some r => .ok r.query.description
    | none => saved.describe name := by
  rw [describe, get_registerAll, descriptions_registerAll, lookup?_putEntries, lookup?_given]
  cases registrationsOf name registrations <;> rfl

theorem origin?_registerAll : (saved.registerAll registrations).origin? name =
    ((registrationsOf name registrations).findSome? (·.origin)).or (saved.origin? name) := by
  rw [origin?, origins_registerAll, lookup?_putEntries, lookup?_given]
  rfl

theorem contains_iff : saved.contains name ↔ name ∈ saved.names := isSome_lookup?_iff

theorem isOk_get : (saved.get name).isOk = saved.contains name := by
  unfold get contains
  cases lookup? name saved.queries <;> rfl

theorem isOk_describe : (saved.describe name).isOk = saved.contains name := by
  rw [← isOk_get, describe]
  cases saved.get name <;> rfl

/-! ## Names in step -/

/-- The three lists speak of the same names, but that not every name has come from a file. -/
structure IsAligned : Prop where
  nodup : saved.names.Nodup
  descriptions : saved.descriptions.map (·.1) = saved.names
  origins : saved.origins.map (·.1) ⊆ saved.names

theorem isAligned_empty : IsAligned {} := ⟨List.nodup_nil, rfl, List.nil_subset _⟩

variable {saved}

theorem IsAligned.register (h : saved.IsAligned) (r : Registration) :
    (saved.register r.name r.query r.origin).IsAligned where
  nodup := nodup_putEntry h.nodup
  descriptions := by
    have hnames : (saved.register r.name r.query r.origin).names =
        saved.names ++ if r.name ∈ saved.names then [] else [r.name] := keys_putEntry ..
    exact (keys_putEntry ..).trans (h.descriptions ▸ hnames.symm)
  origins name hname := by
    refine mem_keys_putEntry.mpr ?_
    obtain ⟨registered, query, _ | path⟩ := r
    · exact .inr (h.origins hname)
    · exact (mem_keys_putEntry.mp hname).imp_right (h.origins ·)

theorem IsAligned.registerAll (h : saved.IsAligned) (registrations : List Registration) :
    (saved.registerAll registrations).IsAligned := by
  induction registrations generalizing saved with
  | nil => exact h
  | cons r registrations ih => exact ih (h.register r)

end SavedQueries

end PagedQuery
