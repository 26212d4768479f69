/-!
# JSON values

Objects keep the order of their keys.
-/

namespace PagedQuery

inductive Json
  | null
  | bool (b : Bool)
  | int (n : Int)
  | float (x : Float)
  | text (s : String)
  | list (xs : List Json)
  | object (fields : List (String × Json))
  deriving Inhabited

/-- A list of keyed entries with one entry more: a key that is there keeps its place and gets the
new value. -/
def putEntry {α : Type} (key : String) (value : α) : List (String × α) → List (String × α)
  | [] => [(key, value)]
  | (k, v) :: rest => if k = key then (k, value) :: rest else (k, v) :: putEntry key value rest

/-- The value of a key. -/
def lookup? {α : Type} (key : String) : List (String × α) → Option α
  | [] => none
  | (k, v) :: rest => if k = key then some v else lookup? key rest

theorem lookup?_putEntry {α : Type} (key : String) (value : α) (entries : List (String × α)) :
    lookup? key (putEntry key value entries) = some value := by
  induction entries with
  | nil => simp [putEntry, lookup?]
  | cons e rest ih =>
    obtain ⟨k, v⟩ := e
    by_cases h : k = key <;> simp [putEntry, lookup?, h, ih]

theorem lookup?_putEntry_of_ne {α : Type} {key other : String} (h : other ≠ key) (value : α)
    (entries : List (String × α)) :
    lookup? other (putEntry key value entries) = lookup? other entries := by
  induction entries with
  | nil => simp [putEntry, lookup?, Ne.symm h]
  | cons e rest ih =>
    obtain ⟨k, v⟩ := e
    by_cases hk : k = key
    · subst hk
      simp [putEntry, lookup?, Ne.symm h]
    · by_cases ho : k = other
      · subst ho
        simp [putEntry, lookup?, hk]
      · simp [putEntry, lookup?, hk, ho, ih]

end PagedQuery
