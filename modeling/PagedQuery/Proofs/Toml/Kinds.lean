import Mathlib.Tactic
import PagedQuery.Fault
import PagedQuery.Proofs.Related
import PagedQuery.Toml.Reader

/-!
# The kinds of values in TOML documents

A document holds texts, truth values, numbers, days and times, and lists and tables of such values
whose keys are texts. Tables grow as a document is read, and each of its statements keeps this.
-/

namespace PagedQuery.Toml

open PagedQuery.Time

/-- The values that documents hold. -/
inductive IsValue : Value → Prop
  | text (s : String) : IsValue (.text s)
  | bool (b : Bool) : IsValue (.bool b)
  | int (n : Int) : IsValue (.int n)
  | float (x : Float) : IsValue (.float x)
  | date (d : Date) : IsValue (.date d)
  | dateTime (t : DateTime) : IsValue (.dateTime t)
  | time (t : TimeOfDay) : IsValue (.time t)
  | list {vs : List Value} : (∀ v ∈ vs, IsValue v) → IsValue (.list vs)
  | dict {es : Entries} : (∀ e ∈ es, ∃ s, e.1 = .text s) → (∀ e ∈ es, IsValue e.2) →
      IsValue (.dict es)

/-- Entries of a table: keys are texts. -/
structure AreEntries (es : Entries) : Prop where
  keys : ∀ e ∈ es, ∃ s, e.1 = .text s
  values : ∀ e ∈ es, IsValue e.2

theorem isValue_dict_iff {es : Entries} : IsValue (.dict es) ↔ AreEntries es :=
  ⟨fun h => by cases h with | dict hkeys hvalues => exact ⟨hkeys, hvalues⟩,
    fun h => .dict h.keys h.values⟩

theorem isValue_list_iff {vs : List Value} : IsValue (.list vs) ↔ ∀ v ∈ vs, IsValue v :=
  ⟨fun h => by cases h with | list h => exact h, .list⟩

/-! ## Tables -/

namespace AreEntries

variable {es : Entries} {v : Value}

theorem nil : AreEntries [] := ⟨by simp, by simp⟩

theorem append_entry (h : AreEntries es) (key : String) (hv : IsValue v) :
    AreEntries (es ++ [(.text key, v)]) where
  keys := by
    simp only [List.forall_mem_append, List.forall_mem_singleton]
    exact ⟨h.keys, key, rfl⟩
  values := by
    simp only [List.forall_mem_append, List.forall_mem_singleton]
    exact ⟨h.values, hv⟩

theorem putValue (h : AreEntries es) (key : String) (hv : IsValue v) :
    AreEntries (putValue (.text key) v es) := by
  induction es with
  | nil => exact nil.append_entry key hv
  | cons e es ih =>
    obtain ⟨hk, hkeys⟩ := List.forall_mem_cons.mp h.keys
    obtain ⟨he, hvalues⟩ := List.forall_mem_cons.mp h.values
    have hrest := ih ⟨hkeys, hvalues⟩
    rw [PagedQuery.putValue]
    split
    · exact ⟨List.forall_mem_cons.mpr ⟨hk, hkeys⟩, List.forall_mem_cons.mpr ⟨hv, hvalues⟩⟩
    · exact ⟨List.forall_mem_cons.mpr ⟨hk, hrest.keys⟩,
        List.forall_mem_cons.mpr ⟨he, hrest.values⟩⟩

theorem isValue_of_valueAt? (h : AreEntries es) {k : Value} (hv : valueAt? k es = some v) :
    IsValue v := by
  induction es with
  | nil => cases hv
  | cons e es ih =>
    obtain ⟨-, hkeys⟩ := List.forall_mem_cons.mp h.keys
    obtain ⟨he, hvalues⟩ := List.forall_mem_cons.mp h.values
    rw [valueAt?] at hv
    split at hv
    · cases hv
      exact he
    · exact ih ⟨hkeys, hvalues⟩ hv

end AreEntries

/-- A change of a table that leaves it one of the document's kinds. -/
def Keeps (change : Entries → Except Problem Entries) : Prop :=
  ∀ {es es'}, AreEntries es → change es = .ok es' → AreEntries es'

theorem keeps_addEntry {duplicate : Problem} {key : String} {v : Value} (hv : IsValue v) :
    Keeps (addEntry duplicate key v) := by
  intro es es' hes h
  unfold addEntry at h
  split at h
  · cases h
  · cases h
    exact hes.append_entry key hv

theorem keeps_addTable {key : String} : Keeps (addTable key) := by
  have hempty : IsValue (.dict []) := isValue_dict_iff.mpr .nil
  intro es es' hes h
  unfold addTable at h
  split at h
  · cases h
    exact hes.append_entry key (.list (List.forall_mem_singleton.mpr hempty))
  · next vs hvs =>
    cases h
    have hvs := isValue_list_iff.mp (hes.isValue_of_valueAt? hvs)
    refine hes.putValue key (.list (List.forall_mem_append.mpr ⟨hvs, ?_⟩))
    exact List.forall_mem_singleton.mpr hempty
  · cases h

theorem keeps_updateAt {enterArrays : Bool} {change : Entries → Except Problem Entries}
    (hchange : Keeps change) (path : Path) : Keeps (updateAt enterArrays change path) := by
  induction path with
  | nil => exact hchange
  | cons key path ih =>
    intro es es' hes h
    unfold updateAt at h
    dsimp only at h
    split at h
    · obtain ⟨inner, hinner, rfl⟩ := exists_of_map_eq_ok h
      exact hes.putValue key (isValue_dict_iff.mpr (ih .nil hinner))
    · next table htable =>
      obtain ⟨inner, hinner, rfl⟩ := exists_of_map_eq_ok h
      have htable := isValue_dict_iff.mp (hes.isValue_of_valueAt? htable)
      exact hes.putValue key (isValue_dict_iff.mpr (ih htable hinner))
    · next vs hvs =>
      have hvs := isValue_list_iff.mp (hes.isValue_of_valueAt? hvs)
      split at h
      · next table hlast =>
        obtain ⟨inner, hinner, rfl⟩ := exists_of_map_eq_ok h
        have htable := isValue_dict_iff.mp (hvs _ (List.mem_of_getLast? hlast))
        refine hes.putValue key (.list (List.forall_mem_append.mpr ⟨fun v hv => ?_, ?_⟩))
        · exact hvs v (List.mem_of_mem_dropLast hv)
        · exact List.forall_mem_singleton.mpr (isValue_dict_iff.mpr (ih htable hinner))
      · cases h
    · cases h

theorem keeps_addAt {enterArrays : Bool} {duplicate : Problem} {path : Path} {v : Value}
    (hv : IsValue v) : Keeps (addAt enterArrays duplicate path v) :=
  keeps_updateAt (keeps_addEntry hv) _

/-! ## Values -/

theorem isValue_of_readDate? {cs rest : List Char} {v : Value}
    (h : readDate? cs = some (some v, rest)) : IsValue v := by
  unfold readDate? at h
  obtain ⟨⟨date, rest'⟩, -, h⟩ := Option.bind_eq_some_iff.mp h
  dsimp only at h
  split at h
  · split at h
    · cases h
      exact .date _
    · cases h
  · split at h
    · cases h
      exact .dateTime _
    · cases h

theorem isValue_of_readNumber? {cs rest : List Char} {v : Value}
    (h : readNumber? cs = some (.ok v, rest)) : IsValue v := by
  unfold readNumber? at h
  split at h
  · cases h
    exact .int _
  · obtain ⟨⟨whole, rest'⟩, -, h⟩ := Option.bind_eq_some_iff.mp h
    dsimp only at h
    split at h
    · split at h
      · cases h
        exact .int _
      · cases h
    · obtain ⟨x, -, h⟩ := Option.bind_eq_some_iff.mp h
      cases h
      exact .float _

theorem isValue_of_readWord? {cs rest : List Char} {v : Value}
    (h : readWord? words cs = some (v, rest)) : IsValue v := by
  obtain ⟨⟨word, u⟩, hmem, hword⟩ := List.exists_of_findSome?_eq_some h
  obtain ⟨_, -, hword⟩ := Option.map_eq_some_iff.mp hword
  cases hword
  have hbool : ∀ w ∈ words, ∃ b, w.2 = .bool b := by simp [words]
  obtain ⟨b, rfl⟩ := hbool _ hmem
  exact .bool b

theorem isValue_of_readScalar {cs rest : List Char} {v : Value}
    (h : readScalar cs = .ok (v, rest)) : IsValue v := by
  unfold readScalar at h
  split at h
  · next hdate =>
    cases h
    exact isValue_of_readDate? hdate
  · cases h
  · split at h
    · cases h
      exact .time _
    · split at h
      · next hnumber =>
        cases h
        exact isValue_of_readNumber? hnumber
      · cases h
      · split at h
        · cases h
          exact .float _
        · cases h

theorem eq_ok_of_before {α : Type} {rest : List Char} {r : Except Problem α} {a : α}
    (h : before rest r = .ok a) : r = .ok a := by
  cases r with
  | ok b => cases h; rfl
  | error e => cases h

/-- What the readers of values return with some fuel: whole values, and the insides of arrays and
inline tables, of the document's kinds. -/
structure ReadsValues (fuel : Nat) : Prop where
  value : ∀ {cs v rest}, readValue fuel cs = .ok (v, rest) → IsValue v
  elements : ∀ {cs vs rest}, readElements fuel cs = .ok (vs, rest) → ∀ v ∈ vs, IsValue v
  fields : ∀ {seen marks cs es rest}, AreEntries seen →
    readFields fuel seen marks cs = .ok (es, rest) → AreEntries es

namespace ReadsValues

variable {fuel : Nat} {cs rest : List Char}

theorem isValue_of_readValue (hreads : ReadsValues fuel) {v : Value}
    (h : readValue (fuel + 1) cs = .ok (v, rest)) : IsValue v := by
  unfold readValue at h
  split at h
  · obtain ⟨_, -, h⟩ := exists_of_map_eq_ok h
    cases h
    exact .text _
  · split at h
    · next hword =>
      cases h
      exact isValue_of_readWord? hword
    · split at h
      · obtain ⟨rest', -, h⟩ := exists_of_bind_eq_ok h
        split at h
        · cases h
          exact .list (by simp)
        · obtain ⟨⟨vs, rest''⟩, hvs, h⟩ := exists_of_bind_eq_ok h
          cases h
          exact .list (hreads.elements hvs)
      · obtain ⟨rest', -, h⟩ := exists_of_bind_eq_ok h
        split at h
        · cases h
          exact isValue_dict_iff.mpr .nil
        · obtain ⟨⟨es, rest''⟩, hes, h⟩ := exists_of_bind_eq_ok h
          cases h
          exact isValue_dict_iff.mpr (hreads.fields .nil hes)
      · exact isValue_of_readScalar h

theorem isValue_of_readElements (hreads : ReadsValues fuel) {vs : List Value}
    (h : readElements (fuel + 1) cs = .ok (vs, rest)) : ∀ v ∈ vs, IsValue v := by
  unfold readElements at h
  obtain ⟨⟨v, cs'⟩, hv, h⟩ := exists_of_bind_eq_ok h
  obtain ⟨cs'', -, h⟩ := exists_of_bind_eq_ok h
  have hv := hreads.value hv
  split at h
  · cases h
    exact List.forall_mem_singleton.mpr hv
  · obtain ⟨rest', -, h⟩ := exists_of_bind_eq_ok h
    split at h
    · cases h
      exact List.forall_mem_singleton.mpr hv
    · obtain ⟨⟨vs, rest''⟩, hvs, h⟩ := exists_of_bind_eq_ok h
      cases h
      exact List.forall_mem_cons.mpr ⟨hv, hreads.elements hvs⟩
  · cases h

theorem areEntries_of_readFields (hreads : ReadsValues fuel) {seen es : Entries}
    {marks : Marks} (hseen : AreEntries seen)
    (h : readFields (fuel + 1) seen marks cs = .ok (es, rest)) : AreEntries es := by
  unfold readFields at h
  obtain ⟨⟨path, cs'⟩, -, h⟩ := exists_of_bind_eq_ok h
  obtain ⟨⟨v, cs''⟩, hv, h⟩ := exists_of_bind_eq_ok h
  dsimp only at h
  split at h
  · cases h
  · obtain ⟨seen', hseen', h⟩ := exists_of_bind_eq_ok h
    obtain ⟨cs₃, -, h⟩ := exists_of_bind_eq_ok h
    have hseen' := keeps_addAt (hreads.value hv) hseen (eq_ok_of_before hseen')
    split at h
    · cases h
      exact hseen'
    · obtain ⟨rest', -, h⟩ := exists_of_bind_eq_ok h
      split at h
      · cases h
        exact hseen'
      · exact hreads.fields hseen' h
    · cases h

end ReadsValues

theorem readsValues (fuel : Nat) : ReadsValues fuel := by
  induction fuel with
  | zero =>
    constructor
    · intro cs v rest h
      cases h
    · intro cs vs rest h
      cases h
    · intro seen marks cs es rest _ h
      cases h
  | succ fuel ih =>
    constructor
    · exact ih.isValue_of_readValue
    · exact ih.isValue_of_readElements
    · exact ih.areEntries_of_readFields

/-! ## Documents -/

namespace Document

variable {d d' : Document} {path : Path} {v : Value}

theorem areEntries_of_openTable (hd : AreEntries d.root) (h : d.openTable path = .ok d') :
    AreEntries d'.root := by
  unfold openTable at h
  dsimp only at h
  split at h
  · cases h
  · obtain ⟨root, hroot, h⟩ := exists_of_bind_eq_ok h
    cases h
    have hkeeps : Keeps .ok := fun hes h => Except.ok.inj h ▸ hes
    exact keeps_updateAt hkeeps path hd hroot

theorem areEntries_of_openArrayTable (hd : AreEntries d.root)
    (h : d.openArrayTable path = .ok d') : AreEntries d'.root := by
  unfold openArrayTable at h
  dsimp only at h
  split at h
  · cases h
  · obtain ⟨root, hroot, h⟩ := exists_of_bind_eq_ok h
    cases h
    exact keeps_updateAt keeps_addTable _ hd hroot

theorem areEntries_of_add (hd : AreEntries d.root) (hv : IsValue v) (h : d.add path v = .ok d') :
    AreEntries d'.root := by
  unfold add at h
  obtain ⟨marks, -, h⟩ := exists_of_bind_eq_ok h
  dsimp only at h
  split at h
  · cases h
  · obtain ⟨root, hroot, h⟩ := exists_of_bind_eq_ok h
    cases h
    exact keeps_addAt hv hd hroot

end Document

theorem areEntries_of_readTable {d d' : Document} {cs rest : List Char} (hd : AreEntries d.root)
    (h : readTable d cs = .ok (d', rest)) : AreEntries d'.root := by
  obtain ⟨⟨path, cs'⟩, -, h⟩ := exists_of_bind_eq_ok h
  obtain ⟨d₁, hd₁, h⟩ := exists_of_bind_eq_ok h
  have hroot := Document.areEntries_of_openTable hd (eq_ok_of_before hd₁)
  split at h
  · cases h
    exact hroot
  · cases h

theorem areEntries_of_readArrayTable {d d' : Document} {cs rest : List Char}
    (hd : AreEntries d.root) (h : readArrayTable d cs = .ok (d', rest)) : AreEntries d'.root := by
  obtain ⟨⟨path, cs'⟩, -, h⟩ := exists_of_bind_eq_ok h
  obtain ⟨d₁, hd₁, h⟩ := exists_of_bind_eq_ok h
  have hroot := Document.areEntries_of_openArrayTable hd (eq_ok_of_before hd₁)
  split at h
  · cases h
    exact hroot
  · cases h

theorem areEntries_of_readEntry {d d' : Document} {cs rest : List Char} (hd : AreEntries d.root)
    (h : readEntry d cs = .ok (d', rest)) : AreEntries d'.root := by
  obtain ⟨⟨path, cs'⟩, -, h⟩ := exists_of_bind_eq_ok h
  obtain ⟨⟨v, cs''⟩, hv, h⟩ := exists_of_bind_eq_ok h
  obtain ⟨d₁, hd₁, h⟩ := exists_of_bind_eq_ok h
  cases h
  exact Document.areEntries_of_add hd ((readsValues _).value hv) (eq_ok_of_before hd₁)

/-- A statement keeps what a document holds of its kinds. -/
theorem areEntries_of_readStatement {d d' : Document} {cs rest : List Char}
    (hd : AreEntries d.root) (h : readStatement d cs = .ok (d', rest)) : AreEntries d'.root := by
  unfold readStatement at h
  split at h
  · exact areEntries_of_readArrayTable hd h
  · exact areEntries_of_readTable hd h
  · cases h
    exact hd
  · split at h
    · exact areEntries_of_readEntry hd h
    · cases h
  · cases h
    exact hd

theorem areEntries_of_readStatements {fuel : Nat} {d d' : Document} {cs : List Char}
    (hd : AreEntries d.root) (h : readStatements fuel d cs = .ok d') : AreEntries d'.root := by
  induction fuel generalizing d cs with
  | zero =>
    cases h
    exact hd
  | succ fuel ih =>
    unfold readStatements at h
    split at h
    · cases h
      exact hd
    · exact ih hd h
    · obtain ⟨⟨d₁, cs₁⟩, hd₁, h⟩ := exists_of_bind_eq_ok h
      obtain ⟨cs₂, -, h⟩ := exists_of_bind_eq_ok h
      have hd₁ := areEntries_of_readStatement hd hd₁
      split at h
      · cases h
        exact hd₁
      · exact ih hd₁ h
      · cases h

/-- All values of a document are of its kinds. -/
theorem isValue_of_read {s : String} {entries : List (String × Value)}
    (h : read s = .ok entries) : ∀ e ∈ entries, IsValue e.2 := by
  unfold read at h
  dsimp only at h
  split at h
  · next d hd =>
    cases h
    simp only [List.forall_mem_map]
    exact (areEntries_of_readStatements .nil hd).values
  · cases h

/-! ## Texts of values -/

theorem unshownAmong?_eq_none {vs : List Value} (h : ∀ v ∈ vs, v.unshown? = none) :
    Value.unshownAmong? vs = none := by
  induction vs with
  | nil => rw [Value.unshownAmong?]
  | cons v vs ih =>
    obtain ⟨hv, hvs⟩ := List.forall_mem_cons.mp h
    rw [Value.unshownAmong?, hv, ih hvs]
    rfl

theorem unshownEntry?_eq_none {es : Entries} (hkeys : ∀ e ∈ es, ∃ s, e.1 = .text s)
    (h : ∀ e ∈ es, e.2.unshown? = none) : Value.unshownEntry? es = none := by
  induction es with
  | nil => rw [Value.unshownEntry?]
  | cons e es ih =>
    obtain ⟨k, v⟩ := e
    obtain ⟨⟨s, rfl⟩, hothers⟩ := List.forall_mem_cons.mp hkeys
    obtain ⟨hv, hvs⟩ := List.forall_mem_cons.mp h
    rw [Value.unshownEntry?, Value.unshown?, hv, ih hothers hvs]
    · rfl
    all_goals simp

/-- No field is missing where a value of a document is shown. -/
theorem IsValue.unshown?_eq_none {v : Value} (h : IsValue v) : v.unshown? = none := by
  induction h with
  | list _ ih => rw [Value.unshown?, unshownAmong?_eq_none ih]
  | dict hkeys _ ih => rw [Value.unshown?, unshownEntry?_eq_none hkeys ih]
  | _ => rw [Value.unshown?] <;> simp

end PagedQuery.Toml
