import PagedQuery.Proofs.Coercion.Members
import PagedQuery.Proofs.Coercion.Remembering

/-!
# Members by their names

A text is looked for among the names of members, letter case and outer blanks ignored, and only then
among the values. A member goes by the first of its declared names alone: a further name of it is no
name to search for. Of names that are alike up to letter case the last one counts. So a declared
name leads to its member exactly if that member is the last one of such a name, or if there is none
and the value of the member is the first to be written like the name.
-/

namespace PagedQuery

open PagedQuery.Text

namespace Enumeration

variable {e : Enumeration} {m : String × Value} {ms : List (String × Value)} {n raw key : String}

/-! ## Declared names -/

/-- The declared names in order, further names of a member included. -/
def names (e : Enumeration) : List String := e.aliases.map (·.1)

/-- One more declared name is a further name of a member, or that of a new one. -/
theorem ofMembers_append_singleton (name : String) (base : EnumBase)
    (declared : List (String × Value)) (d : String × Value) :
    let e := ofMembers name base declared
    (∃ m ∈ e.members, ofMembers name base (declared ++ [d]) =
        { e with aliases := e.aliases ++ [(d.1, m.1)] }) ∨
      ofMembers name base (declared ++ [d]) =
        { e with
          members := e.members ++ [(d.1, memberValue base d.2)]
          aliases := e.aliases ++ [(d.1, d.1)] } := by
  intro e
  rw [ofMembers, List.foldl_append, List.foldl_cons, List.foldl_nil]
  dsimp only
  split
  · next first w hfind => exact .inl ⟨(first, w), List.mem_of_find?_eq_some hfind, rfl⟩
  · exact .inr rfl

theorem names_ofMembers (name : String) (base : EnumBase) (declared : List (String × Value)) :
    (ofMembers name base declared).names = declared.map (·.1) := by
  induction declared using List.reverseRecOn with
  | nil => rfl
  | append_singleton declared d ih =>
    obtain ⟨m, -, hstep⟩ | hstep := ofMembers_append_singleton name base declared d <;>
      simp [hstep, names, ← ih]

/-- How names stand for members: those of members are declared names, each standing for the member
itself, and every declared name stands for a member. -/
structure IsNamed (e : Enumeration) : Prop where
  sublist : (e.members.map (·.1)).Sublist e.names
  own : ∀ m ∈ e.members, (m.1, m.1) ∈ e.aliases
  first : ∀ a ∈ e.aliases, ∃ m ∈ e.members, m.1 = a.2

theorem isNamed_ofMembers (name : String) (base : EnumBase) (declared : List (String × Value)) :
    (ofMembers name base declared).IsNamed := by
  induction declared using List.reverseRecOn with
  | nil =>
    constructor
    · exact List.nil_sublist _
    · exact fun _ hm => absurd hm List.not_mem_nil
    · exact fun _ ha => absurd ha List.not_mem_nil
  | append_singleton declared d ih =>
    obtain ⟨m, hm, hstep⟩ | hstep := ofMembers_append_singleton name base declared d
    · rw [hstep]
      constructor
      · rw [names, List.map_append]
        exact ih.sublist.trans (List.sublist_append_left _ _)
      · exact fun m' hm' => List.mem_append_left _ (ih.own m' hm')
      · intro a ha
        obtain ha | ha := List.mem_append.mp ha
        · exact ih.first a ha
        · rw [List.mem_singleton.mp ha]
          exact ⟨m, hm, rfl⟩
    · rw [hstep]
      constructor
      · rw [names, List.map_append, List.map_append]
        exact ih.sublist.append (.refl _)
      · intro m' hm'
        obtain hm' | hm' := List.mem_append.mp hm'
        · exact List.mem_append_left _ (ih.own m' hm')
        · rw [List.mem_singleton.mp hm']
          exact List.mem_append_right _ (List.mem_singleton_self _)
      · intro a ha
        obtain ha | ha := List.mem_append.mp ha
        · obtain ⟨m', hm', hname⟩ := ih.first a ha
          exact ⟨m', List.mem_append_left _ hm', hname⟩
        · rw [List.mem_singleton.mp ha]
          exact ⟨_, List.mem_append_right _ (List.mem_singleton_self _), rfl⟩

/-- What a declared name stands for. -/
theorem IsNamed.exists_member? (h : e.IsNamed) (hnodup : e.names.Nodup) (hn : n ∈ e.names) :
    ∃ m ∈ e.members, e.member? n = some (e.valueOf m) ∧ (n, m.1) ∈ e.aliases := by
  obtain ⟨a, ha, rfl⟩ := List.mem_map.mp hn
  obtain ⟨m, hm, hfirst⟩ := h.first a ha
  refine ⟨m, hm, ?_, hfirst ▸ ha⟩
  have halias := find?_of_nodup hnodup ha
  have hmember := find?_of_nodup (h.sublist.nodup hnodup) hm
  rw [hfirst] at hmember
  simp only [member?, halias, hmember, Option.bind_eq_bind, Option.bind_some]
  rfl

/-- The own name of a member stands for it. -/
theorem IsNamed.member?_of_mem (h : e.IsNamed) (hnodup : e.names.Nodup) (hm : m ∈ e.members) :
    e.member? m.1 = some (e.valueOf m) := by
  have halias := find?_of_nodup hnodup (h.own m hm)
  have hmember := find?_of_nodup (h.sublist.nodup hnodup) hm
  simp only [member?, halias, hmember, Option.bind_eq_bind, Option.bind_some]
  rfl

/-! ## What a text leads to -/

/-- Whether a member has a name, up to letter case. -/
def HasName (e : Enumeration) (key : String) : Prop := ∃ m ∈ e.members, lower m.1 = key

/-- The member is the last one of a name, up to letter case. -/
def IsLastNamed (e : Enumeration) (m : String × Value) (key : String) : Prop :=
  ∃ before after, e.members = before ++ m :: after ∧ lower m.1 = key ∧
    ∀ m' ∈ after, lower m'.1 ≠ key

/-- The value of the member is the first one that is written like a text. -/
def IsFirstWritten (e : Enumeration) (m : String × Value) (raw : String) : Prop :=
  ∃ before after, e.members = before ++ m :: after ∧ m.2.written = .ok raw ∧
    ∀ m' ∈ before, ∃ text, m'.2.written = .ok text ∧ text ≠ raw

theorem findName?_eq_some_iff :
    e.findName? raw = some m ↔ e.IsLastNamed m (lower (trim raw)) := by
  rw [findName?, List.find?_eq_some_iff_append]
  constructor
  · rintro ⟨hm, after, before, hmembers, hafter⟩
    refine ⟨before.reverse, after.reverse, ?_, eq_of_beq hm, fun m' hm' => ?_⟩
    · rw [← List.reverse_reverse e.members, hmembers]
      simp
    · simpa using hafter m' (List.mem_reverse.mp hm')
  · rintro ⟨before, after, hmembers, hm, hafter⟩
    refine ⟨beq_iff_eq.mpr hm, after.reverse, before.reverse, ?_, fun m' hm' => ?_⟩
    · rw [hmembers]
      simp
    · simpa using hafter m' (List.mem_reverse.mp hm')

theorem findName?_eq_none_iff : e.findName? raw = none ↔ ¬ e.HasName (lower (trim raw)) := by
  simp [findName?, HasName]

theorem findValue?_eq_some_iff :
    findValue? raw ms = .ok (some m) ↔ ∃ before after, ms = before ++ m :: after ∧
      m.2.written = .ok raw ∧ ∀ m' ∈ before, ∃ text, m'.2.written = .ok text ∧ text ≠ raw := by
  constructor
  · intro h
    induction ms with
    | nil => cases h
    | cons first ms ih =>
      rw [findValue?] at h
      split at h
      · cases h
      · next text htext =>
        split at h
        · next heq =>
          cases h
          exact ⟨[], ms, rfl, heq ▸ htext, fun _ hm => by cases hm⟩
        · next hne =>
          obtain ⟨before, after, rfl, hm, hbefore⟩ := ih h
          exact ⟨first :: before, after, rfl, hm,
            List.forall_mem_cons.mpr ⟨⟨text, htext, hne⟩, hbefore⟩⟩
  · rintro ⟨before, after, rfl, hm, hbefore⟩
    refine (findValue?_append fun m' hm' hsame => ?_).mpr ⟨fun m' hm' => ?_, findValue?_cons hm⟩
    · obtain ⟨text, htext, hne⟩ := hbefore m' hm'
      exact hne (Except.ok.inj (htext.symm.trans hsame))
    · obtain ⟨text, htext, -⟩ := hbefore m' hm'
      exact (Value.written_eq_ok_iff.mp htext).1

/-- A text leads to the last member that it names, and to the first whose value it writes if it
names none. -/
theorem read_eq_ok_iff :
    e.read raw = .ok (e.valueOf m) ↔ e.IsLastNamed m (lower (trim raw)) ∨
      ¬ e.HasName (lower (trim raw)) ∧ e.IsFirstWritten m raw := by
  cases hname : e.findName? raw with
  | some m' =>
    have hnamed : e.HasName (lower (trim raw)) := by
      by_contra hno
      rw [findName?_eq_none_iff.mpr hno] at hname
      cases hname
    rw [read_of_findName?_eq_some hname, ← findName?_eq_some_iff, hname, Option.some.injEq]
    simp [hnamed]
  | none =>
    rw [read_of_findName?_eq_none hname, findValue?_eq_some_iff, ← findName?_eq_some_iff, hname]
    simp [findName?_eq_none_iff.mp hname, IsFirstWritten]

/-! ## Declared names as texts -/

/-- A text that is the only declared name of its kind, up to letter case, leads to the member whose
own name it is. -/
theorem IsNamed.isLastNamed_own (h : e.IsNamed) (hnodup : e.names.Nodup) (hm : m ∈ e.members)
    (honly : ∀ n ∈ e.names, lower n = lower m.1 → n = m.1) : e.IsLastNamed m (lower m.1) := by
  obtain ⟨before, after, hmembers⟩ := List.append_of_mem hm
  refine ⟨before, after, hmembers, rfl, fun m' hm' hlower => ?_⟩
  have hm'' : m' ∈ e.members := hmembers ▸ List.mem_append_right _ (List.mem_cons_of_mem _ hm')
  have hname : m'.1 = m.1 := honly _ (h.sublist.subset (List.mem_map_of_mem hm'')) hlower
  have hapart := h.sublist.nodup hnodup
  rw [hmembers, List.map_append, List.map_cons] at hapart
  have hcons := (List.nodup_append.mp hapart).2.1
  exact (List.nodup_cons.mp hcons).1 (hname ▸ List.mem_map_of_mem hm')

/-- A further name of a member that is alike to no other declared name is the name of none. -/
theorem IsNamed.not_hasName (h : e.IsNamed) (hfurther : ∀ m ∈ e.members, m.1 ≠ n)
    (honly : ∀ n' ∈ e.names, lower n' = lower n → n' = n) : ¬ e.HasName (lower n) :=
  fun ⟨m, hm, hlower⟩ =>
    hfurther m hm (honly _ (h.sublist.subset (List.mem_map_of_mem hm)) hlower)

end Enumeration

namespace ConversionCache

variable {s : Schema} {c : ConversionCache} {name n raw : String} {e : Enumeration}
  {m : String × Value}

/-- A conversion to an enumeration reads one of its members. -/
theorem convert_enumeration (hc : c.IsSound s) (he : s.enumeration? name = some e) :
    (c.convert s raw (.enumeration name)).1 = .ok (e.valueOf m) ↔
      e.read raw = .ok (e.valueOf m) := by
  have hconvert : (c.convert s raw (.enumeration name)).1 = s.convert raw (.enumeration name) :=
    congrArg Prod.fst (convertFrom_eq hc)
  have hread : s.read raw (.enumeration name) = e.read raw := by
    simp only [Schema.read, he]
  rw [hconvert, Schema.convert_of_not_union (by simp), hread]
  cases e.read raw <;> simp [Except.mapError]

/-- Signals, two of which have the name of the other for a value, and a further name for the
first. -/
def signalNames : List (String × Value) :=
  [("RED", .text "stop"), ("STOP", .text "red"), ("HALT", .text "stop")]

def signals : Schema where
  enumerations := [.ofMembers "Signal" .string signalNames]

/-- A shade with two names, and two tints of one name up to letter case. -/
def namedShades : Schema where
  enumerations :=
    [.ofMembers "Shade" .plain [("RED", .text "r"), ("CRIMSON", .text "r"), ("BLUE", .text "b")],
      .ofMembers "Tint" .plain [("Red", .text "p"), ("RED", .text "q")]]

end ConversionCache

end PagedQuery
