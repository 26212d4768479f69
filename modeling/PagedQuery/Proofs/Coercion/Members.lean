import PagedQuery.Coercion.Basic
import PagedQuery.Proofs.Binding.Deferred
import PagedQuery.Proofs.Number.Printed
import PagedQuery.Proofs.Ordering.Kind
import PagedQuery.Proofs.Saved.Loading
import PagedQuery.Proofs.Text.Lower

/-!
# Members of enumerations as they are printed

A member is read by its name or by the text of its value. Members that are integers or texts print
as their values, and all others as their names behind that of the enumeration, which is neither.
-/

namespace PagedQuery

open PagedQuery.Number PagedQuery.Text PagedQuery.Time

/-- Whether a text can be the name of a member: it is not empty, begins neither with a digit nor
with a mark, and holds no point. -/
def IsMemberName (name : String) : Prop :=
  ∃ first rest, name.toList = first :: rest ∧ ¬ IsNumeric first ∧ '.' ∉ name.toList

namespace EnumBase

variable {v : Value}

theorem exists_int_of_fits (h : integer.fits v) : ∃ n, v = .int n := by
  cases v with
  | int n => exact ⟨n, rfl⟩
  | _ => cases h

theorem exists_text_of_fits (h : string.fits v) : ∃ t, v = .text t := by
  cases v with
  | text t => exact ⟨t, rfl⟩
  | _ => cases h

end EnumBase

namespace Enumeration

variable {e : Enumeration} {m : String × Value} {ms : List (String × Value)} {raw : String}

/-! ## Declared enumerations -/

/-- What an enumeration is like: its members are the declared ones, up to values that are there,
with names and values that its members can have. -/
structure IsDeclared (e : Enumeration) : Prop where
  declared : ∃ declared, e = ofMembers e.name e.base declared
  named : ∀ m ∈ e.members, IsMemberName m.1
  fitting : e.isFitting

theorem pairwise_ofMembers (name : String) (base : EnumBase) (declared : List (String × Value)) :
    (ofMembers name base declared).members.Pairwise fun m m' => sameValue m'.2 m.2 = false := by
  unfold ofMembers
  refine List.foldlRecOn (motive := fun e : Enumeration =>
    e.members.Pairwise fun m m' => sameValue m'.2 m.2 = false) declared _ ?_ fun e he d _ => ?_
  · exact List.Pairwise.nil
  · dsimp only
    split
    · exact he
    · next hnone =>
      rw [List.find?_eq_none] at hnone
      refine List.pairwise_append.mpr ⟨he, List.pairwise_singleton _ _, fun m hm m' hm' => ?_⟩
      rw [List.mem_singleton.mp hm']
      simpa using hnone m hm

/-- A value of a kind is the same as itself. -/
theorem sameValue_self {k : Kind} {v : Value} {p : k.Position} (hk : k ≠ .moment)
    (h : k.position? v = some p) : sameValue v v = true := by
  have hcompare := Kind.compare_align_eq h h .equal
  rw [Kind.align_eq_of_ne_moment hk h, compare_eq_iff_eq.mpr rfl] at hcompare
  rw [sameValue, hcompare]
  rfl

theorem sameValue_int (n : ℤ) : sameValue (.int n) (.int n) = true :=
  sameValue_self (k := .number) (by decide) (Decimal.position?_ofInt n)

theorem sameValue_text (s : String) : sameValue (.text s) (.text s) = true :=
  sameValue_self (k := .text) (by decide) rfl

/-- The values before a member are others than its own. -/
theorem IsDeclared.sameValue_eq_false (h : e.IsDeclared) {before after : List (String × Value)}
    (hmembers : e.members = before ++ m :: after) : ∀ m' ∈ before, sameValue m.2 m'.2 = false := by
  obtain ⟨declared, he⟩ := h.declared
  have hpairwise := pairwise_ofMembers e.name e.base declared
  rw [← he, hmembers] at hpairwise
  exact fun m' hm' => (List.pairwise_append.mp hpairwise).2.2 m' hm' m List.mem_cons_self

theorem IsDeclared.fits (h : e.IsDeclared) (hm : m ∈ e.members) : e.base.fits m.2 :=
  List.all_eq_true.mp h.fitting m hm

/-! ## Searching names and values -/

theorem findName?_eq_none (h : ∀ m ∈ e.members, lower m.1 ≠ lower (trim raw)) :
    e.findName? raw = none := by
  rw [findName?, List.find?_eq_none]
  intro m hm
  simpa using h m (List.mem_reverse.mp hm)

/-- No member has a name with a point. -/
theorem findName?_of_dot (h : ∀ m ∈ e.members, IsMemberName m.1) (hdot : '.' ∈ raw.toList) :
    e.findName? raw = none := by
  have hpoint : IsNumeric '.' := by decide
  refine findName?_eq_none fun m hm hname => ?_
  obtain ⟨first, rest, -, -, hname'⟩ := h m hm
  refine hname' ((mem_lower_iff hpoint).mp ?_)
  rw [hname, mem_lower_iff hpoint, toList_trim]
  exact mem_trimChars hdot rfl

/-- No member has a name that begins with a digit or a mark. -/
theorem findName?_of_isNumeric (h : ∀ m ∈ e.members, IsMemberName m.1)
    (hraw : ∀ c ∈ raw.toList, IsNumeric c) : e.findName? raw = none := by
  refine findName?_eq_none fun m hm hname => ?_
  obtain ⟨first, rest, hfirst, hmark, -⟩ := h m hm
  rw [trim_of_stripped (stripped_of_isNumeric hraw), lower_of_isNumeric hraw] at hname
  exact hmark (isNumeric_of_mem_head? (hname ▸ hraw) first (by rw [hfirst]; rfl))

/-- A search passes over values with other texts, if all of them have one. -/
theorem findValue?_append {before : List (String × Value)}
    (h : ∀ m ∈ before, m.2.written ≠ .ok raw) {found : Option (String × Value)} :
    findValue? raw (before ++ ms) = .ok found ↔
      (∀ m ∈ before, m.2.unwritable? = none) ∧ findValue? raw ms = .ok found := by
  induction before with
  | nil => simp
  | cons m before ih =>
    obtain ⟨hm, hbefore⟩ := List.forall_mem_cons.mp h
    rw [List.cons_append, findValue?, List.forall_mem_cons, and_assoc, ← ih hbefore]
    unfold Value.written at hm ⊢
    cases hunwritable : m.2.unwritable? with
    | some e => simp
    | none =>
      rw [hunwritable] at hm
      have hne : m.2.toText ≠ raw := fun htext => hm (congrArg Except.ok htext)
      simp [hne]

theorem findValue?_cons (h : m.2.written = .ok raw) : findValue? raw (m :: ms) = .ok (some m) := by
  rw [findValue?, h]
  exact if_pos rfl

/-! ## Printed members -/

/-- The value that a member stands for. -/
def valueOf (e : Enumeration) (m : String × Value) : Value := .member e.name e.base m.1 m.2

theorem valueOf_inj {m' : String × Value} : e.valueOf m = e.valueOf m' ↔ m = m' := by
  simp [valueOf, Prod.ext_iff]

/-- Whether a member is read back from its text: an integer if those before it can be written, a
text if no other member has it for a name, and any other member if it is the first with a value that
prints as it does. -/
def ComesBack (e : Enumeration) (m : String × Value) : Prop :=
  match e.base with
  | .integer => ∀ before after, e.members = before ++ m :: after →
      ∀ m' ∈ before, m'.2.unwritable? = none
  | .string => ∀ m' ∈ e.findName? m.2.toText, m' = m
  | _ => findValue? (e.name ++ "." ++ m.1) e.members = .ok (some m)

theorem comesBack_integer (h : e.base = .integer) : e.ComesBack m ↔
    ∀ before after, e.members = before ++ m :: after → ∀ m' ∈ before, m'.2.unwritable? = none := by
  unfold ComesBack
  rw [h]

theorem comesBack_string (h : e.base = .string) :
    e.ComesBack m ↔ ∀ m' ∈ e.findName? m.2.toText, m' = m := by
  unfold ComesBack
  rw [h]

/-- An integer that prints as another one is the same. -/
theorem eq_of_written_int {n k : ℤ} (hk : isLong k = false)
    (h : (Value.int n).written = .ok (toString k)) : n = k := by
  obtain ⟨hn, htext⟩ := Value.written_eq_ok_iff.mp h
  have hread := readPlain_toString (Value.unwritable?_int_eq_none_iff.mp hn)
  rw [show toString n = toString k from htext, readPlain_toString hk] at hread
  exact (Except.ok.inj hread).symm

theorem read_of_findName?_eq_some {m' : String × Value} (h : e.findName? raw = some m') :
    e.read raw = .ok (e.valueOf m) ↔ m' = m := by
  have hread : e.read raw = .ok (e.valueOf m') := by
    unfold read
    rw [h]
    rfl
  rw [hread, Except.ok.injEq, valueOf_inj]

theorem read_of_findName?_eq_none (h : e.findName? raw = none) :
    e.read raw = .ok (e.valueOf m) ↔ findValue? raw e.members = .ok (some m) := by
  unfold read
  rw [h]
  cases hvalue : findValue? raw e.members with
  | error reason => exact iff_of_false (fun h => by cases h) (fun h => by cases h)
  | ok found =>
    cases found with
    | none => exact iff_of_false (fun h => by cases h) (fun h => by cases h)
    | some m' =>
      have hread : (.ok (e.valueOf m') : Except ConversionError Value) = .ok (e.valueOf m) ↔
          m' = m := by rw [Except.ok.injEq, valueOf_inj]
      exact hread.trans (by simp)

theorem isNumeric_of_mem_toString (n : ℤ) : ∀ c ∈ (toString n).toList, IsNumeric c := by
  rw [toList_toString_int, List.forall_mem_append]
  refine ⟨fun c hc => ?_, fun c hc => isNumeric_of_isDigit (isDigit_of_mem_toDigits hc)⟩
  rw [eq_of_mem_signChars hc]
  decide

theorem written_int {n : ℤ} (h : isLong n = false) : (Value.int n).written = .ok (toString n) :=
  Value.written_eq_ok_iff.mpr ⟨Value.unwritable?_int_eq_none_iff.mpr h, rfl⟩

/-- Integers begin like no name, so that a member that is one is found by its value, unless one
before it cannot be written. -/
theorem read_integer (h : e.IsDeclared) (hbase : e.base = .integer) (hm : m ∈ e.members) {k : ℤ}
    (hk : isLong k = false) (hvalue : m.2 = .int k) :
    e.read (toString k) = .ok (e.valueOf m) ↔ e.ComesBack m := by
  have hwritten : m.2.written = .ok (toString k) := by rw [hvalue, written_int hk]
  have hfind : ∀ before after, e.members = before ++ m :: after →
      (findValue? (toString k) e.members = .ok (some m) ↔
        ∀ m' ∈ before, m'.2.unwritable? = none) := by
    intro before after hmembers
    rw [hmembers, findValue?_append, findValue?_cons hwritten, and_iff_left rfl]
    intro m' hm' hsame
    have hfits := h.fits (hmembers ▸ List.mem_append_left _ hm')
    have hother := h.sameValue_eq_false hmembers m' hm'
    rw [hbase] at hfits
    obtain ⟨n, hn⟩ := EnumBase.exists_int_of_fits hfits
    rw [hn] at hsame hother
    rw [hvalue, eq_of_written_int hk hsame, sameValue_int] at hother
    cases hother
  rw [read_of_findName?_eq_none (findName?_of_isNumeric h.named (isNumeric_of_mem_toString k)),
    comesBack_integer hbase]
  obtain ⟨before, after, hmembers⟩ := List.append_of_mem hm
  constructor
  · exact fun hfound before after hmembers => (hfind before after hmembers).mp hfound
  · exact fun hwritable => (hfind before after hmembers).mpr (hwritable before after hmembers)

/-- A member that is a text is found by its value, unless another one has the text for its name. -/
theorem read_string (h : e.IsDeclared) (hbase : e.base = .string) (hm : m ∈ e.members) {t : String}
    (hvalue : m.2 = .text t) : e.read t = .ok (e.valueOf m) ↔ e.ComesBack m := by
  have htext : m.2.toText = t := by rw [hvalue]; rfl
  rw [comesBack_string hbase, htext]
  cases hname : e.findName? t with
  | some m' => simp [read_of_findName?_eq_some hname]
  | none =>
    obtain ⟨before, after, hmembers⟩ := List.append_of_mem hm
    have htexts : ∀ m' ∈ before, ∃ t', m'.2 = .text t' := by
      intro m' hm'
      have hfits := h.fits (hmembers ▸ List.mem_append_left _ hm')
      rw [hbase] at hfits
      exact EnumBase.exists_text_of_fits hfits
    have hothers : ∀ m' ∈ before, m'.2.written ≠ .ok t := by
      intro m' hm' hsame
      obtain ⟨t', ht'⟩ := htexts m' hm'
      have hother := h.sameValue_eq_false hmembers m' hm'
      rw [ht'] at hsame hother
      rw [hvalue, show t' = t from Except.ok.inj hsame, sameValue_text] at hother
      cases hother
    have hwritable : ∀ m' ∈ before, m'.2.unwritable? = none := by
      intro m' hm'
      obtain ⟨t', ht'⟩ := htexts m' hm'
      rw [ht']
      rfl
    rw [read_of_findName?_eq_none hname, hmembers, findValue?_append hothers,
      findValue?_cons (by rw [hvalue]; rfl)]
    simpa using hwritable

/-- Other members are found by nothing but a value that prints as they do. -/
theorem read_qualified (h : e.IsDeclared) (hbase : e.base ≠ .integer) (hbase' : e.base ≠ .string) :
    e.read (e.name ++ "." ++ m.1) = .ok (e.valueOf m) ↔ e.ComesBack m := by
  have hdot : '.' ∈ (e.name ++ "." ++ m.1).toList := by simp [String.toList_append]
  rw [read_of_findName?_eq_none (findName?_of_dot h.named hdot)]
  unfold ComesBack
  cases hcases : e.base with
  | integer => exact absurd hcases hbase
  | string => exact absurd hcases hbase'
  | _ => rfl

/-- A member is read back from its text exactly if it comes back. -/
theorem read_toText (h : e.IsDeclared) (hm : m ∈ e.members)
    (hwritable : (e.valueOf m).unwritable? = none) :
    e.read (e.valueOf m).toText = .ok (e.valueOf m) ↔ e.ComesBack m := by
  have hfits := h.fits hm
  cases hbase : e.base with
  | integer =>
    rw [hbase] at hfits
    obtain ⟨k, hk⟩ := EnumBase.exists_int_of_fits hfits
    have htext : (e.valueOf m).toText = toString k := by
      rw [valueOf, hbase, hk]
      rfl
    rw [valueOf, hbase, hk] at hwritable
    rw [htext]
    exact read_integer h hbase hm (Value.unwritable?_int_eq_none_iff.mp hwritable) hk
  | string =>
    rw [hbase] at hfits
    obtain ⟨t, ht⟩ := EnumBase.exists_text_of_fits hfits
    have htext : (e.valueOf m).toText = t := by
      rw [valueOf, hbase, ht]
      rfl
    rw [htext]
    exact read_string h hbase hm ht
  | plain | text | float =>
    have htext : (e.valueOf m).toText = e.name ++ "." ++ m.1 := by
      rw [valueOf, hbase]
      rfl
    rw [htext]
    exact read_qualified h (by rw [hbase]; decide) (by rw [hbase]; decide)

end Enumeration

end PagedQuery
