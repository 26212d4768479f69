import Mathlib.Tactic
import PagedQuery.Proofs.Text.Blank
import PagedQuery.Proofs.Text.Percent
import PagedQuery.Proofs.Text.Split
import PagedQuery.Query.Grammar

/-!
# The grammar of filters

Which pieces of a filter expression are clauses, which are refused and which are dropped, and what
the two profiles make of all pieces together. The order of the checks on a piece does not show: a
piece is refused by the lenient profile for its operator only, and every other defect is one for
the strict profile only.
-/

namespace PagedQuery

open PagedQuery.Text

/-! ## Pieces -/

/-- The parts of a piece with two separators at least. -/
def Parts (piece property token value : List Char) : Prop :=
  piece = property ++ '~' :: (token ++ '~' :: value) ∧ '~' ∉ property ∧ '~' ∉ token

/-- A piece `property~token~value` with a property that is not blank, the token of an operator and
a value that is not empty stands for a clause. -/
def Reads (piece : List Char) (c : FilterClause) : Prop :=
  ∃ property value, Parts piece property c.operator.token.toList value ∧
    (∃ x ∈ property, isBlank x = false) ∧ value ≠ [] ∧
    c.property = normalizeProperty (trim (String.ofList property)) ∧
    c.value = Percent.decode (String.ofList value)

/-- A piece that stands for a clause. -/
def WellFormed (piece : List Char) : Prop :=
  ∃ property op value, Parts piece property (FilterOperator.token op).toList value ∧
    (∃ x ∈ property, isBlank x = false) ∧ value ≠ []

/-- A piece with two separators at least that have no operator between them. -/
def BadOperator (piece : List Char) : Prop :=
  ∃ property token value, Parts piece property token value ∧
    ∀ op : FilterOperator, op.token.toList ≠ token

/-- The pieces that a profile does not refuse. -/
def Profile.Tolerates : Profile → List Char → Prop
  | .strict, piece => WellFormed piece
  | .lenient, piece => ¬ BadOperator piece

theorem splitFilter?_eq_some_iff {piece property token value : List Char} :
    splitFilter? piece = some (property, token, value) ↔ Parts piece property token value := by
  unfold splitFilter? Parts
  constructor
  · intro h
    split at h
    · cases h
    · next p rest hp =>
      obtain ⟨⟨t, v⟩, ht, heq⟩ := Option.map_eq_some_iff.mp h
      cases heq
      obtain ⟨rfl, hproperty⟩ := cutAt?_eq_some_iff.mp hp
      obtain ⟨rfl, htoken⟩ := cutAt?_eq_some_iff.mp ht
      exact ⟨rfl, hproperty, htoken⟩
  · rintro ⟨rfl, hp, ht⟩
    rw [cutAt?_append hp]
    simp [cutAt?_append ht]

theorem ofToken?_eq_some_iff {token : String} {op : FilterOperator} :
    FilterOperator.ofToken? token = some op ↔ op.token = token := by
  constructor
  · intro h
    simpa using List.find?_some h
  · rintro rfl
    exact FilterOperator.ofToken?_token op

theorem token_not_mem (op : FilterOperator) : '~' ∉ op.token.toList := by
  rcases op with (_ | _ | _ | _ | _) | _ | _ <;> decide

theorem Parts.unique {piece p t v p' t' v' : List Char} (h : Parts piece p t v)
    (h' : Parts piece p' t' v') : p = p' ∧ t = t' ∧ v = v' := by
  have heq := (splitFilter?_eq_some_iff.mpr h).symm.trans (splitFilter?_eq_some_iff.mpr h')
  simpa using heq

theorem Reads.wellFormed {piece : List Char} {c : FilterClause} (h : Reads piece c) :
    WellFormed piece := by
  obtain ⟨property, value, hparts, hproperty, hvalue, -, -⟩ := h
  exact ⟨property, c.operator, value, hparts, hproperty, hvalue⟩

theorem WellFormed.reads {piece : List Char} (h : WellFormed piece) : ∃ c, Reads piece c := by
  obtain ⟨property, op, value, hparts, hproperty, hvalue⟩ := h
  exact ⟨⟨_, op, _⟩, property, value, hparts, hproperty, hvalue, rfl, rfl⟩

theorem WellFormed.not_badOperator {piece : List Char} (h : WellFormed piece) :
    ¬ BadOperator piece := by
  rintro ⟨property, token, value, hparts, htoken⟩
  obtain ⟨property', op, value', hparts', -, -⟩ := h
  exact htoken op (hparts'.unique hparts).2.1

theorem trimChars_ne_nil {cs : List Char} (h : ∃ x ∈ cs, isBlank x = false) :
    trimChars cs ≠ [] := by
  obtain ⟨x, hx, hblank⟩ := h
  intro hnil
  rw [trimChars_eq_nil_iff.mp hnil x hx] at hblank
  cases hblank

theorem parseFilterPiece_of_reads {piece : List Char} {c : FilterClause} (h : Reads piece c)
    (profile : Profile) : parseFilterPiece profile piece = .ok (some c) := by
  obtain ⟨property, value, hparts, hproperty, hvalue, hc, hc'⟩ := h
  have htoken : FilterOperator.ofToken? (String.ofList c.operator.token.toList) =
      some c.operator := by
    rw [String.ofList_toList, FilterOperator.ofToken?_token]
  have hne : ((trimChars property).isEmpty || (Percent.decodeChars value).isEmpty) = false := by
    simp [trimChars_ne_nil hproperty, Percent.decodeChars_ne_nil hvalue]
  simp only [parseFilterPiece, splitFilter?_eq_some_iff.mpr hparts, htoken, hne]
  obtain ⟨cp, cop, cv⟩ := c
  simp only at hc hc'
  simp [hc, hc', trim, Percent.decode]

theorem parseFilterPiece_of_badOperator {piece : List Char} (h : BadOperator piece)
    (profile : Profile) :
    ∃ fault, parseFilterPiece profile piece = .error fault ∧ fault.kind = .grammar ∧
      fault.clause? = some (String.ofList piece) := by
  obtain ⟨property, token, value, hparts, htoken⟩ := h
  have hnone : FilterOperator.ofToken? (String.ofList token) = none := by
    by_contra hne
    obtain ⟨op, hop⟩ := Option.ne_none_iff_exists'.mp hne
    apply htoken op
    rw [ofToken?_eq_some_iff.mp hop, String.toList_ofList]
  simp only [parseFilterPiece, splitFilter?_eq_some_iff.mpr hparts, hnone]
  exact ⟨_, rfl, rfl, rfl⟩

/-- What is dropped by the lenient profile is refused by the strict one. -/
theorem parseFilterPiece_of_malformed {piece : List Char} (h : ¬ WellFormed piece)
    (h' : ¬ BadOperator piece) :
    parseFilterPiece .lenient piece = .ok none ∧
      ∃ fault, parseFilterPiece .strict piece = .error fault ∧ fault.kind = .grammar ∧
        fault.clause? = some (String.ofList piece) := by
  cases hsplit : splitFilter? piece with
  | none =>
    simp only [parseFilterPiece, hsplit]
    exact ⟨rfl, _, rfl, rfl, rfl⟩
  | some parts =>
    obtain ⟨property, token, value⟩ := parts
    have hparts := splitFilter?_eq_some_iff.mp hsplit
    cases htoken : FilterOperator.ofToken? (String.ofList token) with
    | none =>
      refine (h' ⟨property, token, value, hparts, fun op hop => ?_⟩).elim
      rw [← hop, String.ofList_toList, FilterOperator.ofToken?_token] at htoken
      cases htoken
    | some op =>
      have hop : op.token.toList = token := by
        rw [ofToken?_eq_some_iff.mp htoken, String.toList_ofList]
      have hempty : (trimChars property).isEmpty || (Percent.decodeChars value).isEmpty := by
        by_contra hne
        simp only [Bool.or_eq_true, List.isEmpty_iff, not_or] at hne
        refine h ⟨property, op, value, hop ▸ hparts, ?_, ?_⟩
        · by_contra hblank
          exact hne.1 (trimChars_eq_nil_iff.mpr (by simpa using hblank))
        · rintro rfl
          exact hne.2 rfl
      simp only [parseFilterPiece, hsplit, htoken, hempty, if_true]
      exact ⟨rfl, _, rfl, rfl, rfl⟩

/-- A piece that a profile does not refuse gives its clause, or none. -/
theorem parseFilterPiece_tolerated {profile : Profile} {piece : List Char}
    (h : profile.Tolerates piece) :
    (∃ c, Reads piece c ∧ parseFilterPiece profile piece = .ok (some c)) ∨
      ¬ WellFormed piece ∧ parseFilterPiece profile piece = .ok none := by
  by_cases hw : WellFormed piece
  · obtain ⟨c, hc⟩ := hw.reads
    exact .inl ⟨c, hc, parseFilterPiece_of_reads hc profile⟩
  · cases profile with
    | strict => exact (hw h).elim
    | lenient => exact .inr ⟨hw, (parseFilterPiece_of_malformed hw h).1⟩

theorem parseFilterPiece_refused {profile : Profile} {piece : List Char}
    (h : ¬ profile.Tolerates piece) :
    ∃ fault, parseFilterPiece profile piece = .error fault ∧ fault.kind = .grammar ∧
      fault.clause? = some (String.ofList piece) := by
  by_cases hb : BadOperator piece
  · exact parseFilterPiece_of_badOperator hb profile
  · cases profile with
    | strict => exact (parseFilterPiece_of_malformed h hb).2
    | lenient => exact (h hb).elim

/-! ## Expressions -/

/-- The clauses that pieces stand for, in order. Pieces that are not well-formed stand for none. -/
inductive Reading : List (List Char) → List FilterClause → Prop
  | nil : Reading [] []
  | clause {piece c pieces cs} (head : Reads piece c) (tail : Reading pieces cs) :
    Reading (piece :: pieces) (c :: cs)
  | other {piece pieces cs} (head : ¬ WellFormed piece) (tail : Reading pieces cs) :
    Reading (piece :: pieces) cs

theorem Reads.unique {piece : List Char} {c d : FilterClause} (h : Reads piece c)
    (h' : Reads piece d) : c = d := by
  have heq := (parseFilterPiece_of_reads h .strict).symm.trans (parseFilterPiece_of_reads h' .strict)
  simpa using heq

theorem Reading.unique {pieces : List (List Char)} {cs ds : List FilterClause}
    (h : Reading pieces cs) (h' : Reading pieces ds) : cs = ds := by
  induction h generalizing ds with
  | nil =>
    cases h'
    rfl
  | clause head tail ih =>
    cases h' with
    | clause head' tail' => rw [head.unique head', ih tail']
    | other head' tail' => exact (head' head.wellFormed).elim
  | other head tail ih =>
    cases h' with
    | clause head' tail' => exact (head head'.wellFormed).elim
    | other head' tail' => exact ih tail'

theorem parsePieces_tolerated {profile : Profile} {pieces : List (List Char)}
    (h : ∀ piece ∈ pieces, profile.Tolerates piece) :
    ∃ cs, parsePieces (parseFilterPiece profile) pieces = .ok cs ∧ Reading pieces cs := by
  induction pieces with
  | nil => exact ⟨[], rfl, .nil⟩
  | cons piece pieces ih =>
    obtain ⟨cs, hcs, hreading⟩ := ih fun p hp => h p (List.mem_cons_of_mem piece hp)
    rcases parseFilterPiece_tolerated (h piece List.mem_cons_self) with
      ⟨c, hc, hparse⟩ | ⟨hw, hparse⟩
    · exact ⟨c :: cs, by simp [parsePieces, hparse, hcs], .clause hc hreading⟩
    · exact ⟨cs, by simp [parsePieces, hparse, hcs], .other hw hreading⟩

/-- The first piece that the profile refuses is the one at fault. -/
theorem parsePieces_refused {profile : Profile} {front : List (List Char)} {piece : List Char}
    (back : List (List Char)) (hfront : ∀ p ∈ front, profile.Tolerates p)
    (h : ¬ profile.Tolerates piece) :
    ∃ fault, parsePieces (parseFilterPiece profile) (front ++ piece :: back) = .error fault ∧
      fault.kind = .grammar ∧ fault.clause? = some (String.ofList piece) := by
  induction front with
  | nil =>
    obtain ⟨fault, hparse, hfault⟩ := parseFilterPiece_refused h
    exact ⟨fault, by simp [parsePieces, hparse], hfault⟩
  | cons p front ih =>
    obtain ⟨fault, hparse, hfault⟩ := ih fun q hq => hfront q (List.mem_cons_of_mem p hq)
    refine ⟨fault, ?_, hfault⟩
    rcases parseFilterPiece_tolerated (hfront p List.mem_cons_self) with ⟨c, -, hp⟩ | ⟨-, hp⟩
    · simp [parsePieces, hp, hparse]
    · simp [parsePieces, hp, hparse]

theorem exists_first_not {α : Type} {p : α → Prop} {xs : List α} (h : ¬ ∀ x ∈ xs, p x) :
    ∃ front x back, xs = front ++ x :: back ∧ (∀ y ∈ front, p y) ∧ ¬ p x := by
  induction xs with
  | nil => simp at h
  | cons x xs ih =>
    by_cases hx : p x
    · obtain ⟨front, y, back, rfl, hfront, hy⟩ := ih fun hall => h (by simpa [hx] using hall)
      exact ⟨x :: front, y, back, rfl, by simpa [hx] using hfront, hy⟩
    · exact ⟨[], x, xs, rfl, by simp, hx⟩

theorem parsePieces_ok_iff {profile : Profile} {pieces : List (List Char)} :
    (∃ cs, parsePieces (parseFilterPiece profile) pieces = .ok cs) ↔
      ∀ piece ∈ pieces, profile.Tolerates piece := by
  constructor
  · rintro ⟨cs, hcs⟩
    by_contra hnot
    obtain ⟨front, piece, back, rfl, hfront, hpiece⟩ := exists_first_not hnot
    obtain ⟨fault, hfault, -⟩ := parsePieces_refused back hfront hpiece
    rw [hfault] at hcs
    cases hcs
  · intro h
    obtain ⟨cs, hcs, -⟩ := parsePieces_tolerated h
    exact ⟨cs, hcs⟩

theorem parsePieces_reading {profile : Profile} {pieces : List (List Char)}
    {cs : List FilterClause} (h : parsePieces (parseFilterPiece profile) pieces = .ok cs) :
    Reading pieces cs := by
  obtain ⟨ds, hds, hreading⟩ := parsePieces_tolerated (parsePieces_ok_iff.mp ⟨cs, h⟩)
  rw [h] at hds
  rwa [Except.ok.inj hds]

theorem Reads.value_ne {piece : List Char} {c : FilterClause} (h : Reads piece c) :
    c.value ≠ "" := by
  obtain ⟨property, value, -, -, hvalue, -, hc⟩ := h
  rw [hc, Percent.decode, String.toList_ofList]
  intro hempty
  exact Percent.decodeChars_ne_nil hvalue (by simpa using congrArg String.toList hempty)

theorem Reading.value_ne {pieces : List (List Char)} {cs : List FilterClause}
    (h : Reading pieces cs) : ∀ c ∈ cs, c.value ≠ "" := by
  induction h with
  | nil => simp
  | clause head tail ih =>
    intro c hc
    rcases List.mem_cons.mp hc with rfl | hc
    · exact head.value_ne
    · exact ih c hc
  | other head tail ih => exact ih

/-- Both profiles take a blank expression for none. Of any other one, a profile refuses the first
piece that it does not tolerate, and if there is none, the clauses are those of the well-formed
pieces. -/
theorem parseFilter_spec (expression : Option String) :
    ((∀ s ∈ expression, isBlankText s) → ∀ profile, parseFilter profile expression = .ok []) ∧
      ∀ s ∈ expression, ¬ isBlankText s →
        (∀ profile : Profile, (∃ cs, parseFilter profile expression = .ok cs) ↔
          ∀ piece ∈ splitChars ',' s.toList, profile.Tolerates piece) ∧
        (∀ (profile : Profile) front piece back, splitChars ',' s.toList = front ++ piece :: back →
          (∀ p ∈ front, profile.Tolerates p) → ¬ profile.Tolerates piece →
          ∃ fault, parseFilter profile expression = .error fault ∧ fault.kind = .grammar ∧
            fault.clause? = some (String.ofList piece)) ∧
        (∀ profile cs, parseFilter profile expression = .ok cs →
          Reading (splitChars ',' s.toList) cs ∧ ∀ c ∈ cs, c.value ≠ "") ∧
        ∀ cs, parseFilter .strict expression = .ok cs →
          parseFilter .lenient expression = .ok cs := by
  constructor
  · intro hblank profile
    cases expression with
    | none => rfl
    | some s => simp [parseFilter, parseExpression, hblank s rfl]
  · rintro s rfl hblank
    have hparse : ∀ profile, parseFilter profile (some s) =
        parsePieces (parseFilterPiece profile) (splitChars ',' s.toList) := by
      intro profile
      simp [parseFilter, parseExpression, hblank]
    simp only [hparse]
    refine ⟨fun profile => parsePieces_ok_iff, ?_, ?_, ?_⟩
    · intro profile front piece back hsplit hfront hpiece
      rw [hsplit]
      exact parsePieces_refused back hfront hpiece
    · intro profile cs hcs
      exact ⟨parsePieces_reading hcs, (parsePieces_reading hcs).value_ne⟩
    · intro cs hcs
      have hlenient : ∀ piece ∈ splitChars ',' s.toList, Profile.lenient.Tolerates piece :=
        fun piece hp => (parsePieces_ok_iff.mp ⟨cs, hcs⟩ piece hp).not_badOperator
      obtain ⟨ds, hds, hreading⟩ := parsePieces_tolerated hlenient
      rw [hds, (parsePieces_reading hcs).unique hreading]

example : parseFilter .lenient (some "title~like~a%2Cb~c, price ~>~%zz,pages,~=~3") =
    .ok [⟨"Title", .like, "a,b~c"⟩, ⟨"Price", .compare .greater, "%zz"⟩] := by
  rfl

end PagedQuery
