import Mathlib.Tactic
import PagedQuery.Proofs.Grammar.RoundTrip

/-!
# The grammar of sorts

A piece of a sort expression that has a name before its first separator stands for a clause, in
either profile or in the lenient one only, which takes every direction that it does not know as
descending. The texts of the clauses make up an expression again: it holds neither a separator nor a
blank that was not meant, so that both profiles read the clauses back from it.
-/

namespace PagedQuery

open PagedQuery.Text

/-! ## Pieces -/

/-- The parts of a piece with a separator and text that is not blank before the first one. -/
def SortParts (piece property token : List Char) : Prop :=
  piece = property ++ '~' :: token ∧ '~' ∉ property ∧ ∃ x ∈ property, isBlank x = false

/-- The clause with a written name and a written direction. Blanks and letter case of the direction
do not matter; it is ascending, or descending if it is anything else. -/
def writtenClause (property token : List Char) : SortClause where
  property := normalizeProperty (trim (String.ofList property))
  direction := if lower (trim (String.ofList token)) = "asc" then .ascending else .descending

/-- A piece that stands for a clause, in the lenient profile at least. -/
def SortsBy (piece : List Char) (c : SortClause) : Prop :=
  ∃ property token, SortParts piece property token ∧ c = writtenClause property token

/-- A piece `property~direction` with a property that is not blank. -/
def SortWellFormed (piece : List Char) : Prop :=
  ∃ property token, SortParts piece property token ∧
    (lower (trim (String.ofList token)) = "asc" ∨ lower (trim (String.ofList token)) = "desc")

theorem sortParts_iff {piece property token : List Char} :
    SortParts piece property token ↔
      cutAt? '~' piece = some (property, token) ∧ trimChars property ≠ [] := by
  rw [cutAt?_eq_some_iff, SortParts, and_assoc, ne_eq, trimChars_eq_nil_iff]
  simp

theorem SortParts.unique {piece property token property' token' : List Char}
    (h : SortParts piece property token) (h' : SortParts piece property' token') :
    property = property' ∧ token = token' := by
  have heq := (sortParts_iff.mp h).1.symm.trans (sortParts_iff.mp h').1
  simpa using heq

theorem SortsBy.unique {piece : List Char} {c d : SortClause} (h : SortsBy piece c)
    (h' : SortsBy piece d) : c = d := by
  obtain ⟨property, token, hparts, rfl⟩ := h
  obtain ⟨property', token', hparts', rfl⟩ := h'
  obtain ⟨rfl, rfl⟩ := hparts.unique hparts'
  rfl

/-- What a profile makes of the parts of a piece. -/
theorem parseSortPiece_of_parts {piece property token : List Char}
    (h : SortParts piece property token) (profile : Profile) :
    parseSortPiece profile piece =
      if profile = .lenient ∨ (SortDirection.ofToken? (String.ofList token)).isSome then
        .ok (some (writtenClause property token))
      else .error (.sortDirection (String.ofList token) (String.ofList piece)) := by
  obtain ⟨hcut, hne⟩ := sortParts_iff.mp h
  have hempty : (trimChars property).isEmpty = false := by simpa using hne
  simp only [parseSortPiece, hcut, hempty, Bool.false_eq_true, if_false, writtenClause, trim,
    String.toList_ofList, SortDirection.ofToken?, SortDirection.canonicalToken]
  generalize lower (String.ofList (trimChars token)) = canonical
  split_ifs <;> cases profile <;> simp_all

theorem parseSortPiece_of_sortsBy {piece : List Char} {c : SortClause}
    (h : SortsBy piece c) : parseSortPiece .lenient piece = .ok (some c) := by
  obtain ⟨property, token, hparts, rfl⟩ := h
  rw [parseSortPiece_of_parts hparts, if_pos (.inl rfl)]

/-- A piece without a name is dropped by the lenient profile and refused by the strict one. -/
theorem parseSortPiece_of_nameless {piece : List Char} (h : ¬ ∃ c, SortsBy piece c) :
    parseSortPiece .lenient piece = .ok none ∧
      ∃ fault, parseSortPiece .strict piece = .error fault := by
  cases hcut : cutAt? '~' piece with
  | none =>
    simp only [parseSortPiece, hcut]
    exact ⟨rfl, _, rfl⟩
  | some parts =>
    obtain ⟨property, token⟩ := parts
    have hempty : (trimChars property).isEmpty := by
      by_contra hne
      exact h ⟨_, property, token, sortParts_iff.mpr ⟨hcut, by simpa using hne⟩, rfl⟩
    simp only [parseSortPiece, hcut, hempty, if_true]
    exact ⟨rfl, _, rfl⟩

theorem parseSortPiece_lenient_ok (piece : List Char) :
    ∃ clause?, parseSortPiece .lenient piece = .ok clause? := by
  by_cases hc : ∃ c, SortsBy piece c
  · obtain ⟨c, hc⟩ := hc
    exact ⟨some c, parseSortPiece_of_sortsBy hc⟩
  · exact ⟨none, (parseSortPiece_of_nameless hc).1⟩

theorem isSome_ofToken?_iff {token : String} : (SortDirection.ofToken? token).isSome ↔
    lower (trim token) = "asc" ∨ lower (trim token) = "desc" := by
  rw [SortDirection.ofToken?, SortDirection.canonicalToken]
  generalize lower (trim token) = canonical
  split_ifs <;> simp_all

/-- The strict profile takes the well-formed pieces only, and takes them as the lenient one does. -/
theorem parseSortPiece_strict (piece : List Char) :
    (SortWellFormed piece ∧ parseSortPiece .strict piece = parseSortPiece .lenient piece) ∨
      ¬ SortWellFormed piece ∧ ∃ fault, parseSortPiece .strict piece = .error fault := by
  by_cases hc : ∃ c, SortsBy piece c
  · obtain ⟨c, property, token, hparts, -⟩ := hc
    rw [parseSortPiece_of_parts hparts .lenient, if_pos (.inl rfl),
      parseSortPiece_of_parts hparts]
    by_cases htoken : (SortDirection.ofToken? (String.ofList token)).isSome
    · rw [if_pos (.inr htoken)]
      exact .inl ⟨⟨property, token, hparts, isSome_ofToken?_iff.mp htoken⟩, rfl⟩
    · rw [if_neg (by simpa using htoken)]
      refine .inr ⟨?_, _, rfl⟩
      rintro ⟨property', token', hparts', hdirection⟩
      obtain ⟨rfl, rfl⟩ := hparts.unique hparts'
      exact htoken (isSome_ofToken?_iff.mpr hdirection)
  · refine .inr ⟨?_, (parseSortPiece_of_nameless hc).2⟩
    rintro ⟨property, token, hparts, -⟩
    exact hc ⟨_, property, token, hparts, rfl⟩

/-! ## Expressions -/

/-- The clauses that pieces stand for, in order. Pieces without a name stand for none. -/
inductive SortReading : List (List Char) → List SortClause → Prop
  | nil : SortReading [] []
  | clause {piece c pieces cs} (head : SortsBy piece c) (tail : SortReading pieces cs) :
    SortReading (piece :: pieces) (c :: cs)
  | other {piece pieces cs} (head : ¬ ∃ c, SortsBy piece c) (tail : SortReading pieces cs) :
    SortReading (piece :: pieces) cs

theorem SortReading.parsePieces_eq {pieces : List (List Char)} {cs : List SortClause}
    (h : SortReading pieces cs) : parsePieces (parseSortPiece .lenient) pieces = .ok cs := by
  induction h with
  | nil => rfl
  | clause head tail ih => simp [parsePieces, parseSortPiece_of_sortsBy head, ih]
  | other head tail ih => simp [parsePieces, (parseSortPiece_of_nameless head).1, ih]

theorem exists_sortReading (pieces : List (List Char)) : ∃ cs, SortReading pieces cs := by
  induction pieces with
  | nil => exact ⟨[], .nil⟩
  | cons piece pieces ih =>
    obtain ⟨cs, hcs⟩ := ih
    by_cases hc : ∃ c, SortsBy piece c
    · obtain ⟨c, hc⟩ := hc
      exact ⟨c :: cs, .clause hc hcs⟩
    · exact ⟨cs, .other hc hcs⟩

theorem parsePieces_strict (pieces : List (List Char)) :
    ((∀ piece ∈ pieces, SortWellFormed piece) ∧
      parsePieces (parseSortPiece .strict) pieces =
        parsePieces (parseSortPiece .lenient) pieces) ∨
      (¬ ∀ piece ∈ pieces, SortWellFormed piece) ∧
        ∃ fault, parsePieces (parseSortPiece .strict) pieces = .error fault := by
  induction pieces with
  | nil => exact .inl ⟨by simp, rfl⟩
  | cons piece pieces ih =>
    rcases parseSortPiece_strict piece with ⟨hpiece, hsame⟩ | ⟨hpiece, fault, hfault⟩
    · rcases ih with ⟨hpieces, heq⟩ | ⟨hpieces, fault, hfault⟩
      · refine .inl ⟨by simpa using ⟨hpiece, hpieces⟩, ?_⟩
        simp only [parsePieces, hsame, heq]
      · refine .inr ⟨fun hall => hpieces fun p hp => hall p (List.mem_cons_of_mem piece hp), ?_⟩
        obtain ⟨clause?, hlenient⟩ := parseSortPiece_lenient_ok piece
        exact ⟨fault, by simp only [parsePieces, hsame, hlenient, hfault]⟩
    · refine .inr ⟨fun hall => hpiece (hall piece List.mem_cons_self), fault, ?_⟩
      simp only [parsePieces, hfault]

/-! ## Clauses and their texts -/

/-- The expression of clauses: their texts, separated by commas. -/
def sortExpression (cs : List SortClause) : String := String.intercalate "," (cs.map (·.text))

theorem SortClause.toList_text (c : SortClause) :
    c.text.toList = c.property.toList ++ '~' :: c.direction.token.toList := by
  simp [SortClause.text]

theorem SortsBy.isProperty {piece : List Char} {c : SortClause} (hcomma : ',' ∉ piece)
    (h : SortsBy piece c) : IsProperty c.property := by
  obtain ⟨property, token, ⟨rfl, htilde, hblank⟩, rfl⟩ := h
  exact isProperty_of_written (fun hx => hcomma (List.mem_append_left _ hx)) htilde hblank

theorem SortReading.isProperty {pieces : List (List Char)} {cs : List SortClause}
    (h : SortReading pieces cs) (hcomma : ∀ piece ∈ pieces, ',' ∉ piece) :
    ∀ c ∈ cs, IsProperty c.property := by
  induction h with
  | nil => simp
  | @clause piece c pieces cs head tail ih =>
    rw [List.forall_mem_cons] at hcomma
    exact List.forall_mem_cons.mpr ⟨head.isProperty hcomma.1, ih hcomma.2⟩
  | other head tail ih =>
    rw [List.forall_mem_cons] at hcomma
    exact ih hcomma.2

theorem IsProperty.exists_not_blank {name : String} (h : IsProperty name) :
    ∃ x ∈ name.toList, isBlank x = false := by
  have htrim : trimChars name.toList = name.toList := by
    simpa [trim] using congrArg String.toList h.trim_eq
  by_contra hblank
  apply toList_ne_nil h.ne_empty
  rw [← htrim, trimChars_eq_nil_iff]
  simpa using hblank

theorem lower_trim_token (direction : SortDirection) :
    lower (trim direction.token) = direction.token := by
  cases direction <;> decide

variable {c : SortClause}

theorem sortParts_text (h : IsProperty c.property) :
    SortParts c.text.toList c.property.toList c.direction.token.toList :=
  ⟨c.toList_text, h.tilde_not_mem, h.exists_not_blank⟩

theorem sortsBy_text (h : IsProperty c.property) : SortsBy c.text.toList c := by
  refine ⟨_, _, sortParts_text h, ?_⟩
  obtain ⟨property, direction⟩ := c
  rw [writtenClause, String.ofList_toList, h.trim_eq, h.normalize_eq, String.ofList_toList,
    lower_trim_token]
  cases direction <;> rfl

theorem sortWellFormed_text (h : IsProperty c.property) : SortWellFormed c.text.toList := by
  refine ⟨_, _, sortParts_text h, ?_⟩
  rw [String.ofList_toList, lower_trim_token]
  cases c.direction with
  | ascending => exact .inl rfl
  | descending => exact .inr rfl

theorem comma_not_mem_text (h : IsProperty c.property) : ',' ∉ c.text.toList := by
  have htoken : ',' ∉ c.direction.token.toList := by cases c.direction <;> decide
  simp [c.toList_text, h.comma_not_mem, htoken]

theorem sortReading_texts {cs : List SortClause} (h : ∀ c ∈ cs, IsProperty c.property) :
    SortReading (cs.map (·.text.toList)) cs := by
  induction cs with
  | nil => exact .nil
  | cons c cs ih =>
    rw [List.forall_mem_cons] at h
    exact .clause (sortsBy_text h.1) (ih h.2)

/-- The expression of clauses with properties that have been read gives the clauses. -/
theorem parseSort_sortExpression {cs : List SortClause} (h : ∀ c ∈ cs, IsProperty c.property)
    (profile : Profile) : parseSort profile (some (sortExpression cs)) = .ok cs := by
  have hreading := (sortReading_texts h).parsePieces_eq
  have hpieces : ∀ piece ∈ cs.map (·.text.toList),
      SortWellFormed piece ∧ '~' ∈ piece ∧ ',' ∉ piece := by
    intro piece hp
    obtain ⟨c, hc, rfl⟩ := List.mem_map.mp hp
    exact ⟨sortWellFormed_text (h c hc), by simp [c.toList_text], comma_not_mem_text (h c hc)⟩
  have hlist : (sortExpression cs).toList = [','].intercalate (cs.map (·.text.toList)) := by
    simp [sortExpression, String.toList_intercalate, Function.comp_def]
  rw [parseSort, parseExpression_of_pieces hlist fun p hp => (hpieces p hp).2]
  cases profile with
  | lenient => exact hreading
  | strict =>
    rcases parsePieces_strict (cs.map (·.text.toList)) with ⟨-, heq⟩ | ⟨hnot, -⟩
    · rw [heq, hreading]
    · exact (hnot fun piece hp => (hpieces piece hp).1).elim

/-- The lenient profile reads every expression, and gives the clauses of the pieces that have a
name. Both profiles read them back from the expression of the clauses. The strict one reads the
blank expressions and those of well-formed pieces only, and gives the same clauses. -/
theorem parseSort_roundTrip (expression : Option String) :
    (∃ cs, parseSort .lenient expression = .ok cs ∧
      (∀ s ∈ expression, ¬ isBlankText s → SortReading (splitChars ',' s.toList) cs) ∧
      ∀ profile, parseSort profile (some (sortExpression cs)) = .ok cs) ∧
    ((∃ cs, parseSort .strict expression = .ok cs) ↔
      ∀ s ∈ expression, isBlankText s ∨
        ∀ piece ∈ splitChars ',' s.toList, SortWellFormed piece) ∧
    ∀ cs, parseSort .strict expression = .ok cs → parseSort .lenient expression = .ok cs := by
  have hempty : ∀ profile, parseSort profile (some (sortExpression [])) = .ok [] :=
    parseSort_sortExpression (by simp)
  rcases expression with _ | s
  · exact ⟨⟨[], rfl, by simp, hempty⟩, by simp [parseSort, parseExpression], fun _ h => h⟩
  by_cases hblank : isBlankText s
  · have hparse : ∀ profile, parseSort profile (some s) = .ok [] := by
      intro profile
      simp [parseSort, parseExpression, hblank]
    exact ⟨⟨[], hparse _, by simp [hblank], hempty⟩, by simp [hparse, hblank],
      fun _ h => (hparse .lenient).trans ((hparse .strict).symm.trans h)⟩
  · have hparse : ∀ profile, parseSort profile (some s) =
        parsePieces (parseSortPiece profile) (splitChars ',' s.toList) := by
      intro profile
      simp [parseSort, parseExpression, hblank]
    obtain ⟨cs, hcs⟩ := exists_sortReading (splitChars ',' s.toList)
    have hproperties := hcs.isProperty fun _ hp => not_mem_of_mem_splitChars hp
    refine ⟨⟨cs, (hparse _).trans hcs.parsePieces_eq, ?_, parseSort_sortExpression hproperties⟩,
      ?_⟩
    · intro t ht hfilled
      cases ht
      exact hcs
    · rw [hparse, hparse]
      rcases parsePieces_strict (splitChars ',' s.toList) with ⟨hall, heq⟩ | ⟨hnot, fault, herror⟩
      · rw [heq]
        exact ⟨by simpa [hblank, hcs.parsePieces_eq] using hall, fun _ h => h⟩
      · rw [herror]
        exact ⟨by simpa [hblank] using hnot, by simp⟩

example : parseSort .lenient (some "title~ ASC ,price,pages~up~down, ~asc") =
    .ok [⟨"Title", .ascending⟩, ⟨"Pages", .descending⟩] := by
  rfl

end PagedQuery
