import Mathlib.Tactic
import PagedQuery.Proofs.Grammar.Filter
import PagedQuery.Proofs.Text.Capital

/-!
# Filters and their expressions

Every clause that an expression yields can be written as a piece again, whatever its value holds,
and reading the pieces gives back the clauses. A property that has been read is stripped and begins
with a capital already, so that reading it once more changes nothing.
-/

namespace PagedQuery

open PagedQuery.Text

/-- A clause that an expression can hold. -/
structure Encodable (c : FilterClause) : Prop where
  property_ne : c.property ≠ ""
  comma_not_mem : ',' ∉ c.property.toList
  tilde_not_mem : '~' ∉ c.property.toList
  trim_eq : trim c.property = c.property
  normalize_eq : normalizeProperty c.property = c.property
  value_ne : c.value ≠ ""

/-- A piece that a clause can be written as. -/
def EncodesClause (c : FilterClause) (piece : List Char) : Prop :=
  ∃ value, Percent.Encodes c.value.toList value ∧
    piece = c.property.toList ++ '~' :: (c.operator.token.toList ++ '~' :: value)

/-- An expression that clauses can be written as. -/
def EncodesClauses (cs : List FilterClause) (expression : String) : Prop :=
  ∃ pieces, List.Forall₂ EncodesClause cs pieces ∧
    expression = String.ofList ([','].intercalate pieces)

/-! ## From clauses to expressions -/

theorem comma_not_mem_token (op : FilterOperator) : ',' ∉ op.token.toList := by
  rcases op with (_ | _ | _ | _ | _) | _ | _ <;> decide

theorem toList_ne_nil {s : String} (h : s ≠ "") : s.toList ≠ [] := by
  simpa using h

theorem EncodesClause.comma_not_mem {c : FilterClause} {piece : List Char} (hc : Encodable c)
    (h : EncodesClause c piece) : ',' ∉ piece := by
  obtain ⟨value, hvalue, rfl⟩ := h
  simp [hc.comma_not_mem, comma_not_mem_token, hvalue.comma_not_mem]

theorem EncodesClause.reads {c : FilterClause} {piece : List Char} (hc : Encodable c)
    (h : EncodesClause c piece) : Reads piece c := by
  obtain ⟨value, hvalue, rfl⟩ := h
  have htrim : trimChars c.property.toList = c.property.toList := by
    simpa [trim] using congrArg String.toList hc.trim_eq
  refine ⟨c.property.toList, value, ⟨rfl, hc.tilde_not_mem, token_not_mem _⟩, ?_,
    hvalue.ne_nil (toList_ne_nil hc.value_ne), ?_, ?_⟩
  · by_contra hblank
    apply toList_ne_nil hc.property_ne
    rw [← htrim, trimChars_eq_nil_iff]
    simpa using hblank
  · rw [String.ofList_toList, hc.trim_eq, hc.normalize_eq]
  · rw [Percent.decode, String.toList_ofList, Percent.decodeChars_of_encodes hvalue,
      String.ofList_toList]

theorem reading_of_encodes {cs : List FilterClause} {pieces : List (List Char)}
    (h : List.Forall₂ EncodesClause cs pieces) (hc : ∀ c ∈ cs, Encodable c) :
    Reading pieces cs ∧ ∀ piece ∈ pieces, WellFormed piece ∧ ',' ∉ piece := by
  induction h with
  | nil => exact ⟨.nil, by simp⟩
  | @cons c piece cs pieces head tail ih =>
    have hcode : Encodable c := hc c List.mem_cons_self
    have hreads := head.reads hcode
    obtain ⟨hreading, hpieces⟩ := ih fun d hd => hc d (List.mem_cons_of_mem c hd)
    refine ⟨.clause hreads hreading, fun p hp => ?_⟩
    rcases List.mem_cons.mp hp with rfl | hp
    · exact ⟨hreads.wellFormed, head.comma_not_mem hcode⟩
    · exact hpieces p hp

theorem WellFormed.tilde_mem {piece : List Char} (h : WellFormed piece) : '~' ∈ piece := by
  obtain ⟨property, op, value, ⟨rfl, -, -⟩, -, -⟩ := h
  simp

theorem WellFormed.tolerates {piece : List Char} (h : WellFormed piece) (profile : Profile) :
    profile.Tolerates piece := by
  cases profile with
  | strict => exact h
  | lenient => exact h.not_badOperator

/-- An expression of pieces with separators and without commas is read piece by piece. -/
theorem parseExpression_of_pieces {α : Type} {parse : List Char → Except Fault (Option α)}
    {s : String} {pieces : List (List Char)} (hs : s.toList = [','].intercalate pieces)
    (hpieces : ∀ piece ∈ pieces, '~' ∈ piece ∧ ',' ∉ piece) :
    parseExpression parse (some s) = parsePieces parse pieces := by
  cases pieces with
  | nil =>
    obtain rfl : s = "" := String.toList_eq_nil_iff.mp hs
    rfl
  | cons piece pieces =>
    have hsplit : splitChars ',' ([','].intercalate (piece :: pieces)) = piece :: pieces :=
      splitChars_intercalate (by simp) fun p hp => (hpieces p hp).2
    have hblank : ¬ isBlankText s := by
      rw [isBlankText, hs, List.all_eq_true]
      intro hblank
      have htilde := hblank '~'
        (mem_intercalate List.mem_cons_self (hpieces piece List.mem_cons_self).1)
      revert htilde
      decide
    rw [parseExpression, if_neg hblank, hs, hsplit]

/-- Reading an expression of clauses gives the clauses. -/
theorem parseFilter_of_encodes {cs : List FilterClause} {expression : String}
    (hc : ∀ c ∈ cs, Encodable c) (h : EncodesClauses cs expression) (profile : Profile) :
    parseFilter profile (some expression) = .ok cs := by
  obtain ⟨pieces, hpieces, rfl⟩ := h
  obtain ⟨hreading, hall⟩ := reading_of_encodes hpieces hc
  obtain ⟨ds, hds, hreading'⟩ :=
    parsePieces_tolerated fun p hp => (hall p hp).1.tolerates profile
  rw [parseFilter, parseExpression_of_pieces String.toList_ofList fun p hp =>
    ⟨(hall p hp).1.tilde_mem, (hall p hp).2⟩, hds, hreading'.unique hreading]

/-! ## From expressions to clauses -/

theorem capital_of_stripped {c : Char} {rest : List Char} (h : Stripped (c :: rest))
    (hplain : ∀ x ∈ c :: rest, x ≠ ',' ∧ x ≠ '~') :
    Capital (upperChar c) := by
  apply capital_upperChar
  have hdelimiter : ¬ isDelimiter c.toNat := by
    rw [isDelimiter_iff]
    have hblank := h.1 c rfl
    have hc := hplain c List.mem_cons_self
    simp [hblank, hc]
  simpa using hdelimiter

/-- A stripped name with its first letter in upper case is stripped, and stays as it is when that
letter is put in upper case again. -/
theorem capitalizeChars_spec {cs : List Char} (hne : cs ≠ []) (h : Stripped cs)
    (hplain : ∀ x ∈ cs, x ≠ ',' ∧ x ≠ '~') :
    capitalizeChars cs ≠ [] ∧ (∀ x ∈ capitalizeChars cs, x ≠ ',' ∧ x ≠ '~') ∧
      Stripped (capitalizeChars cs) ∧ capitalizeChars (capitalizeChars cs) = capitalizeChars cs := by
  cases cs with
  | nil => exact (hne rfl).elim
  | cons c rest =>
    have hcapital := capital_of_stripped h hplain
    obtain ⟨head, tail, hup, hhead⟩ := hcapital.1
    have hplain' : ∀ x ∈ head :: tail, isBlank x = false ∧ x ≠ ',' ∧ x ≠ '~' := by
      rw [← hup]
      exact fun x hx => hcapital.plain hx
    rw [capitalizeChars_cons, hup, List.cons_append]
    refine ⟨by simp, ?_, ⟨?_, ?_⟩, ?_⟩
    · intro x hx
      rw [← List.cons_append] at hx
      rcases List.mem_append.mp hx with hx | hx
      · exact (hplain' x hx).2
      · exact hplain x (List.mem_cons_of_mem c hx)
    · intro x hx
      obtain rfl : head = x := by simpa using hx
      exact (hplain' head List.mem_cons_self).1
    · intro x hx
      rw [← List.cons_append, List.getLast?_append] at hx
      cases hrest : rest.getLast? with
      | none =>
        rw [hrest, Option.none_or] at hx
        exact (hplain' x (List.mem_of_getLast? hx)).1
      | some y =>
        have hlast : (c :: rest).getLast? = some y := by
          rw [List.getLast?_cons, hrest]
          rfl
        obtain rfl : y = x := by simpa [hrest] using hx
        exact h.2 y hlast
    · rw [capitalizeChars_cons, hhead, List.singleton_append]

/-- A property as clauses hold it: stripped, with its first letter in upper case. -/
structure IsProperty (name : String) : Prop where
  ne_empty : name ≠ ""
  comma_not_mem : ',' ∉ name.toList
  tilde_not_mem : '~' ∉ name.toList
  trim_eq : trim name = name
  normalize_eq : normalizeProperty name = name

/-- What is written before the first separator of a piece becomes a property, unless it is blank. -/
theorem isProperty_of_written {written : List Char} (hcomma : ',' ∉ written)
    (htilde : '~' ∉ written) (hblank : ∃ x ∈ written, isBlank x = false) :
    IsProperty (normalizeProperty (trim (String.ofList written))) := by
  have hmem : ∀ x ∈ trimChars written, x ≠ ',' ∧ x ≠ '~' := by
    intro x hx
    have hx' : x ∈ written := mem_of_mem_trimChars hx
    constructor
    · rintro rfl
      exact hcomma hx'
    · rintro rfl
      exact htilde hx'
  obtain ⟨hne, hplain, hstripped, hfixed⟩ :=
    capitalizeChars_spec (trimChars_ne_nil hblank) (stripped_trimChars written) hmem
  generalize hname : normalizeProperty (trim (String.ofList written)) = name
  have hlist : name.toList = capitalizeChars (trimChars written) := by
    rw [← hname]
    simp [normalizeProperty, capitalize, trim]
  refine ⟨?_, ?_, ?_, ?_, ?_⟩
  · intro hempty
    exact hne (by simpa [hempty] using hlist.symm)
  · rw [hlist]
    exact fun hx => (hplain _ hx).1 rfl
  · rw [hlist]
    exact fun hx => (hplain _ hx).2 rfl
  · rw [trim, hlist, trimChars_of_stripped hstripped, ← hlist, String.ofList_toList]
  · rw [normalizeProperty, capitalize, hlist, hfixed, ← hlist, String.ofList_toList]

theorem Reads.encodable {piece : List Char} {c : FilterClause} (hcomma : ',' ∉ piece)
    (h : Reads piece c) : Encodable c := by
  have hvalue := h.value_ne
  obtain ⟨property, value, ⟨rfl, htilde, -⟩, hblank, -, hproperty, -⟩ := h
  have hname := isProperty_of_written (fun hx => hcomma (List.mem_append_left _ hx)) htilde hblank
  rw [← hproperty] at hname
  exact ⟨hname.ne_empty, hname.comma_not_mem, hname.tilde_not_mem, hname.trim_eq,
    hname.normalize_eq, hvalue⟩

theorem Reading.encodable {pieces : List (List Char)} {cs : List FilterClause}
    (h : Reading pieces cs) (hcomma : ∀ piece ∈ pieces, ',' ∉ piece) :
    ∀ c ∈ cs, Encodable c := by
  induction h with
  | nil => simp
  | @clause piece c pieces cs head tail ih =>
    intro d hd
    rcases List.mem_cons.mp hd with rfl | hd
    · exact head.encodable (hcomma piece List.mem_cons_self)
    · exact ih (fun p hp => hcomma p (List.mem_cons_of_mem piece hp)) d hd
  | @other piece pieces cs head tail ih =>
    exact ih fun p hp => hcomma p (List.mem_cons_of_mem piece hp)

theorem encodable_of_parseFilter {profile : Profile} {expression : Option String}
    {cs : List FilterClause} (h : parseFilter profile expression = .ok cs) :
    ∀ c ∈ cs, Encodable c := by
  cases expression with
  | none =>
    cases h
    simp
  | some s =>
    rw [parseFilter, parseExpression] at h
    split at h
    · cases h
      simp
    · exact (parsePieces_reading h).encodable fun _ hp => not_mem_of_mem_splitChars hp

/-! ## Both ways -/

/-- The expression of clauses in which certain characters of the values are escaped. -/
def encodeClauses (upper : Bool) (escaped : Char → Bool) (cs : List FilterClause) : String :=
  String.ofList ([','].intercalate (cs.map fun c =>
    c.property.toList ++ '~' :: (c.operator.token.toList ++
      '~' :: Percent.encodeChars upper escaped c.value.toList)))

theorem encodesClauses_encodeClauses (upper : Bool) {escaped : Char → Bool} (hc : escaped ',')
    (hp : escaped '%') (cs : List FilterClause) :
    EncodesClauses cs (encodeClauses upper escaped cs) := by
  refine ⟨_, ?_, rfl⟩
  induction cs with
  | nil => exact .nil
  | cons c cs ih =>
    exact .cons ⟨_, Percent.encodes_encodeChars upper hc hp c.value.toList, rfl⟩ ih

/-- Clauses that meet the conditions on encodable ones are read back from every expression that
encodes them, all clauses that are read meet the conditions, and so the strict profile reads the
clauses that the lenient one has read from every expression that encodes those. -/
theorem parseFilter_roundTrip :
    (∀ cs expression, (∀ c ∈ cs, Encodable c) → EncodesClauses cs expression →
      ∀ profile, parseFilter profile (some expression) = .ok cs) ∧
    (∀ upper (escaped : Char → Bool) cs, escaped ',' → escaped '%' →
      EncodesClauses cs (encodeClauses upper escaped cs)) ∧
    (∀ profile expression cs, parseFilter profile expression = .ok cs →
      ∀ c ∈ cs, Encodable c) ∧
    ∀ expression cs encoded, parseFilter .lenient expression = .ok cs →
      EncodesClauses cs encoded → parseFilter .strict (some encoded) = .ok cs := by
  refine ⟨fun cs expression hc h => parseFilter_of_encodes hc h,
    fun upper escaped cs hc hp => encodesClauses_encodeClauses upper hc hp cs,
    fun profile expression cs => encodable_of_parseFilter, ?_⟩
  intro expression cs encoded hparse hencoded
  exact parseFilter_of_encodes (encodable_of_parseFilter hparse) hencoded .strict

end PagedQuery
