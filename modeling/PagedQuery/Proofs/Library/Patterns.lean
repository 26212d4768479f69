import PagedQuery.Proofs.Library.Search
import PagedQuery.Proofs.Text.Folding

/-!
# Patterns across sources

Entities and tables part in what they take for the same letter when a filter looks for a pattern
whatever the case. Entities are searched with case folding, rows with the lower case of ASCII
letters, and there a null character cuts the pattern short. So rows show no more than entities do
unless the pattern has a null character, and both show the same in texts of plain characters.
-/

namespace PagedQuery

open PagedQuery.Sample PagedQuery.Text

namespace Schema

/-- A pattern for texts is bound as it is. -/
theorem bindFilterTo_ilike {s : Schema} {c : FilterClause} {p : FieldPath}
    (hp : p.valueType = .scalar .text) (hop : c.operator = .ilike) :
    s.bindFilterTo c p = .ok ⟨c, p, .text c.value, false⟩ := by
  simp [bindFilterTo, hop, hp, FilterOperator.isPattern, holdsText]

end Schema

namespace Sample

/-- Whether the text at the end of a path is one that is looked for. -/
def searching (finds : String → Bool) (p : FieldPath) (v : Value) : Bool :=
  match p.get v with
  | .text s => finds s
  | _ => false

/-- How the sources answer a search for a pattern, whatever the case: entities are picked by their
folded texts, and rows by the lower case of ASCII letters, as long as storage takes the numbers of
the page. -/
structure FindsPattern (books : List Value) (form : TableForm) (q : PageQuery) (pattern : String)
    (p : FieldPath) : Prop where
  memory : ((memorySource books form).run q).map answer =
    answerOf books form (searching (foldedIn pattern) p) (keySorts form q) q
  stored : ((storedSource books form).run q).map answer = withinStorage q
    (answerOf books form (searching (Cell.textContains · pattern) p) (keySorts form q) q)
  /-- Rows show no more than entities do, unless a null character cuts the pattern short. -/
  narrower : '\x00' ∉ pattern.toList → ∀ v, searching (Cell.textContains · pattern) p v →
    searching (foldedIn pattern) p v
  alike : takesPage q → (∀ c ∈ pattern.toList, isPlain c) →
    (∀ v ∈ entitiesOf form.type books, ∀ s, p.get v = .text s → ∀ c ∈ s.toList, isPlain c) →
      ((storedSource books form).run q).map answer = ((memorySource books form).run q).map answer
  alike_iff : takesPage q → q.pageNumber = 1 → 1 ≤ q.pageSize →
    (entitiesOf form.type books).length ≤ q.pageSize →
      (((storedSource books form).run q).map answer =
          ((memorySource books form).run q).map answer ↔
        ∀ v ∈ entitiesOf form.type books, searching (Cell.textContains · pattern) p v =
          searching (foldedIn pattern) p v)

section

variable {books : List Value} {form : TableForm} {q : PageQuery} {c : FilterClause}
  {p : FieldPath}

theorem searching_mono {finds finds' : String → Bool} (h : ∀ s, finds s → finds' s)
    (p : FieldPath) (v : Value) (hv : searching finds p v) : searching finds' p v := by
  unfold searching at hv ⊢
  split at hv
  · exact h _ hv
  · cases hv

theorem searching_congr {finds finds' : String → Bool} {p : FieldPath} {v : Value}
    (h : ∀ s, p.get v = .text s → finds s = finds' s) :
    searching finds p v = searching finds' p v := by
  unfold searching
  split
  · next s hs => exact h s hs
  · rfl

/-- In memory a filter looks for its pattern in folded texts. -/
theorem holds_eq_searching {v : Value} (hop : c.operator = .ilike)
    (hv : Holds (.scalar .text) (p.get v)) (s : Schema) :
    BoundFilter.holds s ⟨c, p, .text c.value, false⟩ v =
      .ok (searching (foldedIn c.value) p v) := by
  rw [BoundFilter.holds, searching]
  generalize p.get v = text at hv
  rcases hv with rfl | hv
  · rfl
  · cases hv
    simp only [BoundFilter.test, hop]
    rfl

/-- In tables a filter looks for its pattern in the cells of texts. -/
theorem meetsCell_eq_searching {v : Value} (hv : Holds (.scalar .text) (p.get v))
    (pattern : String) :
    meetsCell .ilike (p.get v) (.text pattern) = searching (Cell.textContains · pattern) p v := by
  rw [searching]
  generalize p.get v = text at hv
  rcases hv with rfl | hv
  · rfl
  · cases hv with
    | text =>
      change (some _ == some true) = _
      rw [Option.some_beq_some, beq_true]
      rfl

namespace Searches

variable (hq : Searches form q c p) (h : Library books) (hform : form ∈ forms)
  (hp : p.valueType = .scalar .text)

include hq h hform hp

theorem holds_text {v : Value} (hv : v ∈ entitiesOf form.type books) :
    Holds (.scalar .text) (p.get v) := by
  have hholds := h.holds_get hform hv (hq.declares.leads hform)
  rwa [hp] at hholds

variable (hop : c.operator = .ilike)

include hop

theorem memory_searching : ((memorySource books form).run q).map answer =
    answerOf books form (searching (foldedIn c.value) p) (keySorts form q) q :=
  hq.memory_answer hform h (Schema.bindFilterTo_ilike hp hop) rfl fun _ hv =>
    holds_eq_searching hop (hq.holds_text h hform hp hv) schema

theorem stored_searching : ((storedSource books form).run q).map answer = withinStorage q
    (answerOf books form (searching (Cell.textContains · c.value) p) (keySorts form q) q) := by
  have haccepts : JoinTable.accepts ⟨c, p, .text c.value, false⟩ := by
    rw [JoinTable.accepts, hop]
  rw [hq.stored_answer hform h hp (Schema.bindFilterTo_ilike hp hop) rfl haccepts, hop]
  refine congrArg (withinStorage q) (answerOf_congr (fun v hv => ?_) _ _)
  exact meetsCell_eq_searching (hq.holds_text h hform hp hv) c.value

/-- On a first page for all entities both answers are the same if the texts are found alike. -/
theorem searching_alike_iff (hpage : takesPage q) (hfirst : q.pageNumber = 1)
    (hpositive : 1 ≤ q.pageSize) (hall : (entitiesOf form.type books).length ≤ q.pageSize) :
    ((storedSource books form).run q).map answer = ((memorySource books form).run q).map answer ↔
      ∀ v ∈ entitiesOf form.type books, searching (Cell.textContains · c.value) p v =
        searching (foldedIn c.value) p v := by
  rw [hq.memory_searching h hform hp hop, hq.stored_searching h hform hp hop,
    withinStorage_of_takesPage hpage]
  exact h.answerOf_eq_iff hform _ hfirst hpositive hall

end Searches

/-- Whatever the library, its entities in memory and their rows answer a search for a pattern in
texts as described: the ones by what folds alike, the others by the lower case of ASCII letters. -/
theorem Library.search_pattern (h : Library books) (hform : form ∈ forms)
    (hq : Searches form q c p) (hp : p.valueType = .scalar .text) (hop : c.operator = .ilike) :
    FindsPattern books form q c.value p := by
  have hmemory := hq.memory_searching h hform hp hop
  have hstored := hq.stored_searching h hform hp hop
  refine ⟨hmemory, hstored, fun hpattern v => ?_, fun hpage hpattern htexts => ?_,
    hq.searching_alike_iff h hform hp hop⟩
  · exact searching_mono (fun s => foldedIn_of_textContains hpattern) p v
  · rw [hmemory, hstored, withinStorage_of_takesPage hpage]
    refine answerOf_congr (fun v hv => searching_congr fun s hs => ?_) _ _
    exact textContains_eq_foldedIn hpattern (htexts v hv s hs)

end

/-! ## A title with an accent -/

/-- One book, whose title begins with an accented capital letter. -/
def accentedBooks : List Value := patch (books 1) 0 "title" (.text "École")

/-- Books whose title is the same but for the case. -/
def accentedClause : FilterClause := ⟨"Title", .ilike, "école"⟩

/-- The number that a key is. -/
def keyNumber : Value → Int
  | .int n => n
  | _ => 0

theorem library_accentedBooks : Library accentedBooks where
  keys := by
    intro form hform
    refine List.Nodup.of_map keyNumber ?_
    revert form
    decide
  described := by decide
  objects := by
    have hnodup : ∀ form ∈ forms,
        (((reached form.type accentedBooks).filter (!·.isNull)).map identity).Nodup := by
      decide
    intro form hform v hv w hw hv' hw' hid
    refine List.inj_on_of_nodup_map (hnodup form hform) (List.mem_filter.mpr ⟨hv, ?_⟩)
      (List.mem_filter.mpr ⟨hw, ?_⟩) hid
    · rw [hv']
      rfl
    · rw [hw']
      rfl

theorem searches_accented :
    Searches bookForm (searchFor accentedClause) accentedClause
      (columnPath "title" (.scalar .text)) :=
  searches_searchFor (by decide +kernel)

theorem accentedBooks_pattern :
    Library accentedBooks ∧ bookForm ∈ forms ∧
      Searches bookForm (searchFor accentedClause) accentedClause
        (columnPath "title" (.scalar .text)) ∧
      FindsPattern accentedBooks bookForm (searchFor accentedClause) accentedClause.value
        (columnPath "title" (.scalar .text)) :=
  ⟨library_accentedBooks, bookForm_mem, searches_accented,
    Library.search_pattern library_accentedBooks bookForm_mem searches_accented rfl rfl⟩

/-- The book is found in memory only. -/
theorem accentedBooks_unalike :
    ((storedSource accentedBooks bookForm).run (searchFor accentedClause)).map answer ≠
      ((memorySource accentedBooks bookForm).run (searchFor accentedClause)).map answer := by
  intro heq
  have hsame := (searches_accented.searching_alike_iff library_accentedBooks bookForm_mem rfl rfl
    (by decide) rfl (by decide) (by decide)).mp heq
  have hmissed : Cell.textContains "École" "école" = false := by
    rw [textContains_eq (by decide)]
    decide
  have hfound : foldedIn "école" "École" = true := by decide +kernel
  have hbook : Cell.textContains "École" "école" = foldedIn "école" "École" :=
    hsame _ List.mem_cons_self
  rw [hmissed, hfound] at hbook
  cases hbook

end Sample

end PagedQuery
