import PagedQuery.Proofs.Sources.Partition
import PagedQuery.Proofs.Text.Folding

/-!
# Patterns with and without letter case

A filter for a pattern looks at the text of a value that is there. What such a text contains it
contains after case folding as well, however many characters folding makes of one. So the filter
that ignores letter case finds all that the other one finds, and depends on folded texts only.
-/

namespace PagedQuery

open PagedQuery.Text

/-- Whether a text contains a pattern in the eyes of an operator. -/
def FilterOperator.finds (op : FilterOperator) (pattern text : String) : Bool :=
  match op with
  | .ilike => foldedIn pattern text
  | _ => occursIn pattern.toList text.toList

theorem FilterOperator.finds_ilike {pattern text : String}
    (h : FilterOperator.like.finds pattern text) : FilterOperator.ilike.finds pattern text :=
  foldedIn_of_isInfix (occursIn_iff.mp h) rfl rfl

section Patterns

variable {s : Schema} {root : FieldType} {property pattern : String} {path : FieldPath}
  {op : FilterOperator}

/-- A pattern is bound to a field of texts as it is. -/
theorem bindFilter_pattern (hpath : s.resolve .value root property = .ok (some path))
    (htext : s.holdsText path.valueType) (hop : op.isPattern) (pattern : String) :
    s.bindFilter root ⟨property, op, pattern⟩ =
      .ok (some ⟨⟨property, op, pattern⟩, path, .text pattern, false⟩) := by
  simp [Schema.bindFilter, hpath, Schema.bindFilterTo, hop, htext, Except.map]

/-- A value that is there answers by its text. -/
theorem accepts_pattern (hpath : s.resolve .value root property = .ok (some path))
    (htext : s.holdsText path.valueType) (hop : op.isPattern) (pattern : String) (x : Value) :
    s.accepts root [⟨property, op, pattern⟩] x =
      if (path.get x).isNull then .ok false else (path.get x).written.map (op.finds pattern) := by
  rw [Schema.accepts_singleton (bindFilter_pattern hpath htext hop pattern), BoundFilter.holds]
  refine if_congr Iff.rfl rfl ?_
  cases op with
  | compare op => cases hop
  | like => rfl
  | ilike => rfl

theorem accepts_pattern_eq_ok_true_iff (hpath : s.resolve .value root property = .ok (some path))
    (htext : s.holdsText path.valueType) (hop : op.isPattern) {x : Value} :
    s.accepts root [⟨property, op, pattern⟩] x = .ok true ↔ (path.get x).isNull = false ∧
      ∃ text, (path.get x).written = .ok text ∧ op.finds pattern text := by
  rw [accepts_pattern hpath htext hop]
  cases (path.get x).isNull with
  | true => simp
  | false => cases (path.get x).written <;> simp [Except.map]

/-! ## Items -/

variable {c : FilterClause} {b : BoundFilter} {items : List Value} {size : ℤ} {page : Page Value}

/-- A filter that has an answer for all items gives those that it accepts. -/
theorem run_of_answers (hbind : s.bindFilter root c = .ok (some b))
    (hanswers : ∀ x ∈ items, ∃ r, s.accepts root [c] x = .ok r) (hsize : 1 ≤ size)
    (hlength : (items.length : ℤ) ≤ size) :
    ∃ page, (Source.memory { schema := s, root, items }).run
        { filters := [c], pageSize := size } = .ok page ∧
      page.elements = items.filter fun x => accepted (s.accepts root [c] x) := by
  let source : MemorySource := { schema := s, root, items }
  have hholds : ∀ x ∈ items, b.holds s x = .ok (accepted (s.accepts root [c] x)) := by
    intro x hx
    obtain ⟨r, hr⟩ := hanswers x hx
    rw [← Schema.accepts_singleton hbind, hr]
    rfl
  have hplan := Schema.compile_of_bindFilter hbind 1 size
  have hrun := run_singleton (s := source) hplan rfl rfl hholds
  have hfit : ((items.filter fun x => accepted (s.accepts root [c] x)).length : ℤ) ≤ size :=
    (Int.ofNat_le.mpr (List.length_filter_le _ _)).trans hlength
  rw [paginate_eq _ hsize le_rfl] at hrun
  exact ⟨_, hrun, pagePart_one _ hfit⟩

/-- A filter has an answer for all items of a page that is found. -/
theorem answers_of_run (hbind : s.bindFilter root c = .ok (some b))
    (h : (Source.memory { schema := s, root, items }).run
      { filters := [c], pageSize := size } = .ok page) :
    1 ≤ size ∧ ∀ x ∈ items, ∃ r, s.accepts root [c] x = .ok r := by
  let source : MemorySource := { schema := s, root, items }
  obtain ⟨plan, matched, ordered, hplan, hmatched, -, hsize⟩ :=
    run_first (s := source) (q := { filters := [c], pageSize := size }) h
  cases hplan.symm.trans (Schema.compile_of_bindFilter hbind 1 size)
  rw [MemorySource.matching_eq_keep, source.prepared_filters, source.prepared_items,
    source.prepared_schema] at hmatched
  refine ⟨hsize, fun x hx => ?_⟩
  obtain ⟨r, hr⟩ := (MemorySource.keep_eq hmatched).2 x hx
  exact ⟨r, (Schema.accepts_singleton hbind).trans ((allHold_singleton b).symm.trans hr)⟩

/-- What a filter for a pattern finds, the filter that ignores letter case finds as well. More
generally, if a text contains a pattern, this filter finds by every pattern that folds alike all
items whose text folds alike. Neither filter finds an item whose value is missing, or whose path
leads over something missing. -/
theorem like_within_ilike (hpath : s.resolve .value root property = .ok (some path))
    (htext : s.holdsText path.valueType) :
    (∀ pattern x, s.accepts root [⟨property, .like, pattern⟩] x = .ok true →
      s.accepts root [⟨property, .ilike, pattern⟩] x = .ok true) ∧
    (∀ pattern text : String, pattern.toList <:+: text.toList →
      ∀ pattern', fold pattern' = fold pattern → ∀ x text', (path.get x).isNull = false →
        (path.get x).written = .ok text' → fold text' = fold text →
          s.accepts root [⟨property, .ilike, pattern'⟩] x = .ok true) ∧
    (∀ x before after, path.fields = before ++ after → (FieldPath.follow before x).isNull →
      ∀ pattern, s.accepts root [⟨property, .like, pattern⟩] x = .ok false ∧
        s.accepts root [⟨property, .ilike, pattern⟩] x = .ok false) ∧
    ∀ (items : List Value) pattern size page, (items.length : ℤ) ≤ size →
      (Source.memory { schema := s, root, items }).run
        { filters := [⟨property, .like, pattern⟩], pageSize := size } = .ok page →
      ∃ page', (Source.memory { schema := s, root, items }).run
          { filters := [⟨property, .ilike, pattern⟩], pageSize := size } = .ok page' ∧
        page.elements.Sublist page'.elements := by
  have hfound : ∀ pattern x, s.accepts root [⟨property, .like, pattern⟩] x = .ok true →
      s.accepts root [⟨property, .ilike, pattern⟩] x = .ok true := by
    intro pattern x h
    obtain ⟨hthere, text, hwritten, hfinds⟩ :=
      (accepts_pattern_eq_ok_true_iff hpath htext rfl).mp h
    exact (accepts_pattern_eq_ok_true_iff hpath htext rfl).mpr
      ⟨hthere, text, hwritten, FilterOperator.finds_ilike hfinds⟩
  refine ⟨hfound, ?_, ?_, ?_⟩
  · intro pattern text hinfix pattern' hpattern x text' hthere hwritten hfold
    exact (accepts_pattern_eq_ok_true_iff hpath htext rfl).mpr
      ⟨hthere, text', hwritten, foldedIn_of_isInfix hinfix hpattern hfold⟩
  · intro x before after hfields hnull pattern
    have hget : path.get x = .null := by
      rw [FieldPath.get, hfields, FieldPath.follow_append_eq_null hnull]
    rw [accepts_pattern hpath htext rfl, accepts_pattern hpath htext rfl, hget]
    exact ⟨rfl, rfl⟩
  · intro items pattern size page hlength hpage
    have hlike : s.bindFilter root ⟨property, .like, pattern⟩ = _ :=
      bindFilter_pattern hpath htext rfl pattern
    have hilike : s.bindFilter root ⟨property, .ilike, pattern⟩ = _ :=
      bindFilter_pattern hpath htext rfl pattern
    obtain ⟨hsize, hanswers⟩ := answers_of_run hlike hpage
    have hanswers' : ∀ x ∈ items, ∃ r, s.accepts root [⟨property, .ilike, pattern⟩] x = .ok r := by
      intro x hx
      obtain ⟨r, hr⟩ := hanswers x hx
      rw [accepts_pattern hpath htext rfl] at hr ⊢
      split at hr
      · exact ⟨false, if_pos ‹_›⟩
      · rw [if_neg ‹_›]
        cases hwritten : (path.get x).written with
        | ok text => exact ⟨_, rfl⟩
        | error e =>
          rw [hwritten] at hr
          cases hr
    obtain ⟨page₁, hpage₁, helements⟩ := run_of_answers hlike hanswers hsize hlength
    obtain ⟨page', hpage', helements'⟩ := run_of_answers hilike hanswers' hsize hlength
    cases hpage.symm.trans hpage₁
    refine ⟨page', hpage', ?_⟩
    rw [helements, helements']
    refine List.monotone_filter_right items fun x hx => ?_
    have hyes := hfound pattern x (accepted_iff.mp hx)
    rw [hyes]
    rfl

end Patterns

def kindPath : FieldPath where
  root := .entity "Note"
  fields := [⟨"kind", .scalar .text, false, false⟩]

/-- A sharp s folds as two letters. -/
theorem fussball_like_within_ilike :
    notes.resolve .value (.entity "Note") "Kind" = .ok (some kindPath) ∧
      notes.holdsText kindPath.valueType ∧
      notes.accepts (.entity "Note") [⟨"Kind", .like, "uß"⟩] (note 1 "Fußball" .null) = .ok true ∧
      notes.accepts (.entity "Note") [⟨"Kind", .ilike, "uß"⟩] (note 1 "Fußball" .null) = .ok true ∧
      notes.accepts (.entity "Note") [⟨"Kind", .ilike, "Uss"⟩] (note 2 "FUSSBALL" .null) =
        .ok true := by
  have hpath : notes.resolve .value (.entity "Note") "Kind" = .ok (some kindPath) := rfl
  have hlike : notes.accepts (.entity "Note") [⟨"Kind", .like, "uß"⟩] (note 1 "Fußball" .null) =
      .ok true := rfl
  have hinfix : "uß".toList <:+: "Fußball".toList := ⟨['F'], "ball".toList, by decide⟩
  obtain ⟨hfound, hfolded, -⟩ := like_within_ilike hpath rfl
  exact ⟨hpath, rfl, hlike, hfound _ _ hlike, hfolded "uß" "Fußball" hinfix "Uss" (by decide)
    (note 2 "FUSSBALL" .null) "FUSSBALL" rfl rfl (by decide)⟩

end PagedQuery
