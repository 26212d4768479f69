import PagedQuery.Proofs.Text.Split
import PagedQuery.Schema.Expression

/-!
# Names that are not known

An expression knows some names of its own and none of the types of a schema. A text that is a name
of another kind has no meaning as a type.
-/

namespace PagedQuery.Expression

open PagedQuery.Text

/-- A text without spread items or zero characters is read as it is. -/
theorem parse_of_term? {source : String} {term : Term} (hne : source ≠ "")
    (hzero : source.toList.contains '\x00' = false) (hspread : source.toList.head? ≠ some '*')
    (hterm : term? source = some term) : parse source = .ok term := by
  have hspelled : spelledOut source = source := if_neg hspread
  rw [parse, if_neg hne, hzero, if_neg Bool.false_ne_true, hspelled, hterm]

theorem meaningOf_of_unknown {name : String} (h : named? name = none) :
    meaningOf (.name name) = .error .meaningless := by
  rw [meaningOf, depthLimit, evaluate]
  simp only [StateT.run', bind, StateT.bind, get, getThe, MonadStateOf.get, StateT.get,
    Scope.find?, h]
  rfl

/-- A text that is a name which is not known has no meaning. -/
theorem typeOf_of_unknown {source name : String} (hterm : parse source = .ok (.name name))
    (hunknown : named? name = none) : typeOf source = .error .meaningless := by
  rw [typeOf, typeWithin, hterm]
  simp only [bind, Except.bind, meaningOf_of_unknown hunknown]

/-! ## The name of a type of a schema

The lists of known names are long texts, which are taken apart as lists of characters. -/

theorem author_not_mem_faultClasses : "Author" ∉ faultClasses := by
  rw [faultClasses, mem_split_iff]
  simp only [String.toList_append]
  repeat rw [String.toList_ofList]
  decide

theorem author_not_mem_otherClasses : "Author" ∉ otherClasses := by
  rw [otherClasses, mem_split_iff]
  simp only [String.toList_append]
  repeat rw [String.toList_ofList]
  decide

theorem author_not_mem_functions : "Author" ∉ functions := by
  rw [functions, mem_split_iff]
  simp only [String.toList_append]
  repeat rw [String.toList_ofList]
  decide

theorem class?_author : class? "Author" = none := by
  have hforeign : ¬ (faultClasses.contains "Author" ∨ otherClasses.contains "Author") := by
    rw [List.contains_iff_mem, List.contains_iff_mem]
    exact not_or.mpr ⟨author_not_mem_faultClasses, author_not_mem_otherClasses⟩
  generalize hname : "Author" = name at hforeign ⊢
  unfold class?
  split
  -- Fourteen classes are known by names that are listed one by one.
  iterate 14 exact absurd hname (by decide)
  exact if_neg hforeign

theorem named?_author : named? "Author" = none := by
  have hclass := class?_author
  have hfunction : ¬ functions.contains "Author" := by
    rw [List.contains_iff_mem]
    exact author_not_mem_functions
  generalize hname : "Author" = name at hclass hfunction ⊢
  unfold named?
  split
  -- So are eighteen values.
  iterate 18 exact absurd hname (by decide)
  rw [hclass]
  exact if_neg hfunction

theorem parse_author : parse "Author" = .ok (.name "Author") :=
  parse_of_term? (by decide) (by decide) (by decide) rfl

theorem typeOf_author : typeOf "Author" = .error .meaningless :=
  typeOf_of_unknown parse_author named?_author

end PagedQuery.Expression
