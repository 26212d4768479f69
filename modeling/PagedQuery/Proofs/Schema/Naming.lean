import PagedQuery.Proofs.Schema.Spelling

/-!
# Attributes under their own names

A table gives a name to the first attribute that claims it, as its own name or as its word. Where
the names of attributes differ beyond their first letters, an attribute is found under its own name
unless the word of an attribute before it is the same. Only names with underscores give such words,
and an attribute with an underscore in its name is always found.
-/

namespace PagedQuery

open PagedQuery.Text

theorem underscore_mem_normalizeProperty {name : String} (h : '_' ∈ name.toList) :
    '_' ∈ (normalizeProperty name).toList := by
  rw [normalizeProperty, capitalize, String.toList_ofList]
  cases hname : name.toList with
  | nil =>
    rw [hname] at h
    cases h
  | cons c rest =>
    rw [hname] at h
    rw [capitalizeChars_cons, List.mem_append]
    rcases List.mem_cons.mp h with rfl | hrest
    · exact .inl (by decide)
    · exact .inr hrest

section Claims

variable {before after : List (String × Field)} {a b : String × Field}

/-- The attribute that a table finds under the name of an attribute: one before it whose word is
that name, or itself. -/
def claimant (before : List (String × Field)) (a : String × Field) : String × Field :=
  (before.find? fun b => pascalCase b.1 == normalizeProperty a.1).getD a

theorem find?_isNamed_append
    (h : ∀ b ∈ before, normalizeProperty b.1 ≠ normalizeProperty a.1) :
    (before ++ a :: after).find? (isNamed (normalizeProperty a.1)) = some (claimant before a) := by
  have hword : before.find? (isNamed (normalizeProperty a.1)) =
      before.find? fun b => pascalCase b.1 == normalizeProperty a.1 := by
    induction before with
    | nil => rfl
    | cons b before ih =>
      obtain ⟨hb, hbefore⟩ := List.forall_mem_cons.mp h
      rw [List.find?_cons, List.find?_cons, isNamed, beq_false_of_ne hb, Bool.false_or, ih hbefore]
  have hown : isNamed (normalizeProperty a.1) a := by simp [isNamed]
  rw [List.find?_append, hword, List.find?_cons, hown, claimant]
  cases before.find? fun b => pascalCase b.1 == normalizeProperty a.1 <;> rfl

theorem claimant_eq_iff (hnames : ∀ b ∈ before, b.2.name = b.1) (ha : a.2.name = a.1)
    (h : ∀ b ∈ before, normalizeProperty b.1 ≠ normalizeProperty a.1) :
    (claimant before a).2 = a.2 ↔ ∀ b ∈ before, pascalCase b.1 ≠ normalizeProperty a.1 := by
  rw [claimant]
  cases hfound : before.find? fun b => pascalCase b.1 == normalizeProperty a.1 with
  | none => simpa using hfound
  | some b =>
    have hb := List.mem_of_find?_eq_some hfound
    have hclaim : pascalCase b.1 = normalizeProperty a.1 := by
      simpa using List.find?_some hfound
    refine iff_of_false (fun heq => h b hb ?_) fun hall => hall b hb hclaim
    rw [Option.getD_some] at heq
    rw [← hnames b hb, heq, ha]

/-- A name that stands in the way has an underscore. -/
theorem underscore_mem_of_claims (hne : normalizeProperty b.1 ≠ normalizeProperty a.1)
    (hclaim : pascalCase b.1 = normalizeProperty a.1) : '_' ∈ b.1.toList := by
  by_contra hword
  exact hne ((pascalCase_of_not_mem hword).symm.trans hclaim)

end Claims

/-- The identifier of a class is what it finds under one name. -/
theorem Schema.model_of_class {s : Schema} {name : String} {attributes : List (String × Field)}
    (hclass : s.stored? name = none) (hattributes : s.attributes name = .ok attributes) :
    s.model (.entity name) = .ok ⟨.entity name, fieldTable attributes,
      lookup? "Id" (fieldTable attributes)⟩ := by
  rw [model_entity, hattributes, hclass]
  rfl

/-- An attribute of a class none of whose attributes before it has the same name up to the first
letter: its name finds the first attribute before it whose word is that name, and itself if there is
none. What stands in its way has an underscore in its name, and nothing does if it has one itself.
An attribute `id` is the identifier under the same condition. -/
theorem lookup_first_claim {s : Schema} {name : String} (hclass : s.stored? name = none)
    {before after : List (String × Field)} {a : String × Field}
    (hattributes : s.attributes name = .ok (before ++ a :: after))
    (hunlike : ∀ b ∈ before, normalizeProperty b.1 ≠ normalizeProperty a.1) :
    ∃ m, s.model (.entity name) = .ok m ∧
      m.lookup a.1 = some (claimant before a).2 ∧
      (m.lookup a.1 = some a.2 ↔ ∀ b ∈ before, pascalCase b.1 ≠ normalizeProperty a.1) ∧
      (∀ b ∈ before, pascalCase b.1 = normalizeProperty a.1 → '_' ∈ b.1.toList) ∧
      ('_' ∈ a.1.toList → m.lookup a.1 = some a.2) ∧
      (a.1 = "id" → (m.identifier = some a.2 ↔ ∀ b ∈ before, pascalCase b.1 ≠ "Id")) := by
  have hnames : ∀ b ∈ before ++ a :: after, b.2.name = b.1 := fun _ hb =>
    Schema.name_of_mem_attributes hattributes hb
  have heq : (claimant before a).2 = a.2 ↔
      ∀ b ∈ before, pascalCase b.1 ≠ normalizeProperty a.1 :=
    claimant_eq_iff (fun b hb => hnames b (List.mem_append_left _ hb)) (hnames a (by simp)) hunlike
  have hfind : lookup? (normalizeProperty a.1) (fieldTable (before ++ a :: after)) =
      some (claimant before a).2 := by
    rw [lookup?_fieldTable, find?_isNamed_append hunlike, Option.map_some]
  refine ⟨_, Schema.model_of_class hclass hattributes, hfind, ?_, ?_, ?_, ?_⟩
  · rw [EntityModel.lookup, hfind, Option.some.injEq, heq]
  · exact fun b hb => underscore_mem_of_claims (hunlike b hb)
  · intro hunderscore
    rw [EntityModel.lookup, hfind, Option.some.injEq, heq]
    intro b _ hclaim
    exact underscore_not_mem_pascalCase b.1
      (hclaim ▸ underscore_mem_normalizeProperty hunderscore)
  · intro hid
    have hkey : normalizeProperty a.1 = "Id" := by rw [hid]; decide
    rw [hkey] at hfind heq
    rw [hfind, Option.some.injEq, heq]

/-- A class of accounts with some fields. -/
def accounts (fields : List (String × FieldType)) : Schema where
  types := [⟨"Account", fields, [], .plain, []⟩]

/-- An account has an identifier, and a name that does not take its place. -/
theorem accounts_first_claim :
    let s := accounts [("id_card", .scalar .text), ("id", .scalar .int), ("id_", .scalar .text)]
    let before : List (String × Field) := [("id_card", ⟨"id_card", .scalar .text, false, false⟩)]
    s.stored? "Account" = none ∧
      s.attributes "Account" = .ok (before ++ ("id", ⟨"id", .scalar .int, false, false⟩) ::
        [("id_", ⟨"id_", .scalar .text, false, false⟩)]) ∧
      (∀ b ∈ before, normalizeProperty b.1 ≠ normalizeProperty "id") ∧
      ∃ m, s.model (.entity "Account") = .ok m ∧
        m.lookup "id" = some ⟨"id", .scalar .int, false, false⟩ ∧
        m.identifier = some ⟨"id", .scalar .int, false, false⟩ := by
  intro s before
  have hclass : s.stored? "Account" = none := rfl
  have hattributes : s.attributes "Account" =
      .ok (before ++ ("id", ⟨"id", .scalar .int, false, false⟩) ::
        [("id_", ⟨"id_", .scalar .text, false, false⟩)]) := rfl
  have hunlike : ∀ b ∈ before, normalizeProperty b.1 ≠ normalizeProperty "id" := by decide
  obtain ⟨m, hm, -, hlookup, -, -, hidentifier⟩ := lookup_first_claim hclass hattributes hunlike
  exact ⟨hclass, hattributes, hunlike, m, hm, hlookup.mpr (by decide),
    (hidentifier rfl).mpr (by decide)⟩

/-- An attribute with an underscore after its name is found under the name of the attribute that is
declared after it, and is the identifier in its place. -/
theorem accounts_shadowed :
    let s := accounts [("id_", .scalar .text), ("id", .scalar .int)]
    s.attributes "Account" = .ok [("id_", ⟨"id_", .scalar .text, false, false⟩),
        ("id", ⟨"id", .scalar .int, false, false⟩)] ∧
      normalizeProperty "id_" ≠ normalizeProperty "id" ∧
      ∃ m, s.model (.entity "Account") = .ok m ∧
        m.lookup "id" = some ⟨"id_", .scalar .text, false, false⟩ ∧
        m.identifier = some ⟨"id_", .scalar .text, false, false⟩ :=
  ⟨rfl, by decide, _, rfl, by decide, by decide⟩

end PagedQuery
