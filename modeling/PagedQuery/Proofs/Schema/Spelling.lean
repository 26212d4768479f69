import Mathlib.Tactic
import PagedQuery.Proofs.Schema.Closed
import PagedQuery.Proofs.Text.Dotted

/-!
# Spellings of paths

A table finds an attribute by its name, by its name with the first letter in upper case, and by its
name as one word. A path depends on its segments only up to their first letters. Where the
attributes of each type differ as words, every way to spell the attributes of a path leads to the
same path, and so does its key.
-/

namespace PagedQuery

open PagedQuery.Text

/-! ## Names as words -/

theorem normalizeProperty_append {a b : String} (ha : a ≠ "") :
    normalizeProperty (a ++ b) = normalizeProperty a ++ b := by
  rw [normalizeProperty, normalizeProperty, capitalize, capitalize, ← String.toList_inj,
    String.toList_append, String.toList_append, String.toList_ofList, String.toList_ofList]
  have hne : a.toList ≠ [] := fun h => ha (String.toList_inj.mp h)
  cases hcs : a.toList with
  | nil => exact (hne hcs).elim
  | cons c rest =>
    rw [List.cons_append, capitalizeChars_cons, capitalizeChars_cons, List.append_assoc]

theorem underscore_not_mem_pascalCase (name : String) : '_' ∉ (pascalCase name).toList := by
  rw [pascalCase, String.toList_join, List.mem_flatMap]
  rintro ⟨word, hword, hmem⟩
  obtain ⟨piece, hpiece, rfl⟩ := List.mem_map.mp hword
  exact separator_not_mem_normalizeProperty (by decide)
    (not_mem_of_mem_split (List.mem_of_mem_filter hpiece)) hmem

/-- A name without underscores is one word. -/
theorem pascalCase_of_not_mem {name : String} (h : '_' ∉ name.toList) :
    pascalCase name = normalizeProperty name := by
  have hsplit : split '_' name = [name] := by
    rw [split, splitChars_of_not_mem h, List.map_singleton, String.ofList_toList]
  by_cases hname : name = ""
  · subst hname
    rfl
  · simp [pascalCase, hsplit, hname, String.join_cons]

theorem pascalCase_normalizeProperty (name : String) :
    pascalCase (normalizeProperty name) = pascalCase name := by
  rw [pascalCase, pascalCase, split_normalizeProperty (by decide)]
  cases split '_' name with
  | nil => rfl
  | cons piece pieces =>
    by_cases hpiece : piece = ""
    · subst hpiece
      rfl
    · simp [hpiece, normalizeProperty_eq_empty_iff, normalizeProperty_normalizeProperty]

/-- A word begins with a capital letter already. -/
theorem normalizeProperty_pascalCase (name : String) :
    normalizeProperty (pascalCase name) = pascalCase name := by
  rw [pascalCase]
  cases hwords : (split '_' name).filter (· != "") with
  | nil => rfl
  | cons piece pieces =>
    have hmem : piece ∈ (split '_' name).filter (· != "") := hwords ▸ List.mem_cons_self
    have hpiece : normalizeProperty piece ≠ "" :=
      normalizeProperty_eq_empty_iff.not.mpr (by simpa using List.of_mem_filter hmem)
    rw [List.map_cons, String.join_cons, normalizeProperty_append hpiece,
      normalizeProperty_normalizeProperty]

theorem pascalCase_pascalCase (name : String) : pascalCase (pascalCase name) = pascalCase name := by
  rw [pascalCase_of_not_mem (underscore_not_mem_pascalCase name), normalizeProperty_pascalCase]

/-- The ways to write the name of an attribute in a path. -/
def Field.spellings (f : Field) : List String :=
  [f.name, normalizeProperty f.name, pascalCase f.name]

section Spellings

variable {f : Field} {segment : String}

theorem mem_spellings_iff : segment ∈ f.spellings ↔
    segment = f.name ∨ segment = normalizeProperty f.name ∨ segment = pascalCase f.name := by
  simp [Field.spellings]

/-- All spellings of a name give the same word. -/
theorem pascalCase_of_mem_spellings (h : segment ∈ f.spellings) :
    pascalCase segment = pascalCase f.name := by
  rcases mem_spellings_iff.mp h with rfl | rfl | rfl
  · rfl
  · exact pascalCase_normalizeProperty f.name
  · exact pascalCase_pascalCase f.name

theorem ne_empty_of_mem_spellings (hword : pascalCase f.name ≠ "") (h : segment ∈ f.spellings) :
    segment ≠ "" := by
  rintro rfl
  exact hword ((pascalCase_of_mem_spellings h).symm.trans rfl)

theorem dot_not_mem_pascalCase {name : String} (h : '.' ∉ name.toList) :
    '.' ∉ (pascalCase name).toList := by
  rw [pascalCase, String.toList_join, List.mem_flatMap]
  rintro ⟨word, hword, hmem⟩
  obtain ⟨piece, hpiece, rfl⟩ := List.mem_map.mp hword
  refine separator_not_mem_normalizeProperty (by decide) (fun hdot => h ?_) hmem
  rw [← intercalate_splitChars '_' name.toList]
  obtain ⟨cs, hcs, rfl⟩ := List.mem_map.mp (List.mem_of_mem_filter hpiece)
  exact mem_intercalate hcs (by simpa using hdot)

theorem dot_not_mem_of_mem_spellings (hdot : '.' ∉ f.name.toList) (h : segment ∈ f.spellings) :
    '.' ∉ segment.toList := by
  rcases mem_spellings_iff.mp h with rfl | rfl | rfl
  · exact hdot
  · exact dot_not_mem_normalizeProperty hdot
  · exact dot_not_mem_pascalCase hdot

end Spellings

/-! ## Tables -/

theorem lookup?_putNew {α : Type} (key other : String) (v : α) (entries : List (String × α)) :
    lookup? key (putNew other v entries) =
      (lookup? key entries).or (if other = key then some v else none) := by
  unfold putNew
  split
  · next hsome =>
    split
    · next heq =>
      obtain ⟨w, hw⟩ := Option.isSome_iff_exists.mp (heq ▸ hsome)
      rw [hw, Option.some_or]
    · rw [Option.or_none]
  · rw [lookup?_append]
    rfl

/-- Whether a key is one of the two names under which a table holds an attribute. -/
def isNamed (key : String) (a : String × Field) : Bool :=
  normalizeProperty a.1 == key || pascalCase a.1 == key

/-- A table finds the first attribute of a name. -/
theorem lookup?_fieldTable (key : String) (attributes : List (String × Field)) :
    lookup? key (fieldTable attributes) = (attributes.find? (isNamed key)).map (·.2) := by
  suffices h : ∀ start : List (String × Field),
      lookup? key (attributes.foldl (fun table a =>
        putNew (pascalCase a.1) a.2 (putNew (normalizeProperty a.1) a.2 table)) start) =
          (lookup? key start).or ((attributes.find? (isNamed key)).map (·.2)) from h []
  induction attributes with
  | nil => simp
  | cons a attributes ih =>
    intro start
    rw [List.foldl_cons, ih, lookup?_putNew, lookup?_putNew, List.find?_cons, Option.or_assoc,
      Option.or_assoc]
    congr 1
    by_cases hname : normalizeProperty a.1 = key
    · simp [isNamed, hname]
    by_cases hword : pascalCase a.1 = key
    · simp [isNamed, hname, hword]
    · have hnot : isNamed key a = false := by
        rw [isNamed, beq_false_of_ne hname, beq_false_of_ne hword, Bool.or_self]
      rw [if_neg hname, if_neg hword, Option.none_or, Option.none_or, hnot]

/-- Attributes that paths can tell apart: each name is one segment and has a word in it, and no two
of them give the same word. Names that agree up to their first letters give the same word, too. -/
structure SpelledApart (attributes : List (String × Field)) : Prop where
  dotless : ∀ a ∈ attributes, '.' ∉ a.1.toList
  word_ne_empty : ∀ a ∈ attributes, pascalCase a.1 ≠ ""
  nodup_words : (attributes.map fun a => pascalCase a.1).Nodup

/-- Every name of an attribute finds it. -/
theorem SpelledApart.find?_eq_some {attributes : List (String × Field)}
    (h : SpelledApart attributes) {a : String × Field} (ha : a ∈ attributes) {key : String}
    (hkey : isNamed key a) : attributes.find? (isNamed key) = some a := by
  have hword : ∀ {b : String × Field}, isNamed key b → pascalCase b.1 = pascalCase key := by
    intro b hb
    rcases Bool.or_eq_true_iff.mp hb with hb | hb
    · rw [← eq_of_beq hb, pascalCase_normalizeProperty]
    · rw [← eq_of_beq hb, pascalCase_pascalCase]
  obtain ⟨b, hb⟩ := Option.isSome_iff_exists.mp (List.find?_isSome.mpr ⟨a, ha, hkey⟩)
  have hsame : pascalCase b.1 = pascalCase a.1 :=
    (hword (List.find?_some hb)).trans (hword hkey).symm
  rw [hb, List.inj_on_of_nodup_map h.nodup_words (List.mem_of_find?_eq_some hb) ha hsame]

namespace Schema

variable {s : Schema} {mode : PathMode} {root type : FieldType}

theorem name_of_describe? {name : String} {declared : FieldType} {f : Field}
    (h : declared.describe? name = some f) : f.name = name := by
  unfold FieldType.describe? at h
  split at h
  · cases h
  · obtain rfl := Option.some.inj h
    split
    · split <;> rfl
    · rfl
    · rfl
    · rfl
    · rfl

/-- Attributes stand under their names. -/
theorem name_of_mem_attributes {name : String} {attributes : List (String × Field)}
    (h : s.attributes name = .ok attributes) {a : String × Field} (ha : a ∈ attributes) :
    a.2.name = a.1 := by
  unfold Schema.attributes at h
  split at h
  · cases h
    obtain ⟨f, -, rfl⟩ := List.mem_map.mp ha
    rfl
  · cases hd : s.resolvedDeclarations name with
    | error e =>
      rw [hd] at h
      cases h
    | ok declared =>
      rw [hd] at h
      cases h
      obtain ⟨⟨n, t⟩, -, hfield⟩ := List.mem_filterMap.mp ha
      obtain ⟨f, hf, rfl⟩ := Option.map_eq_some_iff.mp hfield
      have hdescribed : t.describe? n = some f := hf
      exact name_of_describe? hdescribed

/-- Whether the attributes of every type can be told apart. -/
def IsSpelledApart (s : Schema) : Prop :=
  ∀ name attributes, s.attributes name = .ok attributes → SpelledApart attributes

/-- A field that a table finds is found by all spellings of its name, and these are segments. -/
theorem IsSpelledApart.lookup (h : s.IsSpelledApart) {m : EntityModel} {segment : String}
    {f : Field} (hm : s.model type = .ok m) (hf : m.lookup segment = some f) {spelled : String}
    (hspelled : spelled ∈ f.spellings) :
    m.lookup spelled = some f ∧ spelled ≠ "" ∧ '.' ∉ spelled.toList := by
  obtain ⟨name, rfl, -⟩ := mem_fieldsAt_of_lookup hm hf
  rw [model_entity] at hm
  cases hattributes : s.attributes name with
  | error e =>
    rw [hattributes] at hm
    cases hm
  | ok attributes =>
    rw [hattributes] at hm
    cases hm
    have hapart := h name attributes hattributes
    rw [EntityModel.lookup, lookup?_fieldTable] at hf
    obtain ⟨a, ha, rfl⟩ := Option.map_eq_some_iff.mp hf
    have hmem := List.mem_of_find?_eq_some ha
    have hname : a.2.name = a.1 := name_of_mem_attributes hattributes hmem
    refine ⟨?_, ne_empty_of_mem_spellings (hname ▸ hapart.word_ne_empty a hmem) hspelled,
      dot_not_mem_of_mem_spellings (hname ▸ hapart.dotless a hmem) hspelled⟩
    have hkey : isNamed (normalizeProperty spelled) a := by
      unfold isNamed
      rcases mem_spellings_iff.mp hspelled with rfl | rfl | rfl
      · simp [hname]
      · simp [hname, normalizeProperty_normalizeProperty]
      · simp [hname, normalizeProperty_pascalCase]
    rw [EntityModel.lookup, lookup?_fieldTable, hapart.find?_eq_some hmem hkey, Option.map_some]

/-! ## Paths -/

/-- Tables are looked up by normalized names. -/
theorem fieldsOf?_map_normalizeProperty (segments : List String) :
    s.fieldsOf? mode type (segments.map normalizeProperty) = s.fieldsOf? mode type segments := by
  induction segments generalizing type with
  | nil => rfl
  | cons segment rest ih =>
    rw [List.map_cons, fieldsOf?, fieldsOf?]
    simp only [normalizeProperty_eq_empty_iff, EntityModel.lookup,
      normalizeProperty_normalizeProperty, List.map_eq_nil_iff, ih]

/-- A path is found by its normalized segments. -/
theorem resolve_congr {path other : String} (h : segments path = segments other) :
    s.resolve mode root path = s.resolve mode root other := by
  have hempty : ∀ {p : String}, p = "" ↔ segments p = [""] := by
    intro p
    constructor
    · rintro rfl
      rfl
    · intro hp
      obtain ⟨segment, hsegment, hnormal⟩ := List.map_eq_singleton_iff.mp hp
      rw [← intercalate_split p, hsegment, normalizeProperty_eq_empty_iff.mp hnormal]
      rfl
  have hfields :
      s.fieldsOf? mode root (split '.' path) = s.fieldsOf? mode root (split '.' other) := by
    rw [← fieldsOf?_map_normalizeProperty, ← fieldsOf?_map_normalizeProperty (split '.' other)]
    exact congrArg _ h
  unfold resolve
  simp only [hempty, h, hfields]

/-- The fields of a path are found by any spellings of their names, each of them a segment. -/
theorem IsSpelledApart.fieldsOf? (h : s.IsSpelledApart) {segments spelled : List String}
    {fields : List Field} (hfields : s.fieldsOf? mode type segments = .ok (some fields))
    (hspelled : List.Forall₂ (fun f segment => segment ∈ f.spellings) fields spelled) :
    s.fieldsOf? mode type spelled = .ok (some fields) ∧
      (∀ segment ∈ spelled, '.' ∉ segment.toList) ∧ (spelled = [] ↔ segments = []) := by
  induction segments generalizing type fields spelled with
  | nil =>
    cases hfields
    cases hspelled
    exact ⟨rfl, by simp, Iff.rfl⟩
  | cons segment rest ih =>
    obtain ⟨-, m, f, later, hm, hreachable, hf, rfl, hlater, hends⟩ :=
      fieldsOf?_cons_eq_some_iff.mp hfields
    obtain ⟨first, others, hfirst, hothers, rfl⟩ := List.forall₂_cons_left_iff.mp hspelled
    obtain ⟨hfound, hne, hdot⟩ := h.lookup hm hf hfirst
    obtain ⟨hlater', hdots, hnil⟩ := ih hlater hothers
    refine ⟨fieldsOf?_cons_eq_some_iff.mpr ⟨hne, m, f, later, hm, hreachable, hfound, rfl, hlater',
      fun hmode => ⟨(hends hmode).1, fun hend => (hends hmode).2 (hnil.mp hend)⟩⟩, ?_, by simp⟩
    exact List.forall_mem_cons.mpr ⟨hdot, hdots⟩

theorem IsSpelledApart.resolve (h : s.IsSpelledApart) {path : String} {p : FieldPath}
    (hp : s.resolve mode root path = .ok (some p)) {spelled : List String}
    (hspelled : List.Forall₂ (fun f segment => segment ∈ f.spellings) p.fields spelled) :
    s.resolve mode root (String.intercalate "." spelled) = .ok (some p) := by
  obtain ⟨hroot, hfields⟩ := resolve_eq_some_iff.mp hp
  obtain ⟨hfound, hdots, hnil⟩ := h.fieldsOf? hfields hspelled
  have hne : spelled ≠ [] := hnil.not.mpr (split_ne_nil '.' path)
  rw [resolve_eq_some_iff, split_intercalate hne hdots]
  exact ⟨hroot, hfound⟩

end Schema

/-- Whether the segments of a path begin with capital letters does not matter. Where the attributes
of each type can be told apart, a path that is found is found again when its segments are any
spellings of its attributes, and when they are those of its key. -/
theorem resolve_spellings (s : Schema) :
    (∀ mode root path, s.resolve mode root (normalizeProperty path) = s.resolve mode root path ∧
      s.resolve mode root (normalizePath path) = s.resolve mode root path) ∧
    (s.IsSpelledApart → ∀ mode root path p, s.resolve mode root path = .ok (some p) →
      (∀ spelled, List.Forall₂ (fun f segment => segment ∈ f.spellings) p.fields spelled →
        s.resolve mode root (String.intercalate "." spelled) = .ok (some p)) ∧
      s.resolve mode root p.key = .ok (some p)) := by
  constructor
  · intro mode root path
    exact ⟨Schema.resolve_congr (segments_normalizeProperty path),
      Schema.resolve_congr (segments_normalizePath path)⟩
  · intro h mode root path p hp
    refine ⟨fun spelled hspelled => h.resolve hp hspelled, h.resolve hp ?_⟩
    rw [List.forall₂_map_right_iff, List.forall₂_same]
    exact fun f _ => mem_spellings_iff.mpr (.inr (.inr rfl))

/-- Persons with an office, under names with several underscores and a letter whose upper case is
two letters. -/
def offices : Schema where
  stored := [
    ⟨"Person", [⟨"_first_name", .scalar .text, false, false⟩,
      ⟨"ßureau", .entity "Office", false, true⟩], none⟩,
    ⟨"Office", [⟨"__city__name", .scalar .text, false, false⟩], none⟩]

/-- The city of a person's office. -/
def officeCity : FieldPath :=
  ⟨.entity "Person", [⟨"ßureau", .entity "Office", false, true⟩,
    ⟨"__city__name", .scalar .text, false, false⟩]⟩

theorem offices_isSpelledApart : offices.IsSpelledApart := by
  intro name attributes h
  by_cases hperson : name = "Person"
  · subst hperson
    cases h
    exact ⟨by decide, by decide, by decide⟩
  by_cases hoffice : name = "Office"
  · subst hoffice
    cases h
    exact ⟨by decide, by decide, by decide⟩
  · have hstored : offices.stored? name = none := by
      simp [Schema.stored?, offices, Ne.symm hperson, Ne.symm hoffice]
    rw [Schema.attributes, hstored] at h
    cases h
    exact ⟨by decide, by decide, by decide⟩

theorem offices_spellings :
    offices.IsSpelledApart ∧
      offices.resolve .value (.entity "Person") "ßureau.cityName" = .ok (some officeCity) ∧
      offices.resolve .value (.entity "Person") "SSureau.__city__name" = .ok (some officeCity) ∧
      officeCity.key = "SSureau.CityName" ∧
      offices.resolve .value (.entity "Person") officeCity.key = .ok (some officeCity) := by
  have hfound : offices.resolve .value (.entity "Person") "ßureau.cityName" =
      .ok (some officeCity) := Schema.resolvesTo_iff.mp (by decide +kernel)
  obtain ⟨hspelled, hkey⟩ :=
    (resolve_spellings offices).2 offices_isSpelledApart .value _ _ _ hfound
  exact ⟨offices_isSpelledApart, hfound,
    hspelled ["SSureau", "__city__name"] (.cons (by decide) (.cons (by decide) .nil)),
    by decide, hkey⟩

end PagedQuery
