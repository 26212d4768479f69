import PagedQuery.Proofs.Coercion.Remembering

/-!
# Histories of conversions

Over any history of conversions, questions and clearings a conversion has the outcome that it has
with an empty cache, and the cache holds one converter for each type that had to be found out about
since it was last cleared, if it has one. Whether the conversions succeeded does not matter.
-/

namespace PagedQuery

open FieldType (same same_symm same_trans)

/-- A step on a cache. -/
inductive ConversionStep
  | convert (raw : String) (type : FieldType)
  /-- Asks whether the converter of a type is known. -/
  | ask (type : FieldType)
  | clear

namespace ConversionCache

/-- The cache after a step. -/
def step (c : ConversionCache) (s : Schema) : ConversionStep → ConversionCache
  | .convert raw t => (c.convert s raw t).2
  | .ask _ => c
  | .clear => {}

/-- The cache after a history that begins with an empty one. -/
def after (s : Schema) (steps : List ConversionStep) : ConversionCache :=
  steps.foldl (·.step s ·) {}

end ConversionCache

namespace Schema

variable {s : Schema} {t u : FieldType} {raw : String}

/-- The types that had to be found out about since the cache was last cleared, after a step. -/
def handedBy (s : Schema) (handed : List FieldType) : ConversionStep → List FieldType
  | .convert raw t => handed ++ s.handed raw t
  | .ask _ => handed
  | .clear => []

/-- The types that had to be found out about in a history since the cache was last cleared. -/
def handedSince (s : Schema) (steps : List ConversionStep) : List FieldType :=
  steps.foldl s.handedBy []

theorem exists_of_mem_handedInOrder {ts : List FieldType} (h : u ∈ s.handedInOrder raw ts) :
    ∃ t ∈ ts, u ∈ s.handed raw t := by
  induction ts with
  | nil => cases h
  | cons t ts ih =>
    rw [List.exists_mem_cons_iff]
    unfold handedInOrder at h
    split at h
    · exact .inr (ih h)
    · split at h
      · exact .inl h
      · exact (List.mem_append.mp h).imp_right ih

/-- Texts, untyped values, scalars with grammars and unions are never found out about. -/
theorem isDiscovered_of_mem_handed (h : u ∈ s.handed raw t) : u.isDiscovered := by
  have hdirect : ∀ {t : FieldType}, (∀ spelled members, t ≠ .union spelled members) →
      u ∈ s.handed raw t → u.isDiscovered := by
    intro t ht hu
    rw [handed_of_not_union ht] at hu
    split at hu
    · next hfound => exact List.mem_singleton.mp hu ▸ hfound
    · cases hu
  induction t using FieldType.induction_parts with
  | union spelled members ih =>
    unfold handed at h
    obtain ⟨t, ht, hu⟩ := exists_of_mem_handedInOrder h
    exact ih t ht hu
  | generic a c ts _ => exact hdirect (by simp) h
  | classWide t _ => exact hdirect (by simp) h
  | atom t ht =>
    refine hdirect ?_ h
    rintro spelled members rfl
    cases ht

end Schema

namespace ConversionCache

variable {s : Schema} {c : ConversionCache} {handed : List FieldType}

/-- A cache holds what some types had to be found out about. -/
structure Remembers (c : ConversionCache) (s : Schema) (handed : List FieldType) : Prop
    extends c.IsSound s where
  contains_iff : ∀ t, c.contains t ↔
    ∃ u ∈ handed, same u t ∧ ∃ converter, s.buildConverter u = .ok converter
  isDiscovered : ∀ u ∈ handed, u.isDiscovered

theorem remembers_empty (s : Schema) : Remembers {} s [] where
  toIsSound := isSound_empty s
  contains_iff _ := by simp [contains, find?]
  isDiscovered _ h := absurd h List.not_mem_nil

theorem Remembers.step (h : c.Remembers s handed) (step : ConversionStep) :
    (c.step s step).Remembers s (s.handedBy handed step) := by
  cases step with
  | convert raw t =>
    have hcache : c.step s (.convert raw t) = c.learn s (s.handed raw t) :=
      congrArg Prod.snd (convertFrom_eq h.toIsSound)
    rw [hcache]
    refine ⟨h.toIsSound.learn _, fun u => ?_, fun u hu => ?_⟩
    · rw [contains_learn, h.contains_iff]
      simp only [Schema.handedBy, List.mem_append, or_and_right, exists_or]
    · exact (List.mem_append.mp hu).elim (h.isDiscovered u) Schema.isDiscovered_of_mem_handed
  | ask t => exact h
  | clear => exact remembers_empty s

theorem remembers_after (s : Schema) (steps : List ConversionStep) :
    (after s steps).Remembers s (s.handedSince steps) := by
  induction steps using List.reverseRecOn with
  | nil => exact remembers_empty s
  | append_singleton steps step ih =>
    rw [after, Schema.handedSince, List.foldl_append, List.foldl_append]
    exact ih.step step

/-- There is at most one converter for a type. -/
theorem IsSound.countP_le_one (h : c.IsSound s) (t : FieldType) :
    c.types.countP (same · t) ≤ 1 := by
  have hapart := h.apart
  generalize c.types = types at hapart
  induction types with
  | nil => exact Nat.zero_le 1
  | cons u us ih =>
    obtain ⟨hu, hus⟩ := List.pairwise_cons.mp hapart
    rw [List.countP_cons]
    split
    · next hsame =>
      have hnone : us.countP (same · t) = 0 :=
        List.countP_eq_zero.mpr fun v hv hvt => hu v hv (same_trans hsame (same_symm hvt))
      omega
    · exact ih hus

/-- Nothing is known about types that are never found out about. -/
theorem Remembers.contains_eq_false (h : c.Remembers s handed) {t : FieldType}
    (ht : t.isDiscovered = false) : c.contains t = false := by
  by_contra hknown
  obtain ⟨u, hu, hsame, -⟩ := (h.contains_iff t).mp (by simpa using hknown)
  rw [← FieldType.isDiscovered_congr hsame, h.isDiscovered u hu] at ht
  cases ht

end ConversionCache

/-- A schema with shades. -/
def shades : Schema where
  enumerations := [⟨"Shade", .plain, [("RED", .int 1)], [("RED", "RED")]⟩]

/-- Texts as numbers or shades, of which the first is a number, the second a shade and the third
neither, after something that is forgotten. -/
def shadeSteps : List ConversionStep :=
  [.convert "red" .isbn, .clear,
    .convert "7" (.union true [.scalar .int, .enumeration "Shade", .code]),
    .convert "red" (.union true [.scalar .int, .enumeration "Shade", .code]),
    .ask .code, .convert "blue" (.enumeration "Shade")]

end PagedQuery
