import Mathlib.Tactic
import PagedQuery.Coercion.Cache
import PagedQuery.Proofs.Schema.Sameness

/-!
# Remembered converters

A conversion that looks at a cache has the outcome of one that does not, and leaves behind the
converters of the types that it had to find out about. A union hands its members on in order, up to
the first that reads the text.
-/

namespace PagedQuery

open FieldType (same same_symm same_trans)

namespace Schema

variable {s : Schema} {t u : FieldType} {raw : String}

/-! ## Converters -/

/-- The ways to write one type have one converter. -/
theorem buildConverter_congr (h : same t u) : s.buildConverter t = s.buildConverter u := by
  rcases FieldType.same_cases h with
    ⟨_, _, _, _, rfl, rfl⟩ | ⟨_, _, _, _, _, _, rfl, rfl⟩ | ⟨_, _, rfl, rfl⟩ | rfl
  · rfl
  · obtain ⟨rfl, rfl, -⟩ := FieldType.same_generic_iff.mp h
    rfl
  · rfl
  · rfl

theorem apply_ofReader (read : String → Except ConversionError Value) :
    (Converter.ofReader read).apply raw t = (read raw).mapError fun e => .conversion raw t e := by
  unfold Converter.apply Converter.ofReader
  cases read raw <;> rfl

/-- A converter that has been found out makes the values of its type. -/
theorem apply_of_buildConverter (ht : ∀ spelled members, t ≠ .union spelled members)
    {converter : Converter} (h : s.buildConverter t = .ok converter) :
    converter.apply raw t = s.convert raw t := by
  rw [convert_of_not_union ht]
  unfold buildConverter at h
  split at h
  · obtain rfl := Except.ok.inj h
    unfold Converter.apply Converter.wrapped read
    cases Scalar.readInteger raw with
    | error e => rfl
    | ok v => cases v <;> rfl
  · cases h
  · cases h
  · cases h
  · cases h
  · next hwrapped _ _ _ _ =>
    obtain rfl := Except.ok.inj h
    have htarget : failureTarget t = t := by
      unfold failureTarget
      split
      · exact (hwrapped rfl).elim
      · rfl
    rw [apply_ofReader, htarget]

/-- Where there is no converter to find out, there is nothing else that makes values. -/
theorem convert_of_buildConverter {e : ConversionError} (h : s.buildConverter t = .error e) :
    s.convert raw t = .error (.conversion raw t e) := by
  unfold buildConverter at h
  split at h <;> cases h <;> rfl

theorem convert_of_takesText (h : t.takesText) : s.convert raw t = .ok (.text raw) := by
  unfold FieldType.takesText at h
  split at h
  · rfl
  · rfl
  · rfl
  · cases h

theorem apply_of_grammar? {converter : Converter} (h : t.grammar? = some converter) :
    converter.apply raw t = s.convert raw t := by
  unfold FieldType.grammar? at h
  split at h
  · cases h
  · cases h
  · cases h
    rw [apply_ofReader, convert_of_not_union (by simp)]
    rfl
  · cases h

end Schema

/-! ## Caches -/

namespace ConversionCache

variable {s : Schema} {c : ConversionCache} {t u : FieldType} {raw : String}

/-- A cache of converters that have been found out, one for each type. -/
structure IsSound (c : ConversionCache) (s : Schema) : Prop where
  built : ∀ e ∈ c.entries, s.buildConverter e.1 = .ok e.2
  apart : c.types.Pairwise fun t u => ¬ same t u

theorem isSound_empty (s : Schema) : IsSound {} s :=
  ⟨fun _ h => absurd h List.not_mem_nil, .nil⟩

theorem contains_iff : c.contains t ↔ ∃ u ∈ c.types, same u t := by
  simp [contains, find?, types]

theorem IsSound.find?_eq_some (h : c.IsSound s) {converter : Converter}
    (hfind : c.find? t = some converter) : s.buildConverter t = .ok converter := by
  obtain ⟨e, he, rfl⟩ := Option.map_eq_some_iff.mp hfind
  have hsame : same e.1 t := by simpa using List.find?_some he
  rw [← Schema.buildConverter_congr hsame]
  exact h.built e (List.mem_of_find?_eq_some he)

/-- The converter of a type is the one that is found out, whether it was known or not. -/
theorem IsSound.converter_fst (h : c.IsSound s) (t : FieldType) :
    (c.converter s t).1 = s.buildConverter t := by
  unfold converter
  split
  · next converter hfind => exact (h.find?_eq_some hfind).symm
  · split
    · next hbuild => exact hbuild.symm
    · next hbuild => exact hbuild.symm

theorem IsSound.converter_snd (h : c.IsSound s) (t : FieldType) :
    (c.converter s t).2.IsSound s := by
  unfold converter
  split
  · exact h
  · next hfind =>
    split
    · next converter hbuild =>
      have hnew : ¬ c.contains t := by simp [contains, hfind]
      constructor
      · intro e he
        rcases List.mem_append.mp he with he | he
        · exact h.built e he
        · rw [List.mem_singleton.mp he]
          exact hbuild
      · rw [types, List.map_append, List.map_singleton, List.pairwise_append]
        refine ⟨h.apart, List.pairwise_singleton _ _, fun u hu v hv hsame => hnew ?_⟩
        rw [List.mem_singleton.mp hv] at hsame
        exact contains_iff.mpr ⟨u, hu, hsame⟩
    · exact h

/-- Looking for the converter of a type adds this type, if it has one. -/
theorem contains_converter : (c.converter s t).2.contains u ↔
    c.contains u ∨ same t u ∧ ∃ converter, s.buildConverter t = .ok converter := by
  unfold converter
  split
  · next converter hfind =>
    have hknown : c.contains t := by simp [contains, hfind]
    refine ⟨.inl, fun h => h.elim id fun ⟨hsame, _⟩ => ?_⟩
    obtain ⟨v, hv, hvt⟩ := contains_iff.mp hknown
    exact contains_iff.mpr ⟨v, hv, same_trans hvt hsame⟩
  · split
    · next converter hbuild => simp [contains_iff, types, or_and_right, exists_or, hbuild]
    · next e hbuild => simp [hbuild]

/-- The cache after the converters of some types have been looked for. -/
def learn (c : ConversionCache) (s : Schema) (ts : List FieldType) : ConversionCache :=
  ts.foldl (fun c t => (c.converter s t).2) c

theorem learn_append (c : ConversionCache) (s : Schema) (ts us : List FieldType) :
    c.learn s (ts ++ us) = (c.learn s ts).learn s us := List.foldl_append

theorem IsSound.learn (h : c.IsSound s) (ts : List FieldType) : (c.learn s ts).IsSound s := by
  induction ts generalizing c with
  | nil => exact h
  | cons t ts ih => exact ih (h.converter_snd t)

theorem contains_learn {ts : List FieldType} : (c.learn s ts).contains u ↔
    c.contains u ∨ ∃ t ∈ ts, same t u ∧ ∃ converter, s.buildConverter t = .ok converter := by
  induction ts generalizing c with
  | nil => simp [ConversionCache.learn]
  | cons t ts ih =>
    rw [ConversionCache.learn, List.foldl_cons]
    refine ih.trans ?_
    simp only [contains_converter, or_assoc, List.mem_cons, exists_eq_or_imp]

end ConversionCache

/-! ## Conversions -/

/-- Whether the converter of a type has to be found out: texts are no values of it as they stand,
and it is no scalar with a grammar and no union. -/
def FieldType.isDiscovered : FieldType → Bool
  | .union .. => false
  | t => !t.takesText && t.grammar?.isNone

theorem FieldType.isDiscovered_congr {t u : FieldType} (h : same t u) :
    t.isDiscovered = u.isDiscovered := by
  rcases FieldType.same_cases h with
    ⟨_, _, _, _, rfl, rfl⟩ | ⟨_, _, _, _, _, _, rfl, rfl⟩ | ⟨_, _, rfl, rfl⟩ | rfl <;> rfl

mutual
/-- The types whose converters a conversion has to find out: the type that is asked for, and of
several types those up to the first that reads the text, this one included. -/
def Schema.handed (s : Schema) (raw : String) : FieldType → List FieldType
  | .union _ members => s.handedInOrder raw members
  | t => if t.isDiscovered then [t] else []
def Schema.handedInOrder (s : Schema) (raw : String) : List FieldType → List FieldType
  | [] => []
  | t :: ts =>
    if t == .nothing then s.handedInOrder raw ts
    else
      match s.convert raw t with
      | .ok _ => s.handed raw t
      | .error _ => s.handed raw t ++ s.handedInOrder raw ts
end

theorem FieldType.isDiscovered_of_not_union {t : FieldType}
    (ht : ∀ spelled members, t ≠ .union spelled members) :
    t.isDiscovered = (!t.takesText && t.grammar?.isNone) := by
  unfold FieldType.isDiscovered
  split
  · exact (ht _ _ rfl).elim
  · rfl

theorem Schema.handed_of_not_union {s : Schema} {t : FieldType} {raw : String}
    (ht : ∀ spelled members, t ≠ .union spelled members) :
    s.handed raw t = if t.isDiscovered then [t] else [] := by
  unfold Schema.handed
  split
  · exact (ht _ _ rfl).elim
  · rfl

namespace ConversionCache

variable {s : Schema} {c : ConversionCache} {t : FieldType} {raw : String}

/-- No cache takes part where a type has a grammar of its own. -/
theorem convert_of_grammar? (c : ConversionCache) {converter : Converter}
    (h : t.grammar? = some converter) : c.convert s raw t = (converter.apply raw t, c) := by
  have htext : t.takesText = false := by
    unfold FieldType.grammar? at h
    unfold FieldType.takesText
    split at h <;> simp_all
  unfold convert convertFrom
  split
  · cases h
  · simp only [htext, h, Bool.false_eq_true, if_false]

theorem convertFrom_of_not_union (h : c.IsSound s)
    (ht : ∀ spelled members, t ≠ .union spelled members) :
    convertFrom s raw t c = (s.convert raw t, c.learn s (s.handed raw t)) := by
  unfold convertFrom
  split
  · exact (ht _ _ rfl).elim
  · rw [Schema.handed_of_not_union ht, FieldType.isDiscovered_of_not_union ht]
    split
    · next htext => simp [htext, Schema.convert_of_takesText htext, learn]
    · next htext =>
      split
      · next converter hgrammar =>
        have hvalue : converter.apply raw t = s.convert raw t := Schema.apply_of_grammar? hgrammar
        simp [hgrammar, hvalue, learn]
      · next hgrammar =>
        have hlearn : c.learn s [t] = (c.converter s t).2 := rfl
        have hbuilt := h.converter_fst t
        simp only [htext, hgrammar, Bool.not_false, Option.isNone_none, Bool.and_self, if_true,
          hlearn]
        split
        · next converter c' hconverter =>
          rw [hconverter] at hbuilt ⊢
          rw [Schema.apply_of_buildConverter ht hbuilt.symm]
        · next e c' hconverter =>
          rw [hconverter] at hbuilt ⊢
          rw [Schema.convert_of_buildConverter hbuilt.symm]

/-- The members of a union are tried like that type by type, if each of them is converted like
that. -/
theorem firstFrom_eq {ts : List FieldType} (h : c.IsSound s)
    (hts : ∀ t ∈ ts, ∀ {c : ConversionCache}, c.IsSound s →
      convertFrom s raw t c = (s.convert raw t, c.learn s (s.handed raw t))) :
    firstFrom s raw ts c =
      (.ok (s.firstConversion? raw ts), c.learn s (s.handedInOrder raw ts)) := by
  induction ts generalizing c with
  | nil => rfl
  | cons t ts ih =>
    obtain ⟨ht, hts⟩ := List.forall_mem_cons.mp hts
    unfold firstFrom Schema.firstConversion? Schema.handedInOrder
    split
    · exact ih h hts
    · rw [ht h]
      cases hv : s.convert raw t with
      | ok v => rfl
      | error e =>
        obtain ⟨target, reason, rfl⟩ := Schema.exists_conversion_of_convert hv
        rw [learn_append]
        exact ih (h.learn _) hts

/-- A conversion has the outcome that it has without a cache, and leaves behind what it had to find
out about. -/
theorem convertFrom_eq (h : c.IsSound s) :
    convertFrom s raw t c = (s.convert raw t, c.learn s (s.handed raw t)) := by
  induction t using FieldType.induction_parts generalizing c with
  | union spelled members ih =>
    unfold convertFrom Schema.convert Schema.handed
    rw [firstFrom_eq h fun t ht _ hc => ih t ht hc]
    cases s.firstConversion? raw members <;> rfl
  | generic a container ts _ => exact convertFrom_of_not_union h (by simp)
  | classWide t _ => exact convertFrom_of_not_union h (by simp)
  | atom t ht =>
    refine convertFrom_of_not_union h ?_
    rintro spelled members rfl
    cases ht

end ConversionCache

end PagedQuery
