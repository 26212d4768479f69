import PagedQuery.Proofs.Schema.Annotations
import PagedQuery.Proofs.Schema.Forms
import PagedQuery.Proofs.Schema.Unknown

/-!
# Fields that may be missing

A field that may be missing has the type that it has otherwise, and a collection of elements that
may be missing has their type. A form that may be missing takes a text as a reference and the
missing value as its type. Where annotations are read as they are written, a text and the missing
value are something else.
-/

namespace PagedQuery

/-! ## Fields that may be missing -/

namespace FieldType

variable {t t' u : FieldType} {ts : List FieldType} {a : Bool} {c : Container}

/-- What may be missing is looked up as what it is otherwise. -/
theorem Formed.lookUp_optional (h : t.Formed) (ha : t.argument = .ok t') :
    OutcomeRel OptionalOf t.lookUp t'.optional.lookUp := by
  obtain ⟨hargument, hlookUp, -⟩ := h.argument ha
  rw [← hlookUp]
  exact (optionalOf_optional hargument.flat).lookUp hargument.present

theorem Formed.describe?_optional_iff (h : t.Formed) (ha : t.argument = .ok t') (name : String) :
    t'.optional.describe? name = t.describe? name ↔ t.isRaw = false := by
  obtain ⟨hargument, -, hne, hsame⟩ := h.argument ha
  rw [(optionalOf_optional hargument.flat).describe? hne]
  cases hraw : t.isRaw with
  | false => simp [hsame hraw]
  | true =>
    obtain ⟨rfl, rfl⟩ | ⟨s, rfl, rfl⟩ := argument_of_isRaw hraw ha <;>
      simp [FieldType.describe?, FieldType.unwrapOptional]

theorem Formed.unwrapOptional_optional_iff (h : t.Formed) (ha : t.argument = .ok t') :
    t'.optional.unwrapOptional = t.unwrapOptional ↔ t.isRaw = false := by
  obtain ⟨hargument, -, -, hsame⟩ := h.argument ha
  rw [(optionalOf_optional hargument.flat).unwrapOptional]
  cases hraw : t.isRaw with
  | false => simp [hsame hraw]
  | true =>
    obtain ⟨rfl, rfl⟩ | ⟨s, rfl, rfl⟩ := argument_of_isRaw hraw ha <;>
      simp [FieldType.unwrapOptional]

/-! ## Collections of elements that may be missing -/

theorem describe?_collection_eq_iff (hc : c.isCollection) (name : String) :
    (FieldType.generic a c (u :: ts)).describe? name =
        (FieldType.generic a c (t :: ts)).describe? name ↔
      u.unwrapOptional = t.unwrapOptional := by
  simp +contextual [describe?, unwrapOptional, hc]

theorem lookUp_generic_rel {R : FieldType → FieldType → Prop}
    (h : OutcomeRel R (t.lookUpElement Expression.typeOf) (u.lookUpElement Expression.typeOf))
    (a : Bool) (c : Container) (ts : List FieldType) :
    OutcomeRel (fun v w => ∃ x y us, R x y ∧ v = .generic a c (x :: us) ∧
        w = .generic a c (y :: us))
      (FieldType.generic a c (t :: ts)).lookUp (FieldType.generic a c (u :: ts)).lookUp := by
  rw [lookUp, lookUp, lookUpWith, lookUpWith, lookUpElements_eq_mapM, lookUpElements_eq_mapM,
    List.mapM_cons, List.mapM_cons]
  revert h
  generalize t.lookUpElement Expression.typeOf = x?, u.lookUpElement Expression.typeOf = y?
  rintro (⟨hxy⟩ | e)
  · cases ts.mapM (lookUpElement Expression.typeOf) with
    | error e => exact .error e
    | ok us => exact .ok ⟨_, _, us, hxy, rfl, rfl⟩
  · exact .error e

/-- The element type of a collection: an argument, or what was given in its place. -/
def elementOf (capitalized : Bool) (t t' : FieldType) : FieldType := if capitalized then t' else t

theorem Formed.unwrapOptional_elementOf_iff (h : t.Formed) (ha : t.argument = .ok t')
    (capitalized : Bool) :
    t'.optional.unwrapOptional = (elementOf capitalized t t').unwrapOptional ↔
      capitalized ∨ t.isRaw = false := by
  cases capitalized with
  | true => exact iff_of_true (optionalOf_optional (h.argument ha).1.flat).unwrapOptional (.inl rfl)
  | false => simpa [elementOf] using h.unwrapOptional_optional_iff ha

/-- An element that may be missing is looked up as what it is otherwise, unless it is nothing but
missing. -/
theorem Formed.lookUpElement_optional (h : t.Formed) (ha : t.argument = .ok t')
    (capitalized : Bool) :
    OutcomeRel (fun x y => y.unwrapOptional = x.unwrapOptional ↔ capitalized ∨ t ≠ .missing)
      ((elementOf capitalized t t').lookUpElement Expression.typeOf)
      (t'.optional.lookUpElement Expression.typeOf) := by
  obtain ⟨hargument, hlookUp, -⟩ := h.argument ha
  have hoptional := (isArgument_optional hargument).ne_missing
  by_cases hpresent : capitalized ∨ t ≠ .missing
  · have hne : elementOf capitalized t t' ≠ .missing := by
      cases capitalized with
      | true => exact hargument.ne_missing
      | false => simpa [elementOf] using hpresent
    have hsame : (elementOf capitalized t t').lookUp = t.lookUp := by
      cases capitalized with
      | true => exact hlookUp
      | false => rfl
    rw [lookUpElement_of_ne hne, lookUpElement_of_ne hoptional]
    change OutcomeRel _ (elementOf capitalized t t').lookUp t'.optional.lookUp
    rw [hsame]
    exact (h.lookUp_optional ha).imp fun x y _ hxy => iff_of_true hxy.unwrapOptional hpresent
  · obtain ⟨hcapital, rfl⟩ := not_or.mp hpresent |>.imp_right not_not.mp
    rw [Bool.not_eq_true] at hcapital
    subst hcapital
    cases ha
    have hgiven : (elementOf false missing nothing).lookUpElement Expression.typeOf =
        .ok .missing := rfl
    have hnothing : nothing.optional = .nothing := by
      simp [optional, unionOf, flattenUnion, insertType, inSome, same]
    have hlooked : nothing.lookUpElement Expression.typeOf = .ok .nothing := rfl
    rw [hgiven, hnothing, hlooked]
    exact .ok (by simp [FieldType.unwrapOptional])

end FieldType

namespace TypeForm

open FieldType

variable {form : TypeForm} {rest : List TypeForm} {t t' o k : FieldType} {c : Container}

theorem exists_of_optional (h : (TypeForm.optional form).toType = .ok o) (ht : form.toType = .ok t) :
    ∃ t', t.argument = .ok t' ∧ o = t'.optional := by
  rw [toType] at h
  obtain ⟨u, hu, h⟩ := exists_of_bind_eq_ok h
  obtain rfl := Except.ok.inj (ht.symm.trans hu)
  obtain ⟨t', ht', h⟩ := exists_of_bind_eq_ok h
  exact ⟨t', ht', (Except.ok.inj h).symm⟩

/-- Elements that may be missing take the place of the elements of a collection. -/
theorem exists_of_container {capitalized : Bool} (hc : c.isCollection) (hform : t.Formed)
    (ht : form.toType = .ok t) (ho : (TypeForm.optional form).toType = .ok t'.optional)
    (ha : t.argument = .ok t')
    (hk : (TypeForm.container capitalized c (form :: rest)).toType = .ok k) :
    ∃ us, k = .generic capitalized c (elementOf capitalized t t' :: us) ∧
      (TypeForm.container capitalized c (.optional form :: rest)).toType =
        .ok (.generic capitalized c (t'.optional :: us)) := by
  have hargument := (hform.argument ha).1
  have ho' := argument_of_nothing_mem (optionalOf_optional hargument.flat).nothing_mem
  rw [toType_container] at hk ⊢
  obtain ⟨ts, hts, hk⟩ := exists_of_bind_eq_ok hk
  obtain ⟨u, us, hu, hus, rfl⟩ := toTypes_cons_eq_ok_iff.mp hts
  obtain rfl := Except.ok.inj (ht.symm.trans hu)
  rw [toTypes_cons_eq_ok_iff.mpr ⟨_, us, ho, hus, rfl⟩]
  cases capitalized with
  | false => exact ⟨us, (Except.ok.inj hk).symm, rfl⟩
  | true =>
    obtain ⟨vs, hvs, hlength, rfl⟩ := (spelledContainer_eq_ok_iff hc).mp hk
    obtain ⟨v, ws, hv, hws, rfl⟩ := mapM_cons_eq_ok_iff.mp hvs
    obtain rfl := Except.ok.inj (ha.symm.trans hv)
    refine ⟨ws, rfl, ?_⟩
    exact (spelledContainer_eq_ok_iff hc).mpr
      ⟨_, mapM_cons_eq_ok_iff.mpr ⟨_, ws, ho', hws, rfl⟩, hlength, rfl⟩

end TypeForm

/-- A field that may be missing makes the same attributes as the field otherwise, unless its
annotation is a text, or the missing value, and is read as it is written. So does a collection of
elements that may be missing, under a capitalized name always and else unless its elements are given
by a text that is read as it is written, or by the missing value. Types that belong to the class are
no fields. -/
theorem optional_transparent_iff {form : TypeForm} {t o : FieldType} (hspells : form.spellsUnions)
    (ht : form.toType = .ok t) (ho : (TypeForm.optional form).toType = .ok o)
    (hfield : ∀ u, t.lookUp ≠ .ok (.classWide u)) {s s' : Schema} {name key : String}
    {before after : List (String × FieldType)} :
    (s.Reannotates s' name before key t o after →
      (s'.attributes name = s.attributes name ↔ key ∈ after.map (·.1) ∨
        (firstFault? (s.annotations name) = some .meaningless →
          isHidden key ∨ t.isRaw = false))) ∧
    ∀ {capitalized : Bool} {c : Container} {rest : List TypeForm} {k : FieldType},
      c.isCollection → (TypeForm.container capitalized c (form :: rest)).toType = .ok k →
      ∃ k', (TypeForm.container capitalized c (.optional form :: rest)).toType = .ok k' ∧
        (s.Reannotates s' name before key k k' after →
          (s'.attributes name = s.attributes name ↔ key ∈ after.map (·.1) ∨
            (firstFault? (s.annotations name) = none →
              isHidden key ∨ capitalized ∨ t ≠ .missing) ∧
            (firstFault? (s.annotations name) = some .meaningless →
              isHidden key ∨ capitalized ∨ t.isRaw = false))) := by
  have hform := TypeForm.formed_of_toType hspells ht
  obtain ⟨t', ha, rfl⟩ := TypeForm.exists_of_optional ho ht
  constructor
  · intro h
    have hlooks : OutcomeRel (fun u w => w.field? key = u.field? key ↔ True) t.lookUp
        t'.optional.lookUp := (hform.lookUp_optional ha).imp fun u w hu hw => by
      have hdescribed := hw.describe? (fun v hv => hfield v (hv ▸ hu)) key
      exact iff_of_true (FieldType.field?_eq_iff.mpr (.inr hdescribed)) trivial
    have hwritten : t'.optional.field? key = t.field? key ↔ isHidden key ∨ t.isRaw = false := by
      rw [FieldType.field?_eq_iff, hform.describe?_optional_iff ha]
    simpa using h.attributes_eq_iff hlooks hwritten
  · intro capitalized c rest k hc hk
    obtain ⟨us, rfl, hk'⟩ := TypeForm.exists_of_container hc hform ht ho ha hk
    refine ⟨_, hk', fun h => h.attributes_eq_iff ?_ ?_⟩
    · refine (FieldType.lookUp_generic_rel (hform.lookUpElement_optional ha capitalized)
        capitalized c us).imp fun u w _ hw => ?_
      obtain ⟨x, y, vs, hxy, rfl, rfl⟩ := hw
      rw [FieldType.field?_eq_iff, FieldType.describe?_collection_eq_iff hc, hxy]
    · rw [FieldType.field?_eq_iff, FieldType.describe?_collection_eq_iff hc,
        hform.unwrapOptional_elementOf_iff ha]

/-- Letters with an annotation for their writer. -/
def letters (t : FieldType) : Schema where
  types := [⟨"Letter", [("writer", t)], [], .plain, []⟩]

theorem annotations_letters (t : FieldType) :
    (letters t).annotations "Letter" = [("writer", t)] := rfl

theorem reannotates_letters (t t' : FieldType) :
    (letters t).Reannotates (letters t') "Letter" [] "writer" t t' [] :=
  ⟨rfl, rfl, rfl, rfl⟩

section Texts

open FieldType

variable {source : String} {term : Expression.Term}

theorem optional_forward (source : String) :
    (FieldType.forward source).optional = .union true [.forward source, .nothing] := by
  simp [FieldType.optional, unionOf, flattenUnion, insertType, inSome, same]

theorem describe?_optional_forward (source name : String) :
    (FieldType.union true [.forward source, .nothing]).describe? name =
      some ⟨name, .forward source, false, false⟩ := by
  rw [← optional_forward]
  exact (optionalOf_optional (isFlat_of_not_union rfl)).describe? (by simp) name

theorem argument_of_parse (hterm : Expression.parse source = .ok term) :
    (FieldType.expression source).argument = .ok (.forward source) := by
  rw [argument, hterm]

theorem toType_optional_text (hterm : Expression.parse source = .ok term) :
    (TypeForm.optional (.text source)).toType = .ok (.union true [.forward source, .nothing]) := by
  rw [← optional_forward]
  simp only [TypeForm.toType, argument_of_parse hterm, bind, Except.bind, pure, Except.pure]

theorem lookUp_optional_text (hterm : Expression.parse source = .ok term) {fault : ExpressionError}
    (hfault : Expression.typeOf source = .error fault) :
    (FieldType.union true [.forward source, .nothing]).lookUp = .error fault := by
  have hform : (FieldType.expression source).Formed :=
    .inr (isArgument_of_not_union rfl (by simp))
  have hlooks := hform.lookUp_optional (argument_of_parse hterm)
  rw [show (FieldType.expression source).lookUp = .error fault from hfault,
    optional_forward] at hlooks
  generalize (FieldType.union true [.forward source, .nothing]).lookUp = outcome at hlooks ⊢
  cases hlooks
  rfl

theorem parse_int : Expression.parse "int" = .ok (.name "int") :=
  Expression.parse_of_term? (by decide) (by decide) (by decide) rfl

end Texts

/-- A writer who is known by a number, which may be missing. -/
theorem letters_optional :
    let form := TypeForm.text "int"
    let t := FieldType.expression "int"
    let o := FieldType.union true [.forward "int", .nothing]
    form.spellsUnions ∧ form.toType = .ok t ∧ (TypeForm.optional form).toType = .ok o ∧
      (∀ u, t.lookUp ≠ .ok (.classWide u)) ∧
      (letters o).attributes "Letter" = (letters t).attributes "Letter" ∧
      (letters (.generic false .list [o])).attributes "Letter" =
        (letters (.generic false .list [t])).attributes "Letter" := by
  intro form t o
  have ho : (TypeForm.optional form).toType = .ok o := toType_optional_text parse_int
  have hlookUp : t.lookUp = .ok (.scalar .int) := by decide
  have hfield : ∀ u, t.lookUp ≠ .ok (.classWide u) := by simp [hlookUp]
  have hcontainer : (TypeForm.container false .list [.text "int"]).toType =
      .ok (.generic false .list [t]) := rfl
  have hlist : (TypeForm.container false .list [.optional (.text "int")]).toType =
      .ok (.generic false .list [o]) := by
    rw [TypeForm.toType, TypeForm.toTypes_cons_eq_ok_iff.mpr ⟨o, [], ho, rfl, rfl⟩]
    rfl
  refine ⟨rfl, rfl, ho, hfield, ?_, ?_⟩
  · refine ((optional_transparent_iff rfl rfl ho hfield).1 (reannotates_letters t o)).mpr (.inr ?_)
    rw [annotations_letters, firstFault?_cons_of_ok hlookUp]
    simp [firstFault?]
  · obtain ⟨k', hk', hsame⟩ := (optional_transparent_iff rfl rfl ho hfield).2 rfl hcontainer
    obtain rfl := Except.ok.inj (hlist.symm.trans hk')
    have hlooked : (FieldType.generic false .list [t]).lookUp =
        .ok (.generic false .list [.scalar .int]) := by decide
    refine (hsame (reannotates_letters _ _)).mpr (.inr ?_)
    rw [annotations_letters, firstFault?_cons_of_ok hlooked]
    simp [firstFault?, t]

/-- A writer of a type that is not known is of any type, but of that type if there may be none. -/
theorem letters_unalike :
    let form := TypeForm.text "Author"
    let t := FieldType.expression "Author"
    let o := FieldType.union true [.forward "Author", .nothing]
    form.toType = .ok t ∧ (TypeForm.optional form).toType = .ok o ∧
      (letters t).attribute? "Letter" "writer" = .ok (some ⟨"writer", .any, false, false⟩) ∧
      (letters o).attribute? "Letter" "writer" =
        .ok (some ⟨"writer", .forward "Author", false, false⟩) := by
  intro form t o
  have hfault : firstFault? ((letters t).annotations "Letter") = some .meaningless :=
    firstFault?_cons_of_error Expression.typeOf_author
  have hfault' : firstFault? ((letters o).annotations "Letter") = some .meaningless :=
    firstFault?_cons_of_error (lookUp_optional_text Expression.parse_author Expression.typeOf_author)
  refine ⟨rfl, toType_optional_text Expression.parse_author, ?_, ?_⟩
  · rw [Schema.attribute?_of_class rfl, hfault]
    rfl
  · rw [Schema.attribute?_of_class rfl, hfault']
    exact congrArg Except.ok (describe?_optional_forward "Author" "writer")

end PagedQuery
