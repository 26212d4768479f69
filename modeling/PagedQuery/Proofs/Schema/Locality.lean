import PagedQuery.Proofs.Schema.Alternatives
import PagedQuery.Proofs.Schema.Annotations
import PagedQuery.Proofs.Schema.Unknown

/-!
# Attributes and the annotations beside them

Where all annotations of a class can be looked up, each of its attributes is the one that it would
be alone. One annotation without a meaning has all of them read as they are written, which keeps the
attributes whose annotations hold no expressions: a text is no type any more.
-/

namespace PagedQuery

namespace FieldType

variable {t : FieldType}

/-- Whether a type is replaced as it is looked up. -/
def isReference : FieldType → Bool
  | .expression _ | .forward _ | .missing => true
  | _ => false

/-- A type with no expressions left in it. -/
inductive Evaluated : FieldType → Prop
  | atom {t : FieldType} (h : t.isAtom) (hreference : t.isReference = false) : Evaluated t
  | generic {a : Bool} {c : Container} {ts : List FieldType}
      (h : ∀ t ∈ ts, t ≠ .missing → Evaluated t) : Evaluated (.generic a c ts)
  | union {spelled : Bool} {ts : List FieldType} (h : ∀ t ∈ ts, Evaluated t)
      (hflat : (FieldType.union spelled ts).IsFlat) : Evaluated (.union spelled ts)
  | classWide {t : FieldType} (h : Evaluated t) : Evaluated (.classWide t)

theorem Evaluated.ne_missing (h : t.Evaluated) : t ≠ .missing := by
  rintro rfl
  cases h with
  | atom _ hreference => cases hreference

/-- Nothing is left to be looked up. -/
theorem Evaluated.lookUp (h : t.Evaluated) : t.lookUp = .ok t := by
  have helements : ∀ ts : List FieldType,
      (∀ t ∈ ts, lookUpElement Expression.typeOf t = .ok t) →
      lookUpElements Expression.typeOf ts = .ok ts := fun ts hts => by
    rw [lookUpElements_eq_mapM]
    induction ts with
    | nil => rfl
    | cons t ts ih =>
      obtain ⟨ht, hts⟩ := List.forall_mem_cons.mp hts
      rw [List.mapM_cons, ht, ih hts]
      rfl
  induction h with
  | @atom t h hreference =>
    cases t with
    | union | generic | classWide => cases h
    | expression | forward | missing => cases hreference
    | _ => rfl
  | generic h ih =>
    have hparts := helements _ fun t ht => by
      by_cases hmissing : t = .missing
      · subst hmissing
        rfl
      · exact lookUpElement_of_ne hmissing ▸ ih t ht hmissing
    rw [FieldType.lookUp, lookUpWith, hparts]
    rfl
  | union h hflat ih =>
    have hparts := helements _ fun t ht => lookUpElement_of_ne (h t ht).ne_missing ▸ ih t ht
    rw [FieldType.lookUp, lookUpWith, hparts]
    exact congrArg Except.ok (unionOf_of_isFlat hflat)
  | classWide h ih =>
    rw [FieldType.lookUp] at ih
    rw [FieldType.lookUp, lookUpWith, ih]
    rfl

end FieldType

namespace Schema

/-- The schema in which a class has one annotation and extends no other class. -/
def withOnly (s : Schema) (name key : String) (t : FieldType) : Schema :=
  { s with types := [⟨name, [(key, t)], [], .plain, []⟩] }

theorem annotations_withOnly (s : Schema) (name key : String) (t : FieldType) :
    (s.withOnly name key t).annotations name = [(key, t)] := by
  have htype : (s.withOnly name key t).type? name = some ⟨name, [(key, t)], [], .plain, []⟩ := by
    simp [withOnly, type?]
  have hlineage : (s.withOnly name key t).lineage 1 name = [name] := by
    rw [lineage, htype]
    rfl
  have hancestry : (s.withOnly name key t).ancestry name =
      [⟨name, [(key, t)], [], .plain, []⟩] := by
    rw [ancestry, show (s.withOnly name key t).types.length = 1 from rfl, hlineage,
      List.filterMap_cons, htype]
    rfl
  rw [annotations, hancestry]
  rfl

/-- Alone an attribute has the field of what its annotation means. -/
theorem attribute?_withOnly {s : Schema} {name : String} {t u : FieldType}
    (hclass : s.stored? name = none) (key : String) (hmeaning : t.lookUp = .ok u) :
    (s.withOnly name key t).attribute? name key = .ok (u.field? key) := by
  have hannotations := s.annotations_withOnly name key t
  have hown : (s.withOnly name key t).annotation? name key = some t := by
    rw [annotation?, hannotations]
    exact if_pos rfl
  have hclass' : (s.withOnly name key t).stored? name = none := hclass
  rw [attribute?_of_class hclass', hannotations, firstFault?_cons_of_ok hmeaning, hown]
  simp [reading, firstFault?, hmeaning, Except.toOption, Except.map]

end Schema

/-- An attribute of a class whose annotation has a meaning is the one that it would be alone if all
annotations have a meaning, or if its field is the same as the annotation is written. That holds of
types without expressions, while a text is a field of any values then. Other faults than a missing
meaning leave the class without attributes. -/
theorem attribute_alone_iff {s : Schema} {name key : String} {t u : FieldType}
    (hclass : s.stored? name = none) (hown : s.annotation? name key = some t)
    (hmeaning : t.lookUp = .ok u) :
    let fault? := firstFault? (s.annotations name)
    (s.withOnly name key t).attribute? name key = .ok (u.field? key) ∧
      (s.attribute? name key = (s.withOnly name key t).attribute? name key ↔
        fault? = none ∨ fault? = some .meaningless ∧ t.field? key = u.field? key) ∧
      (fault? = some .meaningless → s.attribute? name key = .ok (t.field? key)) ∧
      (∀ fault, fault? = some fault → fault ≠ .meaningless →
        s.attributes name = .error (.expression fault)) ∧
      (t.Evaluated → t.field? key = u.field? key) ∧
      (∀ source, t = .expression source → isHidden key = false →
        t.field? key = some ⟨key, .any, false, false⟩) := by
  have halone := Schema.attribute?_withOnly hclass key hmeaning
  have hattribute := Schema.attribute?_of_class hclass key
  rw [hown] at hattribute
  refine ⟨halone, ?_, ?_, ?_, ?_, ?_⟩
  · rw [halone, hattribute]
    cases firstFault? (s.annotations name) with
    | none => simp [reading, hmeaning, Except.toOption, Except.map]
    | some fault => cases fault <;> simp [reading, Except.map]
  · intro hfault
    rw [hattribute, hfault]
    rfl
  · intro fault hfault hne
    rw [Schema.attributes_of_class hclass, hfault]
    cases fault with
    | meaningless => exact absurd rfl hne
    | _ => rfl
  · intro hevaluated
    rw [Except.ok.inj (hevaluated.lookUp.symm.trans hmeaning)]
  · rintro source rfl hvisible
    rw [FieldType.field?, hvisible]
    rfl

/-- Books with a number of pages, and a price that is written as a text. What they extend names an
author of a type that is not known. -/
def works : Schema where
  types := [⟨"Work", [("author", .expression "Author")], [], .plain, []⟩,
    ⟨"Book", [("pages", .scalar .int), ("price", .expression "int")], ["Work"], .plain, []⟩]

theorem annotations_works : works.annotations "Book" =
    [("author", .expression "Author"), ("pages", .scalar .int), ("price", .expression "int")] := by
  decide

theorem firstFault?_works : firstFault? (works.annotations "Book") = some .meaningless := by
  rw [annotations_works]
  exact firstFault?_cons_of_error Expression.typeOf_author

/-- The pages of a book are what they would be alone. -/
theorem works_pages :
    works.stored? "Book" = none ∧
      works.annotation? "Book" "pages" = some (.scalar .int) ∧
      (FieldType.scalar .int).lookUp = .ok (.scalar .int) ∧
      works.attribute? "Book" "pages" =
        (works.withOnly "Book" "pages" (.scalar .int)).attribute? "Book" "pages" ∧
      works.attribute? "Book" "pages" = .ok (some ⟨"pages", .scalar .int, false, false⟩) := by
  have hclass : works.stored? "Book" = none := rfl
  have hown : works.annotation? "Book" "pages" = some (.scalar .int) := by
    rw [Schema.annotation?, annotations_works]
    decide
  have hmeaning : (FieldType.scalar .int).lookUp = .ok (.scalar .int) := rfl
  obtain ⟨-, halone, hwritten, -⟩ := attribute_alone_iff hclass hown hmeaning
  exact ⟨hclass, hown, hmeaning, halone.mpr (.inr ⟨firstFault?_works, rfl⟩),
    hwritten firstFault?_works⟩

/-- The price of a book has lost its type, for the sake of the author beside it. -/
theorem works_price :
    works.annotation? "Book" "price" = some (.expression "int") ∧
      (FieldType.expression "int").lookUp = .ok (.scalar .int) ∧
      (works.withOnly "Book" "price" (.expression "int")).attribute? "Book" "price" =
        .ok (some ⟨"price", .scalar .int, false, false⟩) ∧
      works.attribute? "Book" "price" = .ok (some ⟨"price", .any, false, false⟩) := by
  have hclass : works.stored? "Book" = none := rfl
  have hown : works.annotation? "Book" "price" = some (.expression "int") := by
    rw [Schema.annotation?, annotations_works]
    decide
  have hmeaning : (FieldType.expression "int").lookUp = .ok (.scalar .int) := by decide
  refine ⟨hown, hmeaning, Schema.attribute?_withOnly hclass "price" hmeaning, ?_⟩
  rw [Schema.attribute?_of_class hclass, firstFault?_works, hown]
  rfl

end PagedQuery
