import Mathlib.Tactic
import PagedQuery.Source.Stored

/-!
# The joins of a source in tables

A table of joins grows by one join at a time, each along a route that has none yet and from the
slot of that route without its last relation. So every route has one slot and one join, and a slot
once given to a route stays with it: all clauses whose paths share relations read the same rows.
-/

namespace PagedQuery

namespace JoinTable

/-- The routes that have a slot of their own. -/
def routes (js : JoinTable) : List (List String) := js.slots.map (·.1)

/-- The slot at the end of a route; the statement's own table is at the end of the empty one. -/
def slot? (js : JoinTable) (route : List String) : Option Slot :=
  if route = [] then some 0 else js.slots.lookup route

/-- The slot at the end of a route that has one. -/
def slotOf (js : JoinTable) (route : List String) : Slot := (js.slot? route).getD 0

/-- A table with one more join. -/
def addJoin (js : JoinTable) (source : Slot) (route : List String) (relation : String) :
    JoinTable :=
  ⟨js.joins ++ [⟨source, relation, js.joins.length + 1⟩],
    js.slots ++ [(route ++ [relation], js.joins.length + 1)]⟩

/-- Tables that come about by adding joins along routes that have none. -/
inductive Grown : JoinTable → Prop
  | empty : Grown {}
  | add {js : JoinTable} {source : Slot} {route : List String} {relation : String}
      (grown : Grown js) (source_eq : js.slot? route = some source)
      (fresh : route ++ [relation] ∉ js.routes) : Grown (js.addJoin source route relation)

/-- Whether every slot of a table stays what it is in another one. -/
def Extends (js js' : JoinTable) : Prop :=
  ∀ route slot, js.slot? route = some slot → js'.slot? route = some slot

theorem Extends.refl (js : JoinTable) : js.Extends js := fun _ _ h => h

theorem Extends.trans {js js' js'' : JoinTable} (h : js.Extends js') (h' : js'.Extends js'') :
    js.Extends js'' := fun route slot hs => h' route slot (h route slot hs)

variable {js js' : JoinTable} {source : Slot} {route : List String} {relation : String}

@[simp] theorem slot?_nil : js.slot? [] = some 0 := rfl

@[simp] theorem slotOf_nil : js.slotOf [] = 0 := rfl

theorem slot?_of_ne_nil (h : route ≠ []) : js.slot? route = js.slots.lookup route := if_neg h

theorem slotOf_eq {slot : Slot} (h : js.slot? route = some slot) : js.slotOf route = slot := by
  rw [slotOf, h, Option.getD_some]

theorem Extends.slotOf_eq (h : js.Extends js') (hs : (js.slot? route).isSome) :
    js'.slotOf route = js.slotOf route := by
  obtain ⟨slot, hslot⟩ := Option.isSome_iff_exists.mp hs
  rw [JoinTable.slotOf_eq hslot, JoinTable.slotOf_eq (h route slot hslot)]

theorem Extends.isSome (h : js.Extends js') (hs : (js.slot? route).isSome) :
    (js'.slot? route).isSome := by
  obtain ⟨slot, hslot⟩ := Option.isSome_iff_exists.mp hs
  rw [h route slot hslot]
  rfl

theorem lookup_slots_eq_none_iff : js.slots.lookup route = none ↔ route ∉ js.routes := by
  rw [List.lookup_eq_none_iff, routes, List.mem_map]
  constructor
  · rintro h ⟨p, hp, rfl⟩
    simpa using h p hp
  · intro h p hp
    rw [bne_iff_ne]
    rintro rfl
    exact h ⟨p, hp, rfl⟩

theorem isSome_slot?_iff : (js.slot? route).isSome ↔ route = [] ∨ route ∈ js.routes := by
  by_cases h : route = []
  · simp [h]
  · rw [slot?_of_ne_nil h, Option.isSome_iff_ne_none, Ne, lookup_slots_eq_none_iff, not_not]
    exact (or_iff_right h).symm

@[simp] theorem routes_addJoin :
    (js.addJoin source route relation).routes = js.routes ++ [route ++ [relation]] := by
  simp [addJoin, routes]

theorem extends_addJoin : js.Extends (js.addJoin source route relation) := by
  intro r slot h
  by_cases hr : r = []
  · subst hr
    exact h
  · rw [slot?_of_ne_nil hr] at h ⊢
    rw [addJoin, List.lookup_append, h]
    rfl

theorem slot?_addJoin (h : route ++ [relation] ∉ js.routes) :
    (js.addJoin source route relation).slot? (route ++ [relation]) =
      some (js.joins.length + 1) := by
  have hne : route ++ [relation] ≠ [] := by simp
  rw [slot?_of_ne_nil hne, addJoin, List.lookup_append, lookup_slots_eq_none_iff.mpr h]
  simp

/-- A slot of a table with one more join is one that was there, or that of the join. -/
theorem slot?_addJoin_cases (h : route ++ [relation] ∉ js.routes) {r : List String} {slot : Slot}
    (hr : (js.addJoin source route relation).slot? r = some slot) :
    js.slot? r = some slot ∨ r = route ++ [relation] ∧ slot = js.joins.length + 1 := by
  by_cases hs : (js.slot? r).isSome
  · obtain ⟨slot', hslot'⟩ := Option.isSome_iff_exists.mp hs
    rw [extends_addJoin r slot' hslot'] at hr
    exact .inl (hslot'.trans hr)
  · have hmem : r ∈ (js.addJoin source route relation).routes :=
      (isSome_slot?_iff.mp (by rw [hr]; rfl)).resolve_left
        fun hnil => hs (isSome_slot?_iff.mpr (.inl hnil))
    rw [routes_addJoin, List.mem_append, List.mem_singleton] at hmem
    have hnew : r = route ++ [relation] :=
      hmem.resolve_left fun hold => hs (isSome_slot?_iff.mpr (.inr hold))
    subst hnew
    rw [slot?_addJoin h] at hr
    exact .inr ⟨rfl, (Option.some.inj hr).symm⟩

namespace Grown

theorem nodup_routes (h : js.Grown) : js.routes.Nodup := by
  induction h with
  | empty => exact List.nodup_nil
  | add grown source_eq fresh ih =>
    rw [routes_addJoin, List.nodup_append]
    exact ⟨ih, List.nodup_singleton _, by
      rintro r hr _ hs rfl
      exact fresh (List.mem_singleton.mp hs ▸ hr)⟩

theorem slot?_le (h : js.Grown) {slot : Slot} (hs : js.slot? route = some slot) :
    slot ≤ js.joins.length := by
  induction h with
  | empty =>
    by_cases hr : route = []
    · rw [hr] at hs
      exact (Option.some.inj hs).ge
    · rw [slot?_of_ne_nil hr] at hs
      cases hs
  | @add js source route' relation grown source_eq fresh ih =>
    have hlen : (js.addJoin source route' relation).joins.length = js.joins.length + 1 := by
      simp [addJoin]
    rw [hlen]
    rcases slot?_addJoin_cases fresh hs with hs | ⟨-, rfl⟩
    · exact (ih hs).trans (Nat.le_succ _)
    · exact le_rfl

/-- Two routes never share a slot. -/
theorem slot?_inj (h : js.Grown) {r r' : List String} {slot : Slot} (hr : js.slot? r = some slot)
    (hr' : js.slot? r' = some slot) : r = r' := by
  induction h with
  | empty =>
    have hnil : ∀ {q : List String}, (({} : JoinTable).slot? q).isSome → q = [] := by
      intro q hq
      simpa [routes] using isSome_slot?_iff.mp hq
    exact (hnil (by rw [hr]; rfl)).trans (hnil (by rw [hr']; rfl)).symm
  | add grown source_eq fresh ih =>
    rcases slot?_addJoin_cases fresh hr with hold | ⟨rfl, hnew⟩
    · rcases slot?_addJoin_cases fresh hr' with hold' | ⟨rfl, rfl⟩
      · exact ih hold hold'
      · exact (Nat.not_succ_le_self _ (grown.slot?_le hold)).elim
    · subst hnew
      rcases slot?_addJoin_cases fresh hr' with hold' | ⟨rfl, -⟩
      · exact (Nat.not_succ_le_self _ (grown.slot?_le hold')).elim
      · rfl

/-- A route is reached over all routes before it. -/
theorem isSome_dropLast (h : js.Grown) (hr : route ∈ js.routes) :
    (js.slot? route.dropLast).isSome := by
  induction h with
  | empty => cases hr
  | add grown source_eq fresh ih =>
    rw [routes_addJoin, List.mem_append, List.mem_singleton] at hr
    rcases hr with hr | rfl
    · exact extends_addJoin.isSome (ih hr)
    · rw [List.dropLast_concat]
      exact extends_addJoin.isSome (by rw [source_eq]; rfl)

/-- One join for each route, from the slot of the route without its last relation. -/
theorem joins_eq (h : js.Grown) :
    js.joins = js.routes.map fun r => ⟨js.slotOf r.dropLast, r.getLastD "", js.slotOf r⟩ := by
  induction h with
  | empty => rfl
  | @add js source route relation grown source_eq fresh ih =>
    have hext : js.Extends (js.addJoin source route relation) := extends_addJoin
    have hold : js.routes.map (fun r => (⟨(js.addJoin source route relation).slotOf r.dropLast,
        r.getLastD "", (js.addJoin source route relation).slotOf r⟩ : Join)) = js.joins := by
      rw [ih]
      refine List.map_congr_left fun r hr => ?_
      rw [hext.slotOf_eq (grown.isSome_dropLast hr),
        hext.slotOf_eq (isSome_slot?_iff.mpr (.inr hr))]
    rw [routes_addJoin, List.map_append, List.map_singleton, List.dropLast_concat,
      slotOf_eq (slot?_addJoin fresh), slotOf_eq (hext _ _ source_eq), hold]
    simp [addJoin]

end Grown

/-! ## What paths add to a table -/

/-- What comes of a table when the slots along further routes are asked for: one more join for each
of them that had none. -/
structure Serves (js js' : JoinTable) (wanted : List String → Prop) : Prop where
  grown : js'.Grown
  extends_ : js.Extends js'
  mem_routes : ∀ r, r ∈ js'.routes ↔ r ∈ js.routes ∨ wanted r

theorem enter_serves (relation : String) (h : js.Grown) (hs : js.slot? route = some source) :
    js.Serves (js.enter source (route ++ [relation]) relation).1 (· = route ++ [relation]) ∧
      (js.enter source (route ++ [relation]) relation).1.slot? (route ++ [relation]) =
        some (js.enter source (route ++ [relation]) relation).2 := by
  have hne : route ++ [relation] ≠ [] := by simp
  unfold enter
  split
  · next slot hslot =>
    rw [← slot?_of_ne_nil hne] at hslot
    have hmem : route ++ [relation] ∈ js.routes :=
      (isSome_slot?_iff.mp (by rw [hslot]; rfl)).resolve_left hne
    refine ⟨⟨h, .refl js, fun r => ?_⟩, hslot⟩
    exact ⟨.inl, fun hr => hr.elim id fun heq => heq ▸ hmem⟩
  · next hnone =>
    have hfresh := lookup_slots_eq_none_iff.mp hnone
    refine ⟨⟨.add h hs hfresh, extends_addJoin, fun r => ?_⟩, slot?_addJoin hfresh⟩
    change r ∈ (js.addJoin source route relation).routes ↔ _
    rw [routes_addJoin, List.mem_append, List.mem_singleton]

theorem along_serves (rest : List String) (h : js.Grown) (hs : js.slot? route = some source) :
    js.Serves (js.along source route rest).1 (fun r => ∃ q ≠ [], q <+: rest ∧ r = route ++ q) ∧
      (js.along source route rest).1.slot? (route ++ rest) =
        some (js.along source route rest).2 := by
  induction rest generalizing js source route with
  | nil =>
    refine ⟨⟨h, .refl js, fun r => ⟨.inl, ?_⟩⟩, by simpa [along] using hs⟩
    rintro (hr | ⟨q, hq, hpre, -⟩)
    · exact hr
    · exact (hq (List.prefix_nil.mp hpre)).elim
  | cons relation rest ih =>
    obtain ⟨hfirst, hslot⟩ := enter_serves relation h hs
    obtain ⟨hrest, hend⟩ := ih hfirst.grown hslot
    rw [List.append_assoc, List.singleton_append] at hend
    refine ⟨⟨hrest.grown, hfirst.extends_.trans hrest.extends_, fun r => ?_⟩, hend⟩
    rw [along, hrest.mem_routes, hfirst.mem_routes]
    constructor
    · rintro ((hr | rfl) | ⟨q, hq, hpre, rfl⟩)
      · exact .inl hr
      · exact .inr ⟨[relation], by simp, by simp, rfl⟩
      · exact .inr ⟨relation :: q, by simp, by simpa using hpre, by simp⟩
    · rintro (hr | ⟨q, hq, hpre, rfl⟩)
      · exact .inl (.inl hr)
      · obtain ⟨tail, rfl, htail⟩ : ∃ tail, q = relation :: tail ∧ tail <+: rest := by
          cases q with
          | nil => exact (hq rfl).elim
          | cons a tail =>
            obtain ⟨rfl, htail⟩ := List.cons_prefix_cons.mp hpre
            exact ⟨tail, rfl, htail⟩
        cases tail with
        | nil => exact .inl (.inr rfl)
        | cons b tail => exact .inr ⟨b :: tail, by simp, htail, by simp⟩

end JoinTable

/-- A route that leads over some of the relations on the way to the end of a path. -/
def FieldPath.Crosses (p : FieldPath) (route : List String) : Prop :=
  route ≠ [] ∧ route <+: p.relations

namespace JoinTable

variable {js js' : JoinTable}

/-- The column at the end of a path whose relations have a slot. -/
def columnOf (js : JoinTable) (p : FieldPath) : ColumnRef := ⟨js.slotOf p.relations, p.column⟩

/-- What a filter adds to a statement. -/
def criterionOf (js : JoinTable) (b : BoundFilter) : Criterion :=
  ⟨js.columnOf b.path, b.clause.operator, b.value⟩

/-- What a sort adds to a statement. -/
def termOf (js : JoinTable) (b : BoundSort) : SortTerm := ⟨js.columnOf b.path, b.isDescending⟩

theorem Extends.columnOf_eq (h : js.Extends js') {p : FieldPath}
    (hp : (js.slot? p.relations).isSome) : js'.columnOf p = js.columnOf p := by
  rw [columnOf, columnOf, h.slotOf_eq hp]

theorem column_serves (p : FieldPath) (h : js.Grown) :
    js.Serves (js.column p).1 p.Crosses ∧ ((js.column p).1.slot? p.relations).isSome ∧
      (js.column p).2 = (js.column p).1.columnOf p := by
  have hroot : js.slot? [] = some 0 := slot?_nil
  obtain ⟨hserves, hslot⟩ := along_serves p.relations h hroot
  rw [List.nil_append] at hslot
  have hcolumn : js.column p =
      ((js.along 0 [] p.relations).1, ⟨(js.along 0 [] p.relations).2, p.column⟩) := rfl
  rw [hcolumn]
  refine ⟨⟨hserves.grown, hserves.extends_, fun r => ?_⟩, ?_, ?_⟩
  · refine (hserves.mem_routes r).trans (or_congr_right ⟨?_, ?_⟩)
    · rintro ⟨q, hq, hpre, rfl⟩
      exact ⟨hq, hpre⟩
    · rintro ⟨hr, hpre⟩
      exact ⟨r, hr, hpre, rfl⟩
  · rw [hslot]
    rfl
  · rw [columnOf, slotOf_eq hslot]

/-- Every relation on the way to the end of one of some paths has a slot, and further joins are
there for nothing else. -/
structure Reaches (js js' : JoinTable) (paths : List FieldPath) : Prop extends
    js.Serves js' (fun r => ∃ p ∈ paths, p.Crosses r) where
  isSome : ∀ p ∈ paths, (js'.slot? p.relations).isSome

theorem Reaches.nil (h : js.Grown) : js.Reaches js [] :=
  ⟨⟨h, .refl js, by simp⟩, by simp⟩

theorem Reaches.cons {js'' : JoinTable} {p : FieldPath} {paths : List FieldPath}
    (hp : js.Serves js' p.Crosses) (hs : (js'.slot? p.relations).isSome)
    (h : js'.Reaches js'' paths) : js.Reaches js'' (p :: paths) := by
  refine ⟨⟨h.grown, hp.extends_.trans h.extends_, fun r => ?_⟩, ?_⟩
  · rw [h.mem_routes, hp.mem_routes, or_assoc, List.exists_mem_cons_iff]
  · intro q hq
    rcases List.mem_cons.mp hq with rfl | hq
    · exact h.extends_.isSome hs
    · exact h.isSome q hq

/-- Criteria are found for filters that the database can compare, and only for such. -/
theorem criteria_reaches (filters : List BoundFilter) (h : js.Grown) :
    (filters.all accepts = false ∧ js.criteria filters = .error .orderedBoolean) ∨
      filters.all accepts = true ∧
        ∃ js', js.criteria filters = .ok (js', filters.map js'.criterionOf) ∧
          js.Reaches js' (filters.map (·.path)) := by
  induction filters generalizing js with
  | nil => exact .inr ⟨rfl, js, rfl, .nil h⟩
  | cons b bs ih =>
    obtain ⟨hserves, hsome, hcolumn⟩ := column_serves b.path h
    rw [criteria, List.all_cons]
    cases hb : accepts b with
    | false => exact .inl ⟨rfl, rfl⟩
    | true =>
      rcases ih hserves.grown with ⟨hall, herror⟩ | ⟨hall, js', hok, hreaches⟩
      · exact .inl ⟨by simpa using hall, by simp [herror, Except.map]⟩
      · refine .inr ⟨by simpa using hall, js', ?_, .cons hserves hsome hreaches⟩
        rw [List.map_cons, criterionOf, hreaches.extends_.columnOf_eq hsome, ← hcolumn]
        simp [hok, Except.map]

theorem terms_reaches (sorts : List BoundSort) (h : js.Grown) :
    ∃ js', js.terms sorts = (js', sorts.map js'.termOf) ∧
      js.Reaches js' (sorts.map (·.path)) := by
  induction sorts generalizing js with
  | nil => exact ⟨js, rfl, .nil h⟩
  | cons b bs ih =>
    obtain ⟨hserves, hsome, hcolumn⟩ := column_serves b.path h
    obtain ⟨js', hterms, hreaches⟩ := ih hserves.grown
    refine ⟨js', ?_, .cons hserves hsome hreaches⟩
    rw [terms, List.map_cons, termOf, hreaches.extends_.columnOf_eq hsome, ← hcolumn]
    simp [hterms]

end JoinTable

end PagedQuery
