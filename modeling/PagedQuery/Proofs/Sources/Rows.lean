import PagedQuery.Proofs.Sources.Joins

/-!
# Joined rows by routes

What a statement reads does not depend on the order of its joins. Seen by the routes that lead to
their slots, the joined rows of two tables with the same routes are the same ones, each as often: a
joined row occurs once for every choice of partners that it is made of.
-/

namespace PagedQuery

/-- What there is at the ends of routes. -/
abbrev RouteRows := List String → Option (Table × Row)

/-- A joined row by the routes to its slots. -/
def JoinTable.byRoute (js : JoinTable) (joined : JoinedRow) : RouteRows := fun route =>
  (js.slot? route).bind joined.row?

namespace Database

/-- The rows that an outer join finds for a row: its partners, or a missing one. -/
def outerPartners (db : Database) (relation : String) (row? : Option (Table × Row)) :
    List (Option (Table × Row)) :=
  match db.partners relation row? with
  | [] => [none]
  | found => found.map some

/-- The rows of a table with all joins, by routes. -/
def rowsByRoute (db : Database) (t : Table) (js : JoinTable) : List RouteRows :=
  (db.joinedRows t js.joins).map js.byRoute

variable {db : Database} {t : Table}

theorem outerJoin_eq (joined : JoinedRow) (j : Join) :
    db.outerJoin joined j =
      (db.outerPartners j.relation (joined.row? j.source)).map fun row? =>
        (j.target, row?) :: joined := by
  unfold outerJoin outerPartners
  cases db.partners j.relation (joined.row? j.source) with
  | nil => rfl
  | cons first rest => simp

theorem joinedRows_append (joins : List Join) (j : Join) :
    db.joinedRows t (joins ++ [j]) = (db.joinedRows t joins).flatMap (db.outerJoin · j) := by
  rw [joinedRows, List.foldl_append]
  rfl

theorem rowsByRoute_empty :
    db.rowsByRoute t {} =
      t.rows.map fun row route => if route = [] then some (t, row) else none := by
  rw [rowsByRoute, joinedRows, List.foldl_nil, List.map_map]
  refine List.map_congr_left fun row _ => funext fun route => ?_
  by_cases hr : route = []
  · simp [JoinTable.byRoute, hr, JoinedRow.row?, JoinedRow.single]
  · simp [JoinTable.byRoute, JoinTable.slot?_of_ne_nil hr, hr]

end Database

namespace JoinTable

variable {js js' : JoinTable} {source : Slot} {route : List String} {relation : String}

theorem byRoute_eq_none {joined : JoinedRow} (h : js.slot? route = none) :
    js.byRoute joined route = none := by
  rw [byRoute, h, Option.bind_none]

theorem slot?_of_fresh (fresh : route ++ [relation] ∉ js.routes) :
    js.slot? (route ++ [relation]) = none := by
  rw [slot?_of_ne_nil (by simp), lookup_slots_eq_none_iff]
  exact fresh

theorem Grown.dropLast_ne (h : js.Grown) (fresh : route ++ [relation] ∉ js.routes)
    {r : List String} (hr : r ∈ js.routes) : r.dropLast ≠ route ++ [relation] := by
  intro heq
  have hsome := h.isSome_dropLast hr
  rw [heq, slot?_of_fresh fresh] at hsome
  cases hsome

theorem toFinset_routes_addJoin : (js.addJoin source route relation).routes.toFinset =
    insert (route ++ [relation]) js.routes.toFinset := by
  ext r
  simp

theorem slot?_addJoin_eq_none (fresh : route ++ [relation] ∉ js.routes) {r : List String} :
    (js.addJoin source route relation).slot? r = none ↔
      js.slot? r = none ∧ r ≠ route ++ [relation] := by
  constructor
  · intro h
    refine ⟨?_, ?_⟩
    · by_contra hs
      obtain ⟨slot, hslot⟩ := Option.ne_none_iff_exists'.mp hs
      rw [extends_addJoin r slot hslot] at h
      cases h
    · rintro rfl
      rw [slot?_addJoin fresh] at h
      cases h
  · rintro ⟨hs, hr⟩
    by_contra h
    obtain ⟨slot, hslot⟩ := Option.ne_none_iff_exists'.mp h
    rcases slot?_addJoin_cases fresh hslot with hold | ⟨heq, -⟩
    · rw [hs] at hold
      cases hold
    · exact hr heq

/-- The row that a join adds is at the end of its route, and all others stay where they are. -/
theorem byRoute_addJoin (h : js.Grown) (fresh : route ++ [relation] ∉ js.routes)
    (joined : JoinedRow) (row? : Option (Table × Row)) :
    (js.addJoin source route relation).byRoute ((js.joins.length + 1, row?) :: joined) =
      Function.update (js.byRoute joined) (route ++ [relation]) row? := by
  funext r
  by_cases hr : r = route ++ [relation]
  · subst hr
    rw [Function.update_self, byRoute, slot?_addJoin fresh, Option.bind_some, JoinedRow.row?,
      List.lookup_cons_self, Option.join_some]
  · rw [Function.update_of_ne hr]
    cases hs : js.slot? r with
    | some slot =>
      have hne : slot ≠ js.joins.length + 1 := (Nat.lt_succ_of_le (h.slot?_le hs)).ne
      rw [byRoute, byRoute, extends_addJoin r slot hs, hs, Option.bind_some, Option.bind_some,
        JoinedRow.row?, JoinedRow.row?, List.lookup_cons, beq_false_of_ne hne]
    | none =>
      rw [byRoute_eq_none hs, byRoute_eq_none ((slot?_addJoin_eq_none fresh).mpr ⟨hs, hr⟩)]

end JoinTable

namespace Database

open JoinTable

variable {db : Database} {t : Table} {js js' : JoinTable} {source : Slot} {route : List String}
  {relation : String}

theorem rowsByRoute_addJoin (h : js.Grown) (hs : js.slot? route = some source)
    (fresh : route ++ [relation] ∉ js.routes) :
    db.rowsByRoute t (js.addJoin source route relation) =
      (db.rowsByRoute t js).flatMap fun rows =>
        (db.outerPartners relation (rows route)).map
          (Function.update rows (route ++ [relation])) := by
  rw [rowsByRoute, addJoin, joinedRows_append, List.map_flatMap, rowsByRoute, List.flatMap_map]
  refine List.flatMap_congr fun joined _ => ?_
  rw [outerJoin_eq, List.map_map]
  have hrow : joined.row? source = js.byRoute joined route := by
    rw [byRoute, hs, Option.bind_some]
  rw [hrow]
  exact List.map_congr_left fun row? _ => byRoute_addJoin h fresh joined row?

theorem eq_none_of_mem_rowsByRoute {rows : RouteRows} (hrows : rows ∈ db.rowsByRoute t js)
    {r : List String} (hr : js.slot? r = none) : rows r = none := by
  obtain ⟨joined, -, rfl⟩ := List.mem_map.mp hrows
  exact byRoute_eq_none hr

section Count

open Classical in
/-- How often a join brings forth some rows: as often as their last row is a partner, from the rows
without it. -/
theorem count_map_update {rows found : RouteRows} {r : List String} (hr : found r = none)
    (partners : List (Option (Table × Row))) :
    (partners.map (Function.update found r)).count rows =
      if found = Function.update rows r none then partners.count (rows r) else 0 := by
  split
  · next h =>
    have hinj : Function.Injective (Function.update found r) := Function.update_injective found r
    have hrows : Function.update found r (rows r) = rows := by
      rw [h, Function.update_idem, Function.update_eq_self]
    conv_lhs => rw [← hrows]
    exact List.count_map_of_injective partners _ hinj (rows r)
  · next h =>
    refine List.count_eq_zero.mpr fun hmem => h ?_
    obtain ⟨row?, -, rfl⟩ := List.mem_map.mp hmem
    rw [Function.update_idem, ← hr, Function.update_eq_self]

open Classical in
theorem sum_map_ite {α : Type*} (xs : List α) (a : α) (n : ℕ) :
    (xs.map fun x => if x = a then n else 0).sum = xs.count a * n := by
  induction xs with
  | nil => simp
  | cons x xs ih =>
    rw [List.map_cons, List.sum_cons, ih, List.count_cons]
    by_cases hx : x = a
    · rw [if_pos hx, if_pos (beq_iff_eq.mpr hx), Nat.succ_mul, Nat.add_comm]
    · rw [if_neg hx, if_neg (fun h => hx (beq_iff_eq.mp h)), Nat.zero_add, Nat.add_zero]

open Classical in
theorem count_rowsByRoute_empty (rows : RouteRows) :
    (db.rowsByRoute t {}).count rows =
      if ∀ r, ({} : JoinTable).slot? r = none → rows r = none then
        (t.rows.map fun row => some (t, row)).count (rows []) *
          ∏ r ∈ ({} : JoinTable).routes.toFinset,
            (db.outerPartners (r.getLastD "") (rows r.dropLast)).count (rows r)
      else 0 := by
  let atRoot : Option (Table × Row) → RouteRows := fun row? route =>
    if route = [] then row? else none
  have hinj : Function.Injective atRoot := fun a b hab => congrFun hab []
  have hrows : db.rowsByRoute t {} = (t.rows.map fun row => some (t, row)).map atRoot := by
    rw [rowsByRoute_empty, List.map_map]
    rfl
  have hslot : ∀ r, ({} : JoinTable).slot? r = none ↔ r ≠ [] := by
    intro r
    by_cases hr : r = []
    · simp [hr]
    · simp [slot?_of_ne_nil hr, hr]
  simp only [hslot]
  rw [hrows]
  split
  · next h =>
    have heq : atRoot (rows []) = rows := by
      funext r
      by_cases hr : r = []
      · simp [atRoot, hr]
      · simp [atRoot, hr, h r hr]
    conv_lhs => rw [← heq]
    rw [List.count_map_of_injective _ _ hinj]
    simp [routes]
  · next h =>
    refine List.count_eq_zero.mpr fun hmem => h fun r hr => ?_
    obtain ⟨row?, -, rfl⟩ := List.mem_map.mp hmem
    exact if_neg hr

open Classical in
/-- Some rows occur once for every choice of their own row and of a partner along each route. -/
theorem count_rowsByRoute (h : js.Grown) (rows : RouteRows) :
    (db.rowsByRoute t js).count rows =
      if ∀ r, js.slot? r = none → rows r = none then
        (t.rows.map fun row => some (t, row)).count (rows []) *
          ∏ r ∈ js.routes.toFinset,
            (db.outerPartners (r.getLastD "") (rows r.dropLast)).count (rows r)
      else 0 := by
  induction h generalizing rows with
  | empty => exact count_rowsByRoute_empty rows
  | @add js source route relation grown source_eq fresh ih =>
    have hroute : route ≠ route ++ [relation] := by simp
    -- The rows are counted where they come from: at the same rows without the new one.
    have hcount : (db.rowsByRoute t (js.addJoin source route relation)).count rows =
        (db.rowsByRoute t js).count (Function.update rows (route ++ [relation]) none) *
          (db.outerPartners relation (rows route)).count (rows (route ++ [relation])) := by
      rw [rowsByRoute_addJoin grown source_eq fresh, List.count_flatMap, ← sum_map_ite]
      congr 1
      refine List.map_congr_left fun found hfound => ?_
      have hr := eq_none_of_mem_rowsByRoute hfound (slot?_of_fresh fresh)
      rw [Function.comp_apply, count_map_update hr]
      by_cases hfound : found = Function.update rows (route ++ [relation]) none
      · rw [if_pos hfound, if_pos hfound, hfound, Function.update_of_ne hroute]
      · rw [if_neg hfound, if_neg hfound]
    have hsupport : (∀ r, js.slot? r = none →
        Function.update rows (route ++ [relation]) none r = none) ↔
        ∀ r, (js.addJoin source route relation).slot? r = none → rows r = none := by
      refine forall_congr' fun r => ?_
      rw [slot?_addJoin_eq_none fresh]
      by_cases hr : r = route ++ [relation] <;> simp [hr]
    have hprod : ∏ r ∈ js.routes.toFinset,
        (db.outerPartners (r.getLastD "")
          (Function.update rows (route ++ [relation]) none r.dropLast)).count
          (Function.update rows (route ++ [relation]) none r) =
        ∏ r ∈ js.routes.toFinset,
          (db.outerPartners (r.getLastD "") (rows r.dropLast)).count (rows r) := by
      refine Finset.prod_congr rfl fun r hr => ?_
      have hmem : r ∈ js.routes := List.mem_toFinset.mp hr
      have hr : r ≠ route ++ [relation] := fun heq => fresh (heq ▸ hmem)
      rw [Function.update_of_ne hr, Function.update_of_ne (grown.dropLast_ne fresh hmem)]
    rw [hcount, ih, if_congr hsupport rfl rfl, hprod, ite_mul, zero_mul, toFinset_routes_addJoin,
      Finset.prod_insert (fun h => fresh (List.mem_toFinset.mp h)), List.dropLast_concat,
      List.getLastD_concat, Function.update_of_ne (by simp)]
    refine if_congr Iff.rfl ?_ rfl
    ring

/-- The order in which joins came about does not tell in the rows. -/
theorem rowsByRoute_perm (h : js.Grown) (h' : js'.Grown)
    (hroutes : ∀ r, r ∈ js.routes ↔ r ∈ js'.routes) :
    (db.rowsByRoute t js).Perm (db.rowsByRoute t js') := by
  classical
  refine List.perm_iff_count.mpr fun rows => ?_
  have hslot : ∀ r, js.slot? r = none ↔ js'.slot? r = none := by
    intro r
    rw [← Option.not_isSome_iff_eq_none, ← Option.not_isSome_iff_eq_none, isSome_slot?_iff,
      isSome_slot?_iff, hroutes]
  have hset : js.routes.toFinset = js'.routes.toFinset := by
    ext r
    rw [List.mem_toFinset, List.mem_toFinset, hroutes]
  rw [count_rowsByRoute h, count_rowsByRoute h', hset]
  simp only [hslot]

end Count

end Database

end PagedQuery
