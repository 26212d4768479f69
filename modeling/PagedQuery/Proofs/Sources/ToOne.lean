import PagedQuery.Proofs.Sources.Reading

/-!
# Relations to one

Where relations lead to one row at most, joins along them neither drop nor multiply rows: each row
of a statement's own table is read once, together with the rows that its relations lead to.
-/

namespace PagedQuery

namespace Database

variable {db : Database} {t : Table} {js : JoinTable}

/-- The first row that a relation leads to from a row, missing from a missing one. -/
def next (db : Database) (row? : Option (Table × Row)) (relation : String) : Option (Table × Row) :=
  (db.partners relation row?).head?

/-- The row at the end of a route. -/
def follow (db : Database) (row? : Option (Table × Row)) (route : List String) :
    Option (Table × Row) :=
  route.foldl db.next row?

@[simp] theorem follow_nil (row? : Option (Table × Row)) : db.follow row? [] = row? := rfl

@[simp] theorem follow_cons (row? : Option (Table × Row)) (relation : String)
    (route : List String) :
    db.follow row? (relation :: route) = db.follow (db.next row? relation) route := rfl

@[simp] theorem follow_concat (row? : Option (Table × Row)) (route : List String)
    (relation : String) :
    db.follow row? (route ++ [relation]) = db.next (db.follow row? route) relation :=
  List.foldl_append

@[simp] theorem next_none (relation : String) : db.next none relation = none := rfl

@[simp] theorem follow_none (route : List String) : db.follow none route = none := by
  induction route with
  | nil => rfl
  | cons relation route ih => exact ih

/-- Whether a route from a row passes relations to one only. -/
def Single (db : Database) (row? : Option (Table × Row)) (route : List String) : Prop :=
  (db.partners (route.getLastD "") (db.follow row? route.dropLast)).length ≤ 1

theorem single_cons {row? : Option (Table × Row)} {relation : String} {route : List String}
    (h : route ≠ []) :
    db.Single row? (relation :: route) ↔ db.Single (db.next row? relation) route := by
  rw [Single, Single, List.dropLast_cons_of_ne_nil h, follow_cons]
  obtain ⟨next, rest, rfl⟩ := List.exists_cons_of_ne_nil h
  rfl

theorem outerPartners_of_length_le_one {relation : String} {row? : Option (Table × Row)}
    (h : (db.partners relation row?).length ≤ 1) :
    db.outerPartners relation row? = [db.next row? relation] := by
  unfold outerPartners next
  cases hp : db.partners relation row? with
  | nil => rfl
  | cons first rest =>
    rw [hp, List.length_cons] at h
    obtain rfl := List.length_eq_zero_iff.mp (Nat.le_zero.mp (Nat.le_of_succ_le_succ h))
    rfl

/-- What a row and the rows at the ends of routes are read as. -/
def view (db : Database) (t : Table) (js : JoinTable) (row : Row) : RouteRows := fun route =>
  if (js.slot? route).isSome then db.follow (some (t, row)) route else none

theorem view_of_isSome {route : List String} (h : (js.slot? route).isSome) (row : Row) :
    db.view t js row route = db.follow (some (t, row)) route := if_pos h

theorem view_addJoin {source : Slot} {route : List String} {relation : String}
    (hs : js.slot? route = some source) (fresh : route ++ [relation] ∉ js.routes) (row : Row) :
    db.view t (js.addJoin source route relation) row =
      Function.update (db.view t js row) (route ++ [relation])
        (db.next (db.view t js row route) relation) := by
  funext r
  by_cases hr : r = route ++ [relation]
  · subst hr
    rw [Function.update_self, view_of_isSome (by rw [JoinTable.slot?_addJoin fresh]; rfl),
      view_of_isSome (by rw [hs]; rfl), follow_concat]
  · rw [Function.update_of_ne hr, view, view]
    refine if_congr ?_ rfl rfl
    rw [JoinTable.isSome_slot?_iff, JoinTable.isSome_slot?_iff, JoinTable.routes_addJoin,
      List.mem_append, List.mem_singleton, or_iff_left hr]

/-- Joins along relations to one read every row of a table once. -/
theorem rowsByRoute_of_single (h : js.Grown)
    (hsingle : ∀ row ∈ t.rows, ∀ r ∈ js.routes, db.Single (some (t, row)) r) :
    db.rowsByRoute t js = t.rows.map (db.view t js) := by
  induction h with
  | empty =>
    rw [rowsByRoute_empty]
    refine List.map_congr_left fun row _ => funext fun route => ?_
    by_cases hr : route = []
    · subst hr
      rfl
    · rw [view, JoinTable.slot?_of_ne_nil hr, if_neg hr]
      rfl
  | @add js source route relation grown source_eq fresh ih =>
    have hsub : ∀ r ∈ js.routes, r ∈ (js.addJoin source route relation).routes := fun r hr => by
      rw [JoinTable.routes_addJoin]
      exact List.mem_append_left _ hr
    rw [rowsByRoute_addJoin grown source_eq fresh,
      ih fun row hrow r hr => hsingle row hrow r (hsub r hr), List.flatMap_map, List.map_eq_flatMap]
    refine List.flatMap_congr fun row hrow => ?_
    have hone : (db.partners relation (db.view t js row route)).length ≤ 1 := by
      have hone := hsingle row hrow (route ++ [relation]) (by simp)
      rwa [Single, List.getLastD_concat, List.dropLast_concat,
        ← view_of_isSome (by rw [source_eq]; rfl)] at hone
    rw [outerPartners_of_length_le_one hone, view_addJoin source_eq fresh]
    rfl

/-- A relation to one leads to one row at most. -/
theorem partners_length_le_one {relation : String} {row? : Option (Table × Row)}
    (h : ∀ t row, row? = some (t, row) → ∀ r, t.relation? relation = some r → r.many = false) :
    (db.partners relation row?).length ≤ 1 := by
  unfold partners
  split
  · exact Nat.zero_le _
  · next t row =>
    split
    · exact Nat.zero_le _
    · next r hr =>
      split
      · exact Nat.zero_le _
      · next target htarget =>
        rw [List.length_map, related, htarget, h t row rfl r hr]
        simp only [Bool.false_eq_true, if_false]
        split
        · cases target.row? _ <;> simp
        · exact Nat.zero_le _

end Database

end PagedQuery
