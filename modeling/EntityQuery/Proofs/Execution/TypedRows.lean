import EntityQuery.Execution.Mutation
import EntityQuery.Proofs.Execution.Atomicity

/-!
# Rows in stored form

A table has rows of its column types only. Values are brought into stored form before they are written,
so every mutation keeps this, whether it succeeds or not (`Database.WellTyped.mutate`), and so does every
run of mutations (`Database.WellTyped.mutateAll`).
-/

namespace EntityQuery

open Sql

namespace Table

variable {t : Table} {row : Row}

/-- The cells of a row can be looked at one by one. -/
theorem rowOk_iff : t.RowOk row ↔ row.length = t.columns.length ∧
    ∀ cell ∈ t.columns.zip row, cell.1.type.holds cell.2 = true := by
  refine and_congr_right fun hlength => ⟨?_, ?_⟩
  · rintro h ⟨column, v⟩ hcell
    obtain ⟨i, hi⟩ := List.getElem?_of_mem hcell
    obtain ⟨hcolumn, hv⟩ := List.getElem?_zip_eq_some.1 hi
    exact h i column v hcolumn hv
  · intro h i column v hcolumn hv
    exact h (column, v) (List.mem_of_getElem? (List.getElem?_zip_eq_some.2 ⟨hcolumn, hv⟩))

instance (t : Table) (row : Row) : Decidable (t.RowOk row) := decidable_of_iff _ rowOk_iff.symm

/-- The row of a new entry is in stored form. -/
theorem rowOk_nulls (t : Table) : t.RowOk (List.replicate t.columns.length .null) := by
  refine ⟨List.length_replicate, fun i column v hcolumn hv => ?_⟩
  obtain rfl : v = .null := (List.mem_replicate.1 (List.mem_of_getElem? hv)).2
  cases column.type <;> rfl

/-- A stored value may be put into its column. -/
theorem RowOk.set (h : t.RowOk row) {index : Nat} {v stored : Value}
    (hstored : t.normalize index v = .ok stored) : t.RowOk (row.set index stored) := by
  refine ⟨List.length_set.trans h.1, fun i column w hcolumn hw => ?_⟩
  by_cases hi : index = i
  · subst hi
    rw [normalize, hcolumn] at hstored
    rw [List.getElem?_set_self'] at hw
    obtain ⟨old, -, rfl⟩ := Option.map_eq_some_iff.1 hw
    exact ColumnType.holds_of_normalize hstored
  · rw [List.getElem?_set_ne hi] at hw
    exact h.2 i column w hcolumn hw

/-- Assigning keeps a row in stored form. -/
theorem RowOk.assign (h : t.RowOk row) {cells : List (Nat × Value)} {row' : Row}
    (hassign : t.assign row cells = .ok row') : t.RowOk row' := by
  induction cells generalizing row with
  | nil =>
    cases hassign
    exact h
  | cons cell cells ih =>
    obtain ⟨stored, hstored, hassign⟩ := ok_of_bind hassign
    exact ih (h.set hstored) hassign

/-- A new row is in stored form. -/
theorem rowOk_newRow {cells : List (Nat × Value)} (h : t.newRow cells = .ok row) : t.RowOk row :=
  t.rowOk_nulls.assign h

theorem rowOk_storable {rows : List (List (Nat × Value))} (h : row ∈ t.storable rows) :
    t.RowOk row := by
  induction rows with
  | nil => cases h
  | cons cells rows ih =>
    rw [storable] at h
    split at h
    · next new hnew =>
      rcases List.mem_cons.1 h with rfl | h
      · exact rowOk_newRow hnew
      · exact ih h
    · cases h

/-- Stored values may be put into their columns one after the other. -/
theorem RowOk.setAll (h : t.RowOk row) {cells : List (Nat × Value)}
    (hcells : ∀ cell ∈ cells, ∃ v, t.normalize cell.1 v = .ok cell.2) :
    t.RowOk (cells.foldl (fun row (target, v) => row.set target v) row) := by
  induction cells generalizing row with
  | nil => exact h
  | cons cell cells ih =>
    obtain ⟨v, hv⟩ := hcells cell List.mem_cons_self
    exact ih (h.set hv) fun cell' hcell' => hcells cell' (List.mem_cons_of_mem _ hcell')

/-- A row is updated to one in stored form. -/
theorem RowOk.updatedRow (h : t.RowOk row) {parameters : List Value} {filter : Option Expr}
    {assignments : List (Nat × Expr)} {row' : Row}
    (hupdate : t.updatedRow parameters filter assignments row = .ok (some row')) : t.RowOk row' := by
  obtain ⟨answer, -, hupdate⟩ := ok_of_bind hupdate
  cases answer with
  | false => cases hupdate
  | true =>
    obtain ⟨cells, hcells, hupdate⟩ := ok_of_bind hupdate
    obtain rfl := Option.some.inj (Except.ok.inj hupdate)
    refine h.setAll fun cell hcell => ?_
    obtain ⟨⟨target, e⟩, -, hcell⟩ := exists_of_mapM hcells hcell
    obtain ⟨v, -, hcell⟩ := ok_of_bind hcell
    obtain ⟨stored, hstored, hcell⟩ := ok_of_bind hcell
    cases hcell
    exact ⟨v, ok_of_mapError hstored⟩

end Table

/-- Rows that are kept were there. -/
theorem keepRows_mem {holds : Row → Except EvalError Bool} {rows kept : List Row}
    (h : keepRows holds rows = .ok kept) : ∀ row ∈ kept, row ∈ rows := by
  induction rows generalizing kept with
  | nil =>
    cases h
    exact fun row hrow => hrow
  | cons first rows ih =>
    rw [keepRows] at h
    obtain ⟨answer, -, h⟩ := ok_of_bind h
    obtain ⟨rest, hrest, h⟩ := ok_of_bind h
    cases h
    intro row hrow
    split at hrow
    · rcases List.mem_cons.1 hrow with rfl | hrow
      · exact List.mem_cons_self
      · exact List.mem_cons_of_mem _ (ih hrest row hrow)
    · exact List.mem_cons_of_mem _ (ih hrest row hrow)

namespace Database

/-- All rows of all tables are in stored form. -/
def WellTyped (db : Database) : Prop := ∀ t ∈ db.tables, ∀ row ∈ t.rows, t.RowOk row

variable {db db' : Database} {parameters : List Value}

theorem wellTyped_empty : empty.WellTyped := fun _ ht => nomatch ht

/-- A table in stored form may take the place of another. -/
theorem WellTyped.replace (h : db.WellTyped) {t : Table} (ht : ∀ row ∈ t.rows, t.RowOk row) :
    (db.replace t).WellTyped := by
  intro t' ht'
  obtain ⟨old, hold, rfl⟩ := List.mem_map.1 ht'
  split
  · exact ht
  · exact h old hold

theorem WellTyped.create (h : db.WellTyped) {name : String} {columns : List Column}
    (hcreate : db.create name columns = .ok db') : db'.WellTyped := by
  rw [Database.create] at hcreate
  split at hcreate
  · cases hcreate
  · split at hcreate
    · cases hcreate
    · cases hcreate
      intro t ht
      rcases List.mem_append.1 ht with ht | ht
      · exact h t ht
      · rw [List.mem_singleton.1 ht]
        exact fun row hrow => absurd hrow List.not_mem_nil

theorem WellTyped.drop (h : db.WellTyped) {name : String} (hdrop : db.drop name = .ok db') :
    db'.WellTyped := by
  rw [Database.drop] at hdrop
  split at hdrop
  · cases hdrop
    exact fun t ht => h t (List.mem_filter.1 ht).1
  · cases hdrop

theorem WellTyped.insert (h : db.WellTyped) (s : Insert) :
    (db.insert parameters s).2.WellTyped := by
  rw [Database.insert]
  cases hplan : db.insertPlan parameters s with
  | error e => exact h
  | ok plan =>
    rcases plan with ⟨t, rows⟩
    have ht := mem_of_insertPlan hplan
    have hrows : (db.replace { t with rows := t.rows ++ t.storable rows }).WellTyped := by
      refine h.replace fun row hrow => ?_
      rcases List.mem_append.1 hrow with hrow | hrow
      · exact h t ht row hrow
      · exact (Table.rowOk_storable hrow : t.RowOk row)
    dsimp only
    rw [Table.insertRows_eq]
    cases t.refusal rows <;> exact hrows

theorem WellTyped.update (h : db.WellTyped) (s : Update) :
    (db.update parameters s).2.WellTyped := by
  rw [Database.update]
  cases hplan : db.updatePlan parameters s with
  | error e => exact h
  | ok plan =>
    rcases plan with ⟨t, rows⟩
    obtain ⟨t', ht', hplan⟩ := ok_of_bind hplan
    obtain ⟨assignments, -, hplan⟩ := ok_of_bind hplan
    obtain ⟨rows', hrows', hplan⟩ := ok_of_bind hplan
    cases hplan
    refine h.replace fun row hrow => ?_
    obtain ⟨⟨old, changed⟩, hpair, rfl⟩ := List.mem_map.1 hrow
    obtain ⟨row, hold, hpair⟩ := exists_of_mapM hrows' hpair
    obtain ⟨changed', hchanged, hpair⟩ := ok_of_bind hpair
    cases hpair
    have hok := h t (table_eq_ok ht') old hold
    cases changed with
    | none => exact hok
    | some row => exact hok.updatedRow hchanged

theorem WellTyped.delete (h : db.WellTyped) (s : Delete) :
    (db.delete parameters s).2.WellTyped := by
  rw [Database.delete]
  cases hplan : db.deletePlan parameters s with
  | error e => exact h
  | ok plan =>
    rcases plan with ⟨t, rows⟩
    refine h.replace fun row hrow => ?_
    obtain ⟨t', ht', hplan⟩ := ok_of_bind hplan
    cases hfilter : s.filter with
    | none =>
      rw [hfilter] at hplan
      cases hplan
      cases hrow
    | some e =>
      rw [hfilter] at hplan
      obtain ⟨rows', hrows', hplan⟩ := ok_of_bind hplan
      cases hplan
      exact h t (table_eq_ok ht') row (keepRows_mem (ok_of_mapError hrows') row hrow)

/-- No mutation leaves a row that is not in stored form, whether it succeeds or fails. -/
theorem WellTyped.mutate (h : db.WellTyped) (parameters : List Value) (s : Statement) :
    (db.mutate parameters s).2.WellTyped := by
  cases s with
  | select s => exact h
  | insert s => exact h.insert s
  | update s => exact h.update s
  | delete s => exact h.delete s
  | createTable s =>
    rw [Database.mutate]
    split
    · next hcreate => exact h.create hcreate
    · exact h

/-- Mutations one after the other, each on what the last one left. -/
def mutateAll (db : Database) (steps : List (List Value × Statement)) : Database :=
  steps.foldl (fun db step => (db.mutate step.1 step.2).2) db

/-- No run of mutations leaves a row that is not in stored form. -/
theorem WellTyped.mutateAll (h : db.WellTyped) (steps : List (List Value × Statement)) :
    (db.mutateAll steps).WellTyped := by
  induction steps generalizing db with
  | nil => exact h
  | cons step steps ih => exact ih (h.mutate step.1 step.2)

end Database

end EntityQuery
