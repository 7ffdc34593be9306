import EntityQuery.Proofs.Evaluation.Meaning
import EntityQuery.Proofs.Execution.Atomicity
import EntityQuery.Proofs.Storage.EntityTables

/-!
# What an update makes of a table

An update assigns to its columns all at once. Conditions and new values are computed from the rows as
they were, whatever is written to them, so `SET A = B, B = A` exchanges two columns.

* `Update.assigned?` is what counts for a column of the table: the last assignment to it.
* `Update.SetsCell` and `Update.SetsRow` say what a cell and a row become.
* `update_assigns_at_once` says this of the table, and that nothing else changes; an update that fails
  changes nothing at all.
-/

namespace EntityQuery

open Sql

/-! ## What an update says -/

namespace Sql.Update

variable (s : Update) (t : Table) (parameters : List Value)

/-- Whether the condition of an update is true for a row of its table. -/
def isTrueFor (row : Row) : Bool :=
  s.filter.all fun e =>
    (Frame.evaluate ⟨t.scope, parameters, row⟩ e).toOption == some (.boolean true)

/-- What the last assignment to the column in a position has on its right. -/
def assigned? (i : Nat) : Option Expr :=
  (s.assignments.reverse.find? fun a => t.columnIndex? a.1 == some i).map (·.2)

/-- What becomes of the cell in a position of a row: the value of the last assignment to its column, in
stored form, where the value is computed from the row as it was; or the cell as it was, if there is no
assignment to its column. -/
def SetsCell (row : Row) (i : Nat) (new : Value) : Prop :=
  match s.assigned? t i with
  | some e => ∃ v, Frame.evaluate ⟨t.scope, parameters, row⟩ e = .ok v ∧ t.normalize i v = .ok new
  | none => row[i]? = some new

/-- What becomes of a row: its cells are set where the condition is true, and otherwise it stays. -/
def SetsRow (row new : Row) : Prop :=
  if s.isTrueFor t parameters row then
    new.length = row.length ∧ ∀ i v, new[i]? = some v → s.SetsCell t parameters row i v
  else new = row

end Sql.Update

/-! ## Cells -/

section Cells

variable {α : Type}

/-- Writing cells to a row keeps its width. -/
theorem length_foldl_set (row : List α) (cells : List (Nat × α)) :
    (cells.foldl (fun row cell => row.set cell.1 cell.2) row).length = row.length := by
  induction cells generalizing row with
  | nil => rfl
  | cons cell cells ih => exact (ih _).trans List.length_set

/-- Of several values that are written to one cell, the last stays. -/
theorem getElem?_foldl_set (row : List α) (cells : List (Nat × α)) (i : Nat) :
    (cells.foldl (fun row cell => row.set cell.1 cell.2) row)[i]? =
      row[i]?.map fun old => (cells.reverse.lookup i).getD old := by
  induction cells using List.reverseRecOn with
  | nil => exact Option.map_id'.symm
  | append_singleton cells cell ih =>
    rcases cell with ⟨j, v⟩
    rw [List.foldl_concat, List.getElem?_set', ih, List.reverse_concat, List.lookup_cons]
    by_cases hij : i = j
    · subst hij
      rw [if_pos rfl, beq_self_eq_true]
      exact Option.map_map _ _ _
    · rw [if_neg fun h => hij h.symm, beq_eq_false_iff_ne.2 hij]

end Cells

namespace Table

variable {t : Table} {parameters : List Value} {row : Row}

/-- The cell that an assignment writes to a row. -/
def Assigns (t : Table) (parameters : List Value) (row : Row) (a : String × Expr)
    (cell : Nat × Value) : Prop :=
  t.columnIndex? a.1 = some cell.1 ∧ ∃ v,
    Frame.evaluate ⟨t.scope, parameters, row⟩ a.2 = .ok v ∧ t.normalize cell.1 v = .ok cell.2

/-- The first of the cells in a position is written by the first of the assignments to its column. -/
theorem Assigns.lookup {assignments : List (String × Expr)} {cells : List (Nat × Value)}
    (h : List.Forall₂ (t.Assigns parameters row) assignments cells) (i : Nat) :
    Option.Rel (fun a v => t.Assigns parameters row a (i, v))
      (assignments.find? fun a => t.columnIndex? a.1 == some i) (cells.lookup i) := by
  induction h with
  | nil => exact .none
  | @cons a cell assignments cells ha _ ih =>
    rcases cell with ⟨j, v⟩
    have hindex : t.columnIndex? a.1 = some j := ha.1
    rw [List.find?_cons, List.lookup_cons, hindex]
    by_cases hij : i = j
    · subst hij
      rw [beq_self_eq_true, beq_self_eq_true]
      exact .some ha
    · have hji : (some j == some i) = false := beq_eq_false_iff_ne.2 fun h => hij (Option.some.inj h).symm
      rw [hji, beq_eq_false_iff_ne.2 hij]
      exact ih

/-- A column that is found is a column of the table. -/
theorem lt_of_columnIndex? {column : String} {i : Nat} (h : t.columnIndex? column = some i) :
    i < t.columns.length := by
  have hlt := (List.findIdx?_eq_some_iff_getElem.1 h).1
  rwa [columnNames, List.length_map] at hlt

theorem target_eq_ok {column : String} {i : Nat} (h : t.target column = .ok i) :
    t.columnIndex? column = some i := by
  rw [target] at h
  split at h
  · next hindex => exact hindex.trans (congrArg some (Except.ok.inj h))
  · cases h

/-- The cell that is written for a target and the expression for it. -/
def Writes (t : Table) (parameters : List Value) (row : Row) (target : Nat × Expr)
    (cell : Nat × Value) : Prop :=
  cell.1 = target.1 ∧ ∃ v,
    Frame.evaluate ⟨t.scope, parameters, row⟩ target.2 = .ok v ∧ t.normalize target.1 v = .ok cell.2

variable {filter : Option Expr} {targets : List (Nat × Expr)} {changed : Option Row}

/-- Inversion: a row that is gone through has an answer to the condition, and if it is meant, a cell for
each target. -/
theorem updatedRow_eq_ok (h : t.updatedRow parameters filter targets row = .ok changed) :
    ∃ answer, Frame.satisfiesAll ⟨t.scope, parameters, row⟩ filter = .ok answer ∧
      if answer then
        ∃ cells, List.Forall₂ (t.Writes parameters row) targets cells ∧
          changed = some (cells.foldl (fun row cell => row.set cell.1 cell.2) row)
      else changed = none := by
  obtain ⟨answer, hanswer, h⟩ := ok_of_bind h
  refine ⟨answer, ok_of_mapError hanswer, ?_⟩
  cases answer with
  | false => exact (Except.ok.inj h).symm
  | true =>
    obtain ⟨cells, hcells, h⟩ := ok_of_bind h
    refine ⟨cells, (forall₂_of_mapM hcells).imp fun target cell hcell => ?_, (Except.ok.inj h).symm⟩
    obtain ⟨v, hv, hcell⟩ := ok_of_bind hcell
    obtain ⟨stored, hstored, hcell⟩ := ok_of_bind hcell
    cases hcell
    exact ⟨rfl, v, ok_of_mapError hv, ok_of_mapError hstored⟩

/-- The target of an assignment: the position of its column, and what stands on its right. -/
def Aims (t : Table) (a : String × Expr) (target : Nat × Expr) : Prop :=
  t.columnIndex? a.1 = some target.1 ∧ target.2 = a.2

/-- What is written for the targets of assignments, the assignments write. -/
theorem assigns_of_writes {assignments : List (String × Expr)} {cells : List (Nat × Value)}
    (haims : List.Forall₂ t.Aims assignments targets)
    (hwrites : List.Forall₂ (t.Writes parameters row) targets cells) :
    List.Forall₂ (t.Assigns parameters row) assignments cells := by
  induction haims generalizing cells with
  | nil =>
    cases hwrites
    exact .nil
  | @cons a target _ _ ha _ ih =>
    obtain ⟨cell, cells, ⟨hcell, v, hv, hstored⟩, hrest, rfl⟩ := List.forall₂_cons_left_iff.1 hwrites
    refine .cons ⟨ha.1.trans (congrArg some hcell.symm), v, ?_, ?_⟩ (ih hrest)
    · exact ha.2 ▸ hv
    · exact hcell ▸ hstored

end Table

/-! ## Rows -/

section Rows

variable {s : Update} {t : Table} {parameters : List Value} {row : Row}

/-- A row with the cells that the assignments write has its cells set. -/
theorem setsCell_of_assigns {cells : List (Nat × Value)}
    (h : List.Forall₂ (t.Assigns parameters row) s.assignments cells) {i : Nat} {new : Value}
    (hnew : (cells.foldl (fun row cell => row.set cell.1 cell.2) row)[i]? = some new) :
    s.SetsCell t parameters row i new := by
  have hlast := Table.Assigns.lookup (List.rel_reverse h) i
  rw [getElem?_foldl_set] at hnew
  obtain ⟨old, hold, hnew⟩ := Option.map_eq_some_iff.1 hnew
  rw [Update.SetsCell, Update.assigned?]
  generalize s.assignments.reverse.find? (fun a => t.columnIndex? a.1 == some i) = last at hlast ⊢
  generalize cells.reverse.lookup i = written at hlast hnew
  cases hlast with
  | none => exact hold.trans (congrArg some hnew)
  | some ha => exact hnew ▸ ha.2

variable {targets : List (Nat × Expr)} {changed : Option Row}

/-- A row that is gone through becomes what the update says, and has new contents exactly if the
condition is true for it. -/
theorem setsRow_of_updatedRow (haims : List.Forall₂ t.Aims s.assignments targets)
    (h : t.updatedRow parameters s.filter targets row = .ok changed) :
    s.SetsRow t parameters row (changed.getD row) ∧
      changed.isSome = s.isTrueFor t parameters row := by
  obtain ⟨answer, hanswer, hchanged⟩ := Table.updatedRow_eq_ok h
  have htrue : s.isTrueFor t parameters row = answer := Frame.isTrue_of_satisfiesAll hanswer
  rw [Update.SetsRow, htrue]
  cases answer with
  | false =>
    obtain rfl : changed = none := hchanged
    exact ⟨rfl, rfl⟩
  | true =>
    obtain ⟨cells, hwrites, rfl⟩ := hchanged
    have hassigns := Table.assigns_of_writes haims hwrites
    exact ⟨⟨length_foldl_set row cells, fun i v => setsCell_of_assigns hassigns⟩, rfl⟩

end Rows

/-! ## Updates -/

namespace Database

variable {db : Database} {parameters : List Value} {s : Update} {t : Table}

theorem find?_of_table {name : String} (h : db.table name = .ok t) : db.find? name = some t := by
  rw [table] at h
  split at h
  · next t' hfind => exact hfind.trans (congrArg some (Except.ok.inj h))
  · cases h

/-- Inversion: an update that is planned has a table, a target for each assignment, and has gone through
each row. -/
theorem updatePlan_eq_ok {rows : List (Row × Option Row)}
    (h : db.updatePlan parameters s = .ok (t, rows)) :
    db.find? s.table = some t ∧ ∃ targets, List.Forall₂ t.Aims s.assignments targets ∧
      List.Forall₂ (fun row entry => entry.1 = row ∧
        t.updatedRow parameters s.filter targets row = .ok entry.2) t.rows rows := by
  obtain ⟨t', ht, h⟩ := ok_of_bind h
  obtain ⟨targets, htargets, h⟩ := ok_of_bind h
  obtain ⟨rows', hrows, h⟩ := ok_of_bind h
  cases h
  refine ⟨find?_of_table ht, targets, ?_, ?_⟩
  · refine (forall₂_of_mapM htargets).imp fun a target ha => ?_
    obtain ⟨i, hi, ha⟩ := ok_of_bind ha
    cases ha
    exact ⟨Table.target_eq_ok hi, rfl⟩
  · refine (forall₂_of_mapM hrows).imp fun row entry hentry => ?_
    obtain ⟨changed, hchanged, hentry⟩ := ok_of_bind hentry
    cases hentry
    exact ⟨rfl, hchanged⟩

/-- A table that is found under a name is replaced under this name, and under no other. -/
theorem find?_replace_rows {name : String} (hfound : db.find? name = some t) (rows : List Row) :
    (db.replace { t with rows := rows }).find? name = some { t with rows := rows } ∧
      ∀ other, key other ≠ key name →
        (db.replace { t with rows := rows }).find? other = db.find? other := by
  constructor
  · rw [find?_replace, hfound, Option.map_some, if_pos rfl]
  · intro other hother
    rw [find?_replace]
    cases hfind : db.find? other with
    | none => rfl
    | some old =>
      have hne : old.name ≠ t.name := by
        rw [name_of_find? hfind, name_of_find? hfound]
        exact hother
      rw [Option.map_some, if_neg hne]

end Database

/-- An update is a simultaneous assignment.

If it succeeds, its count is the number of rows of its table for which its condition is true. There are
as many rows as before, in the same order. A row for which the condition is true has, in each column that
is assigned to, the stored form of what the last assignment to the column says about the row as it was,
and its other cells stay. The other rows stay, and so do the other tables.

If it fails, nothing is changed. -/
theorem update_assigns_at_once (db : Database) (parameters : List Value) (s : Update) :
    (∀ k db', db.update parameters s = (.ok k, db') →
      ∃ t rows, db.find? s.table = some t ∧
        (∀ a ∈ s.assignments, ∃ i < t.columns.length, t.columnIndex? a.1 = some i) ∧
        k = t.rows.countP (s.isTrueFor t parameters) ∧
        List.Forall₂ (s.SetsRow t parameters) t.rows rows ∧
        db' = db.replace { t with rows := rows } ∧
        db'.find? s.table = some { t with rows := rows } ∧
        ∀ name, Database.key name ≠ Database.key s.table → db'.find? name = db.find? name) ∧
    ∀ e db', db.update parameters s = (.error e, db') → db' = db := by
  refine ⟨fun k db' h => ?_, fun e db' => Database.update_error⟩
  rw [Database.update] at h
  split at h
  · cases h
  · next t entries hplan =>
    cases h
    obtain ⟨hfound, targets, haims, hrows⟩ := Database.updatePlan_eq_ok hplan
    have hsets : List.Forall₂ (fun row entry => s.SetsRow t parameters row (entry.2.getD entry.1) ∧
        entry.2.isSome = s.isTrueFor t parameters row) t.rows entries := by
      refine hrows.imp fun row entry h => ?_
      obtain ⟨hentry, hchanged⟩ := h
      rw [hentry]
      exact setsRow_of_updatedRow haims hchanged
    have htrue : t.rows.map (s.isTrueFor t parameters) = entries.map (·.2.isSome) := by
      refine List.forall₂_eq_eq_eq ▸ List.forall₂_map_left_iff.2 (List.forall₂_map_right_iff.2 ?_)
      exact hsets.imp fun row entry h => h.2.symm
    have hcount : entries.countP (·.2.isSome) = t.rows.countP (s.isTrueFor t parameters) := by
      have hcountP := congrArg (List.countP id) htrue
      rw [List.countP_map, List.countP_map] at hcountP
      exact hcountP.symm
    have hcolumns : ∀ a ∈ s.assignments, ∃ i < t.columns.length, t.columnIndex? a.1 = some i := by
      refine ((List.forall₂_and_left (R := t.Aims) _ _).1 (haims.imp fun a target ha => ?_)).1
      exact ⟨⟨target.1, Table.lt_of_columnIndex? ha.1, ha.1⟩, ha⟩
    have hfinds := Database.find?_replace_rows hfound
      (entries.map fun entry => entry.2.getD entry.1)
    refine ⟨t, _, hfound, hcolumns, hcount, ?_, rfl, hfinds.1, hfinds.2⟩
    exact List.forall₂_map_right_iff.2 (hsets.imp fun row entry h => h.1)

/-- A table `T` with two integer columns. -/
def Database.twoColumns : Database :=
  ⟨[⟨"T", [⟨"A", .integer⟩, ⟨"B", .integer⟩],
    [[.integer 1, .integer 2], [.integer 3, .null], [.null, .integer 4]]⟩], by decide⟩

/-- `UPDATE T SET A = B, B = A WHERE A <= 3`. -/
def Sql.Update.exchange : Update :=
  ⟨"T", [("A", .column "B"), ("B", .column "A")],
    some (.compare .lessEqual (.column "A") (.literal (.integer 3)))⟩

/-- The first two rows have their cells exchanged. In the third the condition is unknown. -/
theorem update_assigns_at_once_exchange :
    ∃ db', Database.twoColumns.update [] .exchange = (.ok 2, db') ∧
      (db'.find? "T").map (·.rows) =
        some [[.integer 2, .integer 1], [.null, .integer 3], [.null, .integer 4]] ∧
      ∃ t, Database.twoColumns.find? "T" = some t ∧
        2 = t.rows.countP (Update.exchange.isTrueFor t []) := by
  refine ⟨_, rfl, rfl, ?_⟩
  obtain ⟨t, rows, hfound, -, hcount, -⟩ := (update_assigns_at_once .twoColumns [] .exchange).1 2 _ rfl
  exact ⟨t, hfound, hcount⟩

end EntityQuery
