import EntityQuery.Backend.Memory
import EntityQuery.Proofs.Stateful

/-!
# Mutations that fail

A mutation computes before it changes anything: columns, arities, values and conditions are all
looked at first. What is stored in the end is taken as it is by `UPDATE`, `DELETE` and `CREATE
TABLE`, so these leave the database alone whenever they fail.

`INSERT` is the exception. It brings its values into stored form only while it stores them, row by
row, so a row that cannot be stored stays out and the rows before it stay in:

* `Table.storable` are these rows, and `Table.insertRows_eq` says that they are what is stored;
* `Prepared.SplitsAt` is the case of an `INSERT` that ends behind some rows;
* `failed_mutation_keeps_iff`: this is the one case where a mutation that fails changes the database.
-/

namespace EntityQuery

open Sql

/-! ## Rows of an `INSERT` -/

namespace Table

variable {t : Table}

/-- The stored form of a row does not depend on the rows that are there. -/
theorem newRow_rows (t : Table) (rows : List Row) (cells : List (Nat × Value)) :
    { t with rows := rows }.newRow cells = t.newRow cells := by
  have hassign (row : Row) : { t with rows := rows }.assign row cells = t.assign row cells := by
    induction cells generalizing row with
    | nil => rfl
    | cons cell cells ih =>
      rcases cell with ⟨index, v⟩
      rw [assign, assign]
      exact congrArg _ (funext fun stored => ih _)
  exact hassign _

/-- The rows up to the first that cannot be stored, in their stored form. -/
def storable (t : Table) : List (List (Nat × Value)) → List Row
  | [] => []
  | cells :: rows =>
    match t.newRow cells with
    | .ok row => row :: t.storable rows
    | .error _ => []

/-- Why the first row that cannot be stored cannot be. -/
def refusal (t : Table) : List (List (Nat × Value)) → Except StorageError Unit
  | [] => .ok ()
  | cells :: rows =>
    match t.newRow cells with
    | .ok _ => t.refusal rows
    | .error e => .error e

theorem storable_rows (t : Table) (old : List Row) (rows : List (List (Nat × Value))) :
    { t with rows := old }.storable rows = t.storable rows := by
  induction rows with
  | nil => rfl
  | cons cells rows ih => rw [storable, storable, newRow_rows, ih]

theorem refusal_rows (t : Table) (old : List Row) (rows : List (List (Nat × Value))) :
    { t with rows := old }.refusal rows = t.refusal rows := by
  induction rows with
  | nil => rfl
  | cons cells rows ih => rw [refusal, refusal, newRow_rows, ih]

/-- Storing row by row stores the rows up to the first that cannot be stored. -/
theorem insertRows_eq (t : Table) (rows : List (List (Nat × Value))) :
    t.insertRows rows = (t.refusal rows, { t with rows := t.rows ++ t.storable rows }) := by
  induction rows generalizing t with
  | nil => rw [insertRows, refusal, storable, List.append_nil]
  | cons cells rows ih =>
    rw [insertRows, insert, refusal, storable]
    cases hrow : t.newRow cells with
    | error e => exact congrArg (Prod.mk _) (by rw [List.append_nil])
    | ok row =>
      -- the other rows are stored in a table that has this row already
      change insertRows { t with rows := t.rows ++ [row] } rows = _
      rw [ih, refusal_rows, storable_rows, List.append_assoc]
      rfl

end Table

/-! ## Failed statements -/

namespace Database

variable {db db' : Database} {parameters : List Value} {e : BackendError}

theorem table_eq_ok {name : String} {t : Table} (h : db.table name = .ok t) :
    t ∈ db.tables := by
  rw [table] at h
  split at h
  · next t' hfind =>
    cases h
    exact mem_of_find? hfind
  · cases h

/-- An `INSERT` that is planned is planned for one of the tables. -/
theorem mem_of_insertPlan {s : Insert} {t : Table} {rows : List (List (Nat × Value))}
    (h : db.insertPlan parameters s = .ok (t, rows)) : t ∈ db.tables := by
  obtain ⟨t', ht', h⟩ := ok_of_bind h
  obtain ⟨targets, -, h⟩ := ok_of_bind h
  obtain ⟨rows', -, h⟩ := ok_of_bind h
  cases h
  exact table_eq_ok ht'

theorem update_error {s : Update} (h : db.update parameters s = (.error e, db')) : db' = db := by
  rw [update] at h
  split at h <;> cases h
  rfl

theorem delete_error {s : Delete} (h : db.delete parameters s = (.error e, db')) : db' = db := by
  rw [delete] at h
  split at h <;> cases h
  rfl

theorem createTable_error {s : CreateTable}
    (h : db.mutate parameters (.createTable s) = (.error e, db')) : db' = db := by
  rw [mutate] at h
  split at h <;> cases h
  rfl

end Database

namespace Prepared

variable {p : Prepared} {db db' : Database} {e : BackendError} {t : Table} {stored : List Row}

/-- The statement is an open `INSERT` with all its values at hand, of which the rows `stored` can be
stored in `t`, and the row behind them cannot. -/
def SplitsAt (p : Prepared) (db : Database) (t : Table) (stored : List Row) : Prop :=
  p.closed = false ∧ ∃ parameters s rows cause, p.bound = .ok parameters ∧
    p.statement = .insert s ∧ db.insertPlan parameters s = .ok (t, rows) ∧
    t.refusal rows = .error cause ∧ stored = t.storable rows

theorem SplitsAt.mem (h : p.SplitsAt db t stored) : t ∈ db.tables := by
  obtain ⟨-, parameters, s, rows, cause, -, -, hplan, -, -⟩ := h
  exact Database.mem_of_insertPlan hplan

/-- A statement that ends behind some rows has stored them. -/
theorem SplitsAt.mutate_eq (h : p.SplitsAt db t stored) :
    (p.mutate db).2 = db.replace { t with rows := t.rows ++ stored } := by
  obtain ⟨hopen, parameters, s, rows, cause, hbound, hs, hplan, hrefusal, rfl⟩ := h
  rw [mutate, hopen, hbound, hs]
  simp only [Database.mutate, Database.insert, hplan, Table.insertRows_eq, hrefusal]
  rfl

/-- A statement that fails in any other way leaves the database alone. -/
theorem splitsAt_of_error (h : p.mutate db = (.error e, db')) :
    db' = db ∨ ∃ t stored, p.SplitsAt db t stored := by
  rw [mutate] at h
  split at h
  · cases h
    exact .inl rfl
  · next hopen =>
    split at h
    · cases h
      exact .inl rfl
    · next parameters hbound =>
      -- only an `INSERT` may have changed something before it fails
      cases hs : p.statement with
      | select s =>
        rw [hs] at h
        cases h
        exact .inl rfl
      | update s =>
        rw [hs] at h
        exact .inl (Database.update_error h)
      | delete s =>
        rw [hs] at h
        exact .inl (Database.delete_error h)
      | createTable s =>
        rw [hs] at h
        exact .inl (Database.createTable_error h)
      | insert s =>
        rw [hs, Database.mutate, Database.insert] at h
        split at h
        · cases h
          exact .inl rfl
        · next t rows hplan =>
          rw [Table.insertRows_eq] at h
          cases hrefusal : t.refusal rows with
          | ok u =>
            rw [hrefusal] at h
            cases h
          | error cause =>
            exact .inr ⟨t, t.storable rows, by simpa using hopen, parameters, s, rows, cause,
              hbound, hs, hplan, hrefusal, rfl⟩

end Prepared

/-- Storing more rows in a table changes the database. -/
theorem Database.replace_append_eq_iff {db : Database} {t : Table} (h : t ∈ db.tables)
    (stored : List Row) :
    db.replace { t with rows := t.rows ++ stored } = db ↔ stored = [] := by
  constructor
  · intro heq
    -- the changed table would be a second table of one name
    have hmem : { t with rows := t.rows ++ stored } ∈ db.tables := by
      rw [← heq]
      exact List.mem_map.2 ⟨t, h, if_pos rfl⟩
    have hsame : t = { t with rows := t.rows ++ stored } := eq_of_name_eq h hmem rfl
    exact List.self_eq_append_right.1 (congrArg Table.rows hsame)
  · rintro rfl
    rw [List.append_nil]
    exact replace_of_mem h

/-- The one row of an `INSERT` is stored, or nothing is. -/
theorem Table.storable_eq_nil {t : Table} {rows : List (List (Nat × Value))} {cause : StorageError}
    (hlength : rows.length ≤ 1) (h : t.refusal rows = .error cause) : t.storable rows = [] := by
  cases rows with
  | nil => rfl
  | cons cells rows =>
    obtain rfl := List.length_eq_zero_iff.1 (Nat.le_zero.1 (Nat.le_of_succ_le_succ hlength))
    rw [refusal] at h
    rw [storable]
    split
    · next hrow =>
      rw [hrow] at h
      cases h
    · rfl

/-- An `INSERT` has as many rows to store as it lists. -/
theorem Database.length_of_insertPlan {db : Database} {parameters : List Value} {s : Insert}
    {t : Table} {rows : List (List (Nat × Value))}
    (h : db.insertPlan parameters s = .ok (t, rows)) : rows.length = s.rows.length := by
  obtain ⟨t', -, h⟩ := ok_of_bind h
  obtain ⟨targets, -, h⟩ := ok_of_bind h
  obtain ⟨rows', hrows, h⟩ := ok_of_bind h
  cases h
  exact length_of_mapM hrows

/-- When a failed mutation leaves the database as it was.

Every mutation does, with one exception: an `INSERT` of several rows that ends at a row whose values
cannot be stored, behind rows that can. These rows stay in its table, and nothing else changes. -/
theorem failed_mutation_keeps_iff {p : Prepared} {db db' : Database} {e : BackendError}
    (h : p.mutate db = (.error e, db')) :
    (db' = db ↔ ¬ ∃ t stored, p.SplitsAt db t stored ∧ stored ≠ []) ∧
    (∀ t stored, p.SplitsAt db t stored →
      db' = db.replace { t with rows := t.rows ++ stored }) ∧
    (db' ≠ db → ∃ s, p.statement = .insert s ∧ 1 < s.rows.length) := by
  have hdb (t : Table) (stored : List Row) (hsplits : p.SplitsAt db t stored) :
      db' = db.replace { t with rows := t.rows ++ stored } := by
    rw [← hsplits.mutate_eq, h]
  have hiff : db' = db ↔ ¬ ∃ t stored, p.SplitsAt db t stored ∧ stored ≠ [] := by
    constructor
    · rintro rfl ⟨t, stored, hsplits, hne⟩
      exact hne ((Database.replace_append_eq_iff hsplits.mem stored).1 (hdb t stored hsplits).symm)
    · intro hnone
      rcases Prepared.splitsAt_of_error h with hsame | ⟨t, stored, hsplits⟩
      · exact hsame
      · have hnil : stored = [] := by
          by_cases hstored : stored = []
          · exact hstored
          · exact absurd ⟨t, stored, hsplits, hstored⟩ hnone
        rw [hdb t stored hsplits]
        exact (Database.replace_append_eq_iff hsplits.mem stored).2 hnil
  refine ⟨hiff, hdb, fun hne => ?_⟩
  rcases Prepared.splitsAt_of_error h with hsame | ⟨t, stored, hsplits⟩
  · exact absurd hsame hne
  · obtain ⟨-, parameters, s, rows, cause, -, hs, hplan, hrefusal, rfl⟩ := id hsplits
    refine ⟨s, hs, Nat.lt_of_not_le fun hlength => hne ?_⟩
    rw [← Database.length_of_insertPlan hplan] at hlength
    rw [hdb t _ hsplits]
    exact (Database.replace_append_eq_iff hsplits.mem _).2 (Table.storable_eq_nil hlength hrefusal)

/-- A table `T` with one integer column and no rows. -/
def Database.oneColumn : Database := ⟨[⟨"T", [⟨"A", .integer⟩], []⟩], by decide⟩

/-- A number, and a text behind it. -/
def Prepared.numberThenText : Prepared :=
  ⟨.insert ⟨"T", some ["A"], [[.literal (.integer 1)], [.literal (.string "x")]]⟩, [], false⟩

/-- The number is stored, the text is not, and the number stays. -/
theorem failed_mutation_keeps_iff_number :
    Database.oneColumn.prepare "INSERT INTO T (A) VALUES (1), ('x')" = .ok .numberThenText ∧
      ∃ db', Prepared.numberThenText.mutate .oneColumn =
          (.error (.storage (.mismatch "string" .integer)), db') ∧
        db' = Database.oneColumn.replace ⟨"T", [⟨"A", .integer⟩], [[.integer 1]]⟩ := by
  have hmutate : Prepared.numberThenText.mutate .oneColumn =
      (.error (.storage (.mismatch "string" .integer)),
        (Prepared.numberThenText.mutate .oneColumn).2) := by rfl
  refine ⟨by cbv, _, hmutate, ?_⟩
  exact (failed_mutation_keeps_iff hmutate).2.1 ⟨"T", [⟨"A", .integer⟩], []⟩ [[.integer 1]]
    ⟨rfl, [], _, _, _, rfl, rfl, rfl, rfl, rfl⟩

/-- So not every mutation that fails leaves the database as it was. -/
theorem failed_insert_changes_database :
    ¬ ∀ (p : Prepared) (db db' : Database) (e : BackendError),
      p.mutate db = (.error e, db') → db' = db := by
  intro h
  have hsame := h .numberThenText .oneColumn (Prepared.numberThenText.mutate .oneColumn).2
    (.storage (.mismatch "string" .integer)) rfl
  have hrows : (Prepared.numberThenText.mutate .oneColumn).2.tables.map (·.rows.length) = [1] := rfl
  rw [hsame] at hrows
  exact absurd hrows (by decide)

end EntityQuery
