import EntityQuery.Execution.Select

/-!
# Running mutations

A mutation yields the number of affected rows or an error, and the database afterwards.

* `INSERT` computes all values of all rows first. It then stores row by row, so a value that cannot
  be stored ends it behind the rows before.
* `UPDATE` computes all new rows from the old ones first, and then exchanges them at once; of several
  values for one column the last stays.
* `DELETE` decides about all rows first.
* `CREATE TABLE` affects no row.
-/

namespace EntityQuery

open Sql

/-- The outcome of a mutation: a row count or an error, and the database afterwards. -/
abbrev Outcome := Except BackendError Nat × Database

/-- The position of a column, by the name in a statement. -/
def Table.target (t : Table) (column : String) : Except BackendError Nat :=
  match t.columnIndex? column with
  | some i => .ok i
  | none => .error (.unknownColumn column)

/-- The positions that the values of an `INSERT` go to. -/
def Table.targets (t : Table) : Option (List String) → Except BackendError (List Nat)
  | some columns => columns.mapM t.target
  | none => .ok (List.range t.columns.length)

/-- The cells that one row of an `INSERT` assigns. Its values see no columns. -/
def insertedCells (targets : List Nat) (parameters : List Value) (values : List Expr) :
    Except BackendError (List (Nat × Value)) :=
  if values.length ≠ targets.length then .error (.arity targets.length values.length)
  else do
    let cells ← (values.mapM (Frame.evaluate ⟨.empty, parameters, []⟩)).mapError .evaluation
    return targets.zip cells

/-- What an `INSERT` will store: its table and the cells of each row. -/
def Database.insertPlan (db : Database) (parameters : List Value) (s : Insert) :
    Except BackendError (Table × List (List (Nat × Value))) := do
  let t ← db.table s.table
  let targets ← t.targets s.columns
  return (t, ← s.rows.mapM (insertedCells targets parameters))

/-- Stores rows one after the other, up to the first that cannot be stored. -/
def Table.insertRows (t : Table) : List (List (Nat × Value)) → Except StorageError Unit × Table
  | [] => (.ok (), t)
  | row :: rows =>
    match t.insert row with
    | .error e => (.error e, t)
    | .ok t => t.insertRows rows

/-- Runs an `INSERT`. -/
def Database.insert (db : Database) (parameters : List Value) (s : Insert) : Outcome :=
  match db.insertPlan parameters s with
  | .error e => (.error e, db)
  | .ok (t, rows) =>
    match t.insertRows rows with
    | (.ok (), t) => (.ok rows.length, db.replace t)
    | (.error e, t) => (.error (.storage e), db.replace t)

/-- The new contents of a row under an `UPDATE`, or nothing if the row is not meant. -/
def Table.updatedRow (t : Table) (parameters : List Value) (filter : Option Expr)
    (assignments : List (Nat × Expr)) (row : Row) : Except BackendError (Option Row) := do
  let frame : Frame := ⟨t.scope, parameters, row⟩
  if ← (frame.satisfiesAll filter).mapError .evaluation then
    let cells ← assignments.mapM fun (target, e) => do
      let v ← (frame.evaluate e).mapError .evaluation
      let stored ← (t.normalize target v).mapError .storage
      return (target, stored)
    return some (cells.foldl (fun row (target, v) => row.set target v) row)
  else
    return none

/-- The rows of a table under an `UPDATE`: each with its new contents, if it is meant. -/
def Database.updatePlan (db : Database) (parameters : List Value) (s : Update) :
    Except BackendError (Table × List (Row × Option Row)) := do
  let t ← db.table s.table
  let assignments ← s.assignments.mapM fun (column, e) => return (← t.target column, e)
  let rows ← t.rows.mapM fun row =>
    return (row, ← t.updatedRow parameters s.filter assignments row)
  return (t, rows)

/-- Runs an `UPDATE`. -/
def Database.update (db : Database) (parameters : List Value) (s : Update) : Outcome :=
  match db.updatePlan parameters s with
  | .error e => (.error e, db)
  | .ok (t, rows) =>
    (.ok (rows.countP (·.2.isSome)),
      db.replace { t with rows := rows.map fun (row, changed) => changed.getD row })

/-- The rows of a table that stay under a `DELETE`. -/
def Database.deletePlan (db : Database) (parameters : List Value) (s : Delete) :
    Except BackendError (Table × List Row) := do
  let t ← db.table s.table
  match s.filter with
  | none => return (t, [])
  | some e =>
    let stays := fun row => return !(← Frame.satisfies ⟨t.scope, parameters, row⟩ e)
    return (t, ← (keepRows stays t.rows).mapError .evaluation)

/-- Runs a `DELETE`. -/
def Database.delete (db : Database) (parameters : List Value) (s : Delete) : Outcome :=
  match db.deletePlan parameters s with
  | .error e => (.error e, db)
  | .ok (t, rows) => (.ok (t.rows.length - rows.length), db.replace { t with rows := rows })

/-- Runs a statement that returns no rows. -/
def Database.mutate (db : Database) (parameters : List Value) : Statement → Outcome
  | .select _ => (.error .isAQuery, db)
  | .insert s => db.insert parameters s
  | .update s => db.update parameters s
  | .delete s => db.delete parameters s
  | .createTable s =>
    match db.create s.table (s.columns.map fun (name, type) => ⟨name, type⟩) with
    | .ok db => (.ok 0, db)
    | .error e => (.error e, db)

end EntityQuery
