import EntityQuery.Backend.Basic
import EntityQuery.Execution.Mutation

/-!
# The backend in memory

`Memory` holds a database, the statements prepared on it, and the row sets opened by them.

* A statement is parsed when it is prepared, and its tables must exist then. It may run again and
  again; parameters keep their values until they are set anew.
* A row set holds its rows from the moment it is opened, so later changes do not show in it.
* A closed statement or row set refuses every use but closing again. The names of a statement's
  columns can still be asked for.
-/

namespace EntityQuery

/-- A prepared statement. -/
structure Prepared where
  /-- what it does -/
  statement : Sql.Statement
  /-- the parameters, in order; `none` before they are set -/
  parameters : List (Option Value)
  /-- whether it is closed -/
  closed : Bool

/-- An opened row set. -/
structure RowSet where
  /-- the names of the columns -/
  columns : List String
  /-- the current row, if the set stands on one -/
  current : Option Row
  /-- the rows to come -/
  rest : List Row
  /-- whether the cell read last was `null` -/
  wasNull : Bool
  /-- whether it is closed -/
  closed : Bool
  deriving DecidableEq, Repr

/-- The state of the backend in memory. -/
structure Memory where
  /-- the tables -/
  database : Database
  /-- the statements, by their numbers -/
  statements : Array Prepared
  /-- the row sets, by their numbers -/
  rowSets : Array RowSet

/-! ## Statements -/

namespace Prepared

/-- The values of all parameters. -/
def bound (p : Prepared) : Except BackendError (List Value) :=
  p.parameters.zipIdx.mapM fun (v, i) =>
    match v with
    | some v => .ok v
    | none => .error (.parameterUnset (i + 1))

/-- Sets a parameter. -/
def set (p : Prepared) (index : Nat) (v : Value) : Except BackendError Prepared :=
  if p.closed then .error .closed
  else
    match (position? index).filter (· < p.parameters.length) with
    | some i => .ok { p with parameters := p.parameters.set i (some v) }
    | none => .error (.parameterRange index p.parameters.length)

/-- Closes the statement and forgets its parameters. -/
def close (p : Prepared) : Prepared := { p with parameters := [], closed := true }

/-- Runs a query on a database. -/
def select (p : Prepared) (db : Database) : Except BackendError ResultSet :=
  if p.closed then .error .closed
  else
    match p.statement with
    | .select s => do db.select (← p.bound) s
    | _ => .error .notAQuery

/-- Runs a mutation on a database. -/
def mutate (p : Prepared) (db : Database) : Outcome :=
  if p.closed then (.error .closed, db)
  else
    match p.bound with
    | .error e => (.error e, db)
    | .ok parameters => db.mutate parameters p.statement

end Prepared

/-- Reads a statement whose tables exist. -/
def Database.prepare (db : Database) (sql : String) : Except BackendError Prepared := do
  let parsed ← (Sql.parse sql).mapError .unreadable
  let _ ← parsed.statement.requiredTables.mapM db.table
  return ⟨parsed.statement, List.replicate parsed.parameters none, false⟩

/-- Runs a statement without parameters. -/
def Database.execute (db : Database) (sql : String) : Outcome :=
  match db.prepare sql with
  | .error e => (.error e, db)
  | .ok p => p.mutate db

/-! ## Row sets -/

namespace RowSet

/-- The row set of a query's result, before its first row. -/
def ofResult (r : ResultSet) : RowSet := ⟨r.columns, none, r.rows, false, false⟩

/-- Moves to the next row; whether there is one. -/
def next (r : RowSet) : Except BackendError Bool × RowSet :=
  if r.closed then (.error .closed, r)
  else
    match r.rest with
    | [] => (.ok false, { r with current := none })
    | row :: rest => (.ok true, { r with current := some row, rest := rest })

/-- The cell of a column of the current row. -/
def cell (r : RowSet) (index : Nat) : Except BackendError Value :=
  if r.closed then .error .closed
  else
    match r.current with
    | none => .error .noRow
    | some row =>
      match (position? index).bind (row[·]?) with
      | some v => .ok v
      | none => .error (.columnRange index row.length)

/-- A cell in the form in which it is asked for. Every number is a double. -/
def convert : Getter → Value → Except BackendError Value
  | .object, v => .ok v
  | .double, .null => .ok (.double .zero)
  | .double, v =>
    match v.numeric? with
    | some d => .ok (.double d)
    | none => .error (.conversion "double" v.typeName)
  | .boolean, .null => .ok (.boolean false)
  | .boolean, .boolean b => .ok (.boolean b)
  | .boolean, v => .error (.conversion "boolean" v.typeName)
  | .bytes, .null => .ok .null
  | .bytes, .blob b => .ok (.blob b)
  | .bytes, v => .error (.conversion "blob" v.typeName)

/-- Reads a cell of the current row. -/
def get (r : RowSet) (getter : Getter) (index : Nat) : Except BackendError Value × RowSet :=
  match r.cell index with
  | .error e => (.error e, r)
  | .ok v => (convert getter v, { r with wasNull := v.isNull })

/-- The name of a result column. -/
def columnName (r : RowSet) (index : Nat) : Option String :=
  (position? index).bind (r.columns[·]?)

/-- Closes the row set and forgets its rows. -/
def close (r : RowSet) : RowSet := { r with current := none, rest := [], closed := true }

end RowSet

/-! ## The backend -/

namespace Memory

/-- A backend around an empty database. -/
def empty : Memory := ⟨.empty, #[], #[]⟩

/-- Runs a step on the statement of a handle. -/
def onStatement {α : Type} (id : StatementId)
    (step : Database → Prepared → Except BackendError α × Database × Prepared) : Call Memory α :=
  fun m =>
    match m.statements[id.number]? with
    | none => (.error .closed, m)
    | some p =>
      let (result, db, p) := step m.database p
      (result, { m with database := db, statements := m.statements.setIfInBounds id.number p })

/-- Runs a step on the row set of a handle. -/
def onRowSet {α : Type} (id : RowSetId) (step : RowSet → Except BackendError α × RowSet) :
    Call Memory α := fun m =>
  match m.rowSets[id.number]? with
  | none => (.error .closed, m)
  | some r =>
    let (result, r) := step r
    (result, { m with rowSets := m.rowSets.setIfInBounds id.number r })

/-- Prepares a statement. -/
def prepare (sql : String) : Call Memory StatementId := fun m =>
  match m.database.prepare sql with
  | .error e => (.error e, m)
  | .ok p => (.ok ⟨m.statements.size⟩, { m with statements := m.statements.push p })

/-- Sets a parameter of a statement. -/
def set (id : StatementId) (index : Nat) (setting : Setting) : Call Memory Unit :=
  onStatement id fun db p =>
    match do p.set index (← setting.value) with
    | .ok p => (.ok (), db, p)
    | .error e => (.error e, db, p)

/-- Runs a query and opens a row set on its result. -/
def query (id : StatementId) : Call Memory RowSetId := do
  let result ← onStatement id fun db p => (p.select db, db, p)
  fun m => (.ok ⟨m.rowSets.size⟩, { m with rowSets := m.rowSets.push (.ofResult result) })

/-- Runs a mutation. -/
def mutate (id : StatementId) : Call Memory Nat :=
  onStatement id fun db p =>
    let (result, db) := p.mutate db
    (result, db, p)

/-- The backend in memory. -/
def backend : Backend Memory where
  prepare := prepare
  set := set
  resultColumns id := onStatement id fun db p => (db.resultColumns p.statement, db, p)
  query := query
  mutate := mutate
  close id := onStatement id fun db p => (.ok (), db, p.close)
  next id := onRowSet id RowSet.next
  get id getter index := onRowSet id (·.get getter index)
  wasNull id m := (m.rowSets[id.number]?).any (·.wasNull)
  columnName id index m := (m.rowSets[id.number]?).bind (·.columnName index)
  rowsLeft id m := ((m.rowSets[id.number]?).map (·.rest.length)).getD 0
  closeRows id := onRowSet id fun r => (.ok (), r.close)

end Memory

end EntityQuery
