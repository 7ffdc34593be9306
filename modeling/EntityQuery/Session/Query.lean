import EntityQuery.Request.Binding
import EntityQuery.Request.Select
import EntityQuery.Session.Cursor

/-!
# Prepared queries

A `Query` is a select request with its prepared statement. Each execution binds the constraint anew,
so that fed cells and columns are read again, and opens a cursor; the column handles of the query read
from that cursor from then on.

* `Session.queryRecords` and `Session.queryUnique` run a query to its end, and give the cursor up whatever
  happens;
* a unique result is one row exactly, and it is read before the second move.
-/

namespace EntityQuery

/-- A select request with its prepared statement. -/
structure Query where
  /-- the text -/
  sql : String
  /-- the statement -/
  statement : StatementRef
  /-- the selected fields that have a column, with their handles -/
  columns : List (Field × ColumnHandle)
  /-- the condition -/
  constraint : Option Constraint
  /-- the number of placeholders -/
  parameterCount : Nat
  /-- whether an exhausted cursor closes the statement -/
  autoClose : Bool

variable {σ α : Type}

namespace Session

/-- The binder of a request on its open statement. -/
def binder (s : Session σ) (sql : String) (id : StatementId) : Binder (Store σ) where
  sql := sql
  blobMode := s.config.blobMode
  read := s.readAccessor
  put index setting := Step.ofCall (s.backend.set id index setting)

/-- A new cursor, to which the handles of its columns are attached. -/
def openCursor (c : Cursor) : Step σ CursorId := do
  let id : CursorId := ⟨(← get).cursors.size⟩
  modify fun store =>
    { store with
      cursors := store.cursors.push c
      slots := c.columns.foldl (fun slots (_, h) => slots.attach id h) store.slots }
  return id

/-- Runs a query; a cursor before its first row. -/
def execute (s : Session σ) (q : Query) : Step σ CursorId := do
  let id ← opened q.statement q.sql
  let _ ← (s.binder q.sql id).bind [] q.constraint q.parameterCount
  let rows ← (Step.ofCall (s.backend.query id)).adapt (.execution q.sql)
  openCursor ⟨some rows, .unopened, 0, q.columns, q.statement, q.autoClose, q.sql⟩

/-- Runs a query, works with the cursor, and gives it up. -/
def withCursor (s : Session σ) (q : Query) (work : CursorId → Step σ α) : Step σ α := do
  let id ← s.execute q
  let result ← Step.attempt (work id)
  s.dropCursor id
  Step.ofExcept result

/-- All rows of a query. -/
def queryRecords (s : Session σ) (q : Query) : Step σ (List Record) :=
  s.withCursor q s.records

/-- The row of a query that has exactly one. -/
def queryUnique (s : Session σ) (q : Query) : Step σ Record :=
  s.withCursor q fun id => do
    unless ← s.next id do throw (.notFound q.sql)
    let r ← s.record id
    if ← s.next id then
      s.closeCursor id
      throw (.tooManyRows q.sql)
    return r

/-- Releases the statement of a query. -/
def closeQuery (s : Session σ) (q : Query) : Step σ Unit := s.closeStatement q.statement q.sql

/-! ## Columns of written SQL -/

/-- The handles whose fields have a result column of their name, with the numbers of the columns.
Others are skipped, or refused if the naming is strict. -/
def matchedColumns (s : Session σ) (slots : Slots) (names : List String) :
    List (Field × ColumnHandle) → Except QueryError (List (Nat × Field × ColumnHandle))
  | [] => .ok []
  | (f, h) :: rest => do
    let position := (s.naming.columnName f).bind fun column =>
      names.findIdx? (Text.sameName · column)
    match position with
    | some i =>
      slots.check h (i + 1)
      return (i + 1, f, h) :: (← s.matchedColumns slots names rest)
    | none =>
      if s.config.strict then throw (.unresolvedColumn f.fullName)
      else s.matchedColumns slots names rest

/-- Gives handles the numbers of their result columns. -/
def assignMatched : List (Nat × Field × ColumnHandle) → ExceptT QueryError (StateM Slots) Unit
  | [] => return
  | (index, _, h) :: rest => do
    Slots.assign h index
    assignMatched rest

/-- Prepares a query of written SQL, whose columns are found by name. -/
def writtenQuery (s : Session σ) (sql : String) (selection : Selection) (autoClose : Bool) :
    Step σ Query := do
  if selection.fields.isEmpty then throw .emptySelection
  let statement ← s.prepare sql
  let id ← opened statement sql
  let names ← (Step.ofCall (s.backend.resultColumns id)).adapt (.prepare sql)
  let columns ← Step.ofExcept (s.matchedColumns (← get).slots names selection.fields)
  Step.onSlots (assignMatched columns)
  return {
    sql := sql
    statement := statement
    columns := columns.map (·.2)
    constraint := selection.constraint
    parameterCount := (selection.constraint.map (·.parameterCount)).getD 0
    autoClose := autoClose }

/-- Compiles and prepares a query over entities. -/
def compiledQuery (s : Session σ) (selection : Selection) (autoClose : Bool) : Step σ Query := do
  let compiled ← Step.onSlots (selection.compile s.naming s.config.strict)
  let statement ← s.prepare compiled.sql
  return {
    sql := compiled.sql
    statement := statement
    columns := compiled.columns
    constraint := selection.constraint
    parameterCount := compiled.placeholders.length
    autoClose := autoClose }

end Session

end EntityQuery
