import EntityQuery.Backend.Basic
import EntityQuery.Config
import EntityQuery.Request.Accessor

/-!
# Sessions and what they change

A `Session` is a backend with a naming and a configuration; it never changes. All that changes while
requests run is in the `Store`:

* the state of the backend;
* the cells that the caller feeds, and the slots of the column handles;
* the statements that requests hold, each open or closed;
* the cursors, each with its row set, its phase and the number of its current row.

A `Step` is a function from the store to a result and the store afterwards, also where it fails.
-/

namespace EntityQuery

/-- What requests run on. -/
structure Session (σ : Type) where
  /-- the backend -/
  backend : Backend σ
  /-- the names of tables and columns -/
  naming : Naming
  /-- the configuration -/
  config : Config

/-- The name of a statement that a request holds. -/
structure StatementRef where
  /-- the number -/
  number : Nat
  deriving DecidableEq, Repr

/-- The phase of a cursor. -/
inductive Phase where
  /-- before the first row -/
  | unopened
  /-- on a row -/
  | onRow
  /-- closed -/
  | closed
  deriving DecidableEq, Repr

/-- A cursor over the rows of one execution. -/
structure Cursor where
  /-- the row set, until the cursor is closed -/
  rows : Option RowSetId
  /-- the phase -/
  phase : Phase
  /-- the number of the current row, from 1; 0 before the first -/
  rowId : Nat
  /-- the selected fields with their handles -/
  columns : List (Field × ColumnHandle)
  /-- the statement that was run -/
  statement : StatementRef
  /-- whether closing the cursor closes the statement -/
  autoClose : Bool
  /-- the text of the statement -/
  sql : String
  deriving DecidableEq

/-- All that changes while requests run. -/
structure Store (σ : Type) where
  /-- the state of the backend -/
  backend : σ
  /-- the fed cells, by their numbers -/
  cells : Array Value
  /-- the slots of the column handles -/
  slots : Slots
  /-- the statements that requests hold, by their numbers; `none` for a closed one -/
  statements : Array (Option StatementId)
  /-- the cursors, by their numbers -/
  cursors : Array Cursor

/-- A function on the store that may fail. -/
abbrev Step (σ α : Type) := ExceptT QueryError (StateM (Store σ)) α

variable {σ α : Type}

/-- A store around a backend that has not been used. -/
def Store.start (backend : σ) : Store σ := ⟨backend, #[], #[], #[], #[]⟩

namespace Step

/-- The result of a step that leaves the store alone. -/
def ofExcept (e : Except QueryError α) : Step σ α := fun s => (e, s)

/-- A step of the backend. -/
def ofCall (c : Call σ α) : ExceptT BackendError (StateM (Store σ)) α := fun s =>
  let (result, backend) := c s.backend
  (result, { s with backend := backend })

/-- A step on the slots. -/
def onSlots (step : ExceptT QueryError (StateM Slots) α) : Step σ α := fun s =>
  let (result, slots) := step s.slots
  (result, { s with slots := slots })

/-- Runs a step and hands its result over, whether it succeeded or not. -/
def attempt (step : Step σ α) : Step σ (Except QueryError α) := ExceptT.mk do
  return .ok (← step.run)

/-- Runs a step and forgets its result. -/
def ignore (step : Step σ α) : Step σ Unit := do
  let _ ← attempt step

end Step

/-! ## Fed cells -/

/-- A new fed cell, which holds `null`. -/
def Store.allocCell (s : Store σ) : CellId × Store σ :=
  (⟨s.cells.size⟩, { s with cells := s.cells.push .null })

/-- Feeds a cell. -/
def Store.feed (s : Store σ) (cell : CellId) (v : Value) : Store σ :=
  { s with cells := s.cells.setIfInBounds cell.number v }

/-- What a cell holds. -/
def Store.cell (s : Store σ) (cell : CellId) : Value := s.cells[cell.number]?.getD .null

/-! ## Statements -/

namespace Session

/-- Prepares a statement for a request. -/
def prepare (s : Session σ) (sql : String) : Step σ StatementRef := do
  let id ← (Step.ofCall (s.backend.prepare sql)).adapt (.prepare sql)
  let ref : StatementRef := ⟨(← get).statements.size⟩
  modify fun store => { store with statements := store.statements.push (some id) }
  return ref

/-- The statement behind a name, if it is open. -/
def open? (ref : StatementRef) (store : Store σ) : Option StatementId :=
  (store.statements[ref.number]?).join

/-- Whether a statement is closed. -/
def isClosed (ref : StatementRef) (store : Store σ) : Bool := (open? ref store).isNone

/-- The open statement behind a name; `sql` is its text. -/
def opened (ref : StatementRef) (sql : String) : Step σ StatementId := do
  match open? ref (← get) with
  | some id => return id
  | none => throw (.queryClosed sql)

/-- Closes a statement. Closing it again does nothing. -/
def closeStatement (s : Session σ) (ref : StatementRef) (sql : String) : Step σ Unit := do
  match open? ref (← get) with
  | none => return
  | some id =>
    modify fun store =>
      { store with statements := store.statements.setIfInBounds ref.number none }
    (Step.ofCall (s.backend.close id)).adapt (.execution sql)

end Session

end EntityQuery
