import EntityQuery.Session.Reading
import EntityQuery.Session.Record
import EntityQuery.Session.Store

/-!
# Cursors

A cursor moves over the rows of one execution. It starts before the first row, stands on a row after
each successful move, and closes when the rows are used up, when a move fails, or on request; it
never leaves the closed phase.

* Closing a cursor closes its row set, and with auto-close its statement too. Of two failures the
  first is reported. Closing it again does nothing.
* A column handle reads the row of the cursor it is attached to, which is that of the latest
  execution of its query (`Session.readHandle`).
* `Session.record` reads all columns of the current row.
-/

namespace EntityQuery

variable {σ α : Type}

namespace Session

/-- The cursor of a name. -/
def cursor? (id : CursorId) (store : Store σ) : Option Cursor := store.cursors[id.number]?

/-- Exchanges the cursor of a name. -/
def setCursor (id : CursorId) (c : Cursor) : Step σ Unit :=
  modify fun store => { store with cursors := store.cursors.setIfInBounds id.number c }

/-- The number of the current row of a cursor; 0 before the first. -/
def rowId (id : CursorId) (store : Store σ) : Nat := ((cursor? id store).map (·.rowId)).getD 0

/-- The phase of a cursor. -/
def phase (id : CursorId) (store : Store σ) : Phase :=
  ((cursor? id store).map (·.phase)).getD .closed

/-- The selected fields of a cursor with their handles. -/
def columns (id : CursorId) (store : Store σ) : List (Field × ColumnHandle) :=
  ((cursor? id store).map (·.columns)).getD []

/-- The handle of a selected field. -/
def columnOf? (id : CursorId) (f : Field) (store : Store σ) : Option ColumnHandle :=
  ((columns id store).find? (·.1 == f)).map (·.2)

/-- Reads a result column of a cursor's current row as the kind of a field. -/
def readCursor (s : Session σ) (id : CursorId) (index : Nat) (f : Field) : Step σ Value := do
  match cursor? id (← get) with
  | some { rows := some rows, phase := .onRow, .. } =>
    let store ← get
    let (result, backend) := (s.backend.readCell rows index f.kind).run store.backend
    set { store with backend := backend }
    Step.ofExcept result
  | _ => throw (.noCurrentRow f.fullName)

/-- Reads the column of a handle, as the kind of the handle's field. -/
def readHandle (s : Session σ) (h : ColumnHandle) : Step σ Value := do
  let slots := (← get).slots
  match slots.index? h with
  | none => throw (.unboundAccessor h.field.fullName)
  | some index =>
    match slots.cursor? h with
    | none => throw (.noCurrentRow h.field.fullName)
    | some id => s.readCursor id index h.field

/-- Reads the column of a handle whose values are all of one kind. -/
def readNative (s : Session σ) (h : ColumnHandle) (k : Kind) : Step σ (Option k.Native) := do
  match ← s.readHandle h with
  | .null => return none
  | v =>
    match Kind.Native.ofValue? k v with
    | some native => return some native
    | none => throw (.kindMismatch h.field.fullName k.title v.typeName)

/-- The value of an accessor. -/
def readAccessor (s : Session σ) : Accessor → Step σ Value
  | .literal v => return v
  | .fed cell => return (← get).cell cell
  | .column h => s.readHandle h

/-- Closes a cursor. -/
def closeCursor (s : Session σ) (id : CursorId) : Step σ Unit := do
  match cursor? id (← get) with
  | none => return
  | some c =>
    if c.phase = .closed then return
    setCursor id { c with rows := none, phase := .closed }
    let ofRows ← Step.attempt do
      match c.rows with
      | some rows => (Step.ofCall (s.backend.closeRows rows)).adapt (.execution c.sql)
      | none => return
    let ofStatement ← Step.attempt do
      if c.autoClose then s.closeStatement c.statement c.sql
    Step.ofExcept ofRows
    Step.ofExcept ofStatement

/-- Gives a cursor up, which closes it. -/
def dropCursor (s : Session σ) (id : CursorId) : Step σ Unit := Step.ignore (s.closeCursor id)

/-- Moves a cursor to its next row; whether there is one. -/
def next (s : Session σ) (id : CursorId) : Step σ Bool := do
  match cursor? id (← get) with
  | some { rows := some rows, phase, rowId, columns, statement, autoClose, sql } =>
    if phase = .closed then throw .cursorClosed
    match ← Step.attempt ((Step.ofCall (s.backend.next rows)).adapt (.execution sql)) with
    | .ok true =>
      setCursor id ⟨some rows, .onRow, rowId + 1, columns, statement, autoClose, sql⟩
      return true
    | .ok false =>
      s.closeCursor id
      return false
    | .error e =>
      Step.ignore (s.closeCursor id)
      throw e
  | _ => throw .cursorClosed

/-- Reads columns into a record; a handle without a column is passed over. -/
def recordFrom (s : Session σ) (r : Record) : List (Field × ColumnHandle) → Step σ Record
  | [] => return r
  | (f, h) :: rest => do
    if ((← get).slots.index? h).isNone then s.recordFrom r rest
    else s.recordFrom (r.set f (← s.readHandle h)) rest

/-- The current row of a cursor. -/
def record (s : Session σ) (id : CursorId) : Step σ Record := do
  s.recordFrom .empty (columns id (← get))

/-- The records of a cursor's next rows, at most `limit` of them. -/
def recordsUpTo (s : Session σ) (id : CursorId) : Nat → Step σ (List Record)
  | 0 => return []
  | limit + 1 => do
    if ← s.next id then
      let r ← s.record id
      return r :: (← s.recordsUpTo id limit)
    else
      return []

/-- How many moves of a cursor can still find a row, at most. -/
def rowsLeft (s : Session σ) (id : CursorId) (store : Store σ) : Nat :=
  (((cursor? id store).bind (·.rows)).map (s.backend.rowsLeft · store.backend)).getD 0

/-- The records of all rows that are left; the cursor is closed then. -/
def records (s : Session σ) (id : CursorId) : Step σ (List Record) := do
  s.recordsUpTo id (s.rowsLeft id (← get) + 1)

end Session

end EntityQuery
