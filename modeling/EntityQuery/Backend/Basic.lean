import EntityQuery.Backend.Error

/-!
# What a backend does

A backend prepares statements and runs them. Its state is a type `σ` of its own choice; statements
and row sets are kept in it and named by handles. Every call may change the state, also a call that
fails, so a call is a function from the state to a result and the state afterwards (`Call`).

* `Setting` is a parameter value in the form in which it is handed over;
* `Getter` is the form in which a cell is asked for;
* `Backend σ` lists the calls. Parameters and columns are counted from 1.

`Backend.fetchAll` is all of them in a row: a query is prepared, run and read to its end.

A getter of a double or truth value reports `null` as zero or `false`; the probe `wasNull` tells them
apart.
-/

namespace EntityQuery

/-- A call on a state of type `σ`, with the errors of backends. -/
abbrev Call (σ α : Type) := ExceptT BackendError (StateM σ) α

/-- A parameter value as it is handed over. -/
inductive Setting where
  | integer (v : Int32)
  | long (v : Int64)
  | double (v : Double)
  | boolean (v : Bool)
  | string (v : String)
  | bytes (v : List UInt8)
  /-- a stream of which `length` bytes are meant -/
  | stream (length : Nat) (data : List UInt8)
  deriving DecidableEq, Repr

/-- The value that a setting stands for. A stream must have all bytes that are meant. -/
def Setting.value : Setting → Except BackendError Value
  | .integer v => .ok (.integer v)
  | .long v => .ok (.long v)
  | .double v => .ok (.double v)
  | .boolean v => .ok (.boolean v)
  | .string v => .ok (.string v)
  | .bytes v => .ok (.blob v)
  | .stream length data =>
    if length ≤ data.length then .ok (.blob (data.take length)) else .error .shortStream

/-- The setting that hands a value over; there is none for `null` and dates. -/
def Setting.ofValue? : Value → Option Setting
  | .integer v => some (.integer v)
  | .long v => some (.long v)
  | .double v => some (.double v)
  | .boolean v => some (.boolean v)
  | .string v => some (.string v)
  | .blob v => some (.bytes v)
  | .null | .date _ => none

/-- A setting made from a value stands for that value. -/
theorem Setting.value_of_ofValue? {v : Value} {s : Setting} (h : ofValue? v = some s) :
    s.value = .ok v := by
  cases v <;> simp [ofValue?] at h <;> subst h <;> rfl

/-- The form in which a cell is asked for. -/
inductive Getter where
  | object | double | boolean | bytes
  deriving DecidableEq, Repr

/-- The name of a prepared statement. -/
structure StatementId where
  /-- the number -/
  number : Nat
  deriving DecidableEq, Repr

/-- The name of an opened row set. -/
structure RowSetId where
  /-- the number -/
  number : Nat
  deriving DecidableEq, Repr

/-- The calls of a backend with states of type `σ`. -/
structure Backend (σ : Type) where
  /-- prepares a statement -/
  prepare : String → Call σ StatementId
  /-- sets a parameter -/
  set : StatementId → Nat → Setting → Call σ Unit
  /-- the names of the result columns -/
  resultColumns : StatementId → Call σ (List String)
  /-- runs a query -/
  query : StatementId → Call σ RowSetId
  /-- runs a mutation; the number of affected rows -/
  mutate : StatementId → Call σ Nat
  /-- closes a statement -/
  close : StatementId → Call σ Unit
  /-- moves to the next row; whether there is one -/
  next : RowSetId → Call σ Bool
  /-- reads a cell of the current row -/
  get : RowSetId → Getter → Nat → Call σ Value
  /-- whether the cell read last was `null` -/
  wasNull : RowSetId → σ → Bool
  /-- the name of a result column -/
  columnName : RowSetId → Nat → σ → Option String
  /-- how many moves of a row set can still find a row, at most -/
  rowsLeft : RowSetId → σ → Nat
  /-- closes a row set -/
  closeRows : RowSetId → Call σ Unit

/-- A call on one component of a larger state. -/
def Call.onPart {σ τ α : Type} (get : τ → σ) (put : σ → τ → τ) (call : Call σ α) : Call τ α :=
  fun t =>
    let (result, part) := call (get t)
    (result, put part t)

/-- A backend on one component of a larger state. -/
def Backend.onPart {σ τ : Type} (get : τ → σ) (put : σ → τ → τ) (b : Backend σ) : Backend τ where
  prepare sql := (b.prepare sql).onPart get put
  set s i v := (b.set s i v).onPart get put
  resultColumns s := (b.resultColumns s).onPart get put
  query s := (b.query s).onPart get put
  mutate s := (b.mutate s).onPart get put
  close s := (b.close s).onPart get put
  next r := (b.next r).onPart get put
  get r g i := (b.get r g i).onPart get put
  wasNull r t := b.wasNull r (get t)
  columnName r i t := b.columnName r i (get t)
  rowsLeft r t := b.rowsLeft r (get t)
  closeRows r := (b.closeRows r).onPart get put

/-- The result of a step that leaves the state alone. -/
def Call.ofExcept {σ α : Type} (e : Except BackendError α) : Call σ α := fun s => (e, s)

/-! ## Whole results -/

namespace Backend

variable {σ : Type}

/-- Hands parameter values over, counted from `index` on. -/
def setFrom (b : Backend σ) (id : StatementId) (index : Nat) : List Setting → Call σ Unit
  | [] => return
  | setting :: rest => do
    b.set id index setting
    b.setFrom id (index + 1) rest

/-- The cells of a row set's next rows, at most `limit` of them. -/
def fetchUpTo (b : Backend σ) (id : RowSetId) (width : Nat) : Nat → Call σ (List (List Value))
  | 0 => return []
  | limit + 1 => do
    if ← b.next id then
      let row ← (List.range width).mapM fun i => b.get id .object (i + 1)
      return row :: (← b.fetchUpTo id width limit)
    else
      return []

/-- Runs a query once: the names of its columns, and all its rows. -/
def fetchAll (b : Backend σ) (sql : String) (parameters : List Setting) :
    Call σ (List String × List (List Value)) := do
  let id ← b.prepare sql
  b.setFrom id 1 parameters
  let columns ← b.resultColumns id
  let rows ← b.query id
  return (columns, ← b.fetchUpTo rows columns.length (b.rowsLeft rows (← MonadState.get) + 1))

end Backend

/-- The position behind a count from 1; there is none for zero. -/
def position? : Nat → Option Nat
  | 0 => none
  | n + 1 => some n

end EntityQuery
