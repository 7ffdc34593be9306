import EntityQuery.Backend.Basic

/-!
# A backend that follows a script

A scripted backend answers every statement alike: the same rows, the same count, and failures where
the script asks for them. It writes down the calls it gets, so that a caller can see in which order a
backend is used.

* Each call is first added to the log, then fails if the script names it in `Failures`.
* A row set counts its moves; the move with the number `Failures.move` fails. Moves and reads are not
  logged. Where it stands on no row, the current row is empty (`Script.rowAt`).
* Closing does not end anything: a closed statement or row set goes on answering.
-/

namespace EntityQuery

/-- A cell of a scripted row: a value, or a failure with its text. -/
inductive ScriptCell where
  | value (v : Value)
  | failure (text : String)
  deriving DecidableEq, Repr

/-- The calls that fail, with the texts of their failures. -/
structure Failures where
  /-- preparing a statement -/
  prepare : Option String := none
  /-- setting a parameter -/
  set : Option String := none
  /-- asking for the result columns -/
  columns : Option String := none
  /-- running a query -/
  query : Option String := none
  /-- running a mutation -/
  mutate : Option String := none
  /-- closing a statement -/
  close : Option String := none
  /-- closing a row set -/
  closeRows : Option String := none
  /-- the number of the move that fails, from 1 -/
  move : Option Nat := none
  deriving DecidableEq, Repr

/-- What a scripted backend answers. -/
structure Script where
  /-- the rows of every query -/
  rows : List (List ScriptCell)
  /-- the names of the result columns -/
  columns : List String
  /-- the count of every mutation -/
  affected : Nat
  /-- the calls that fail -/
  failures : Failures
  deriving DecidableEq, Repr

/-- The row behind some moves, which is empty before the first row and behind the last one. -/
def Script.rowAt (script : Script) (moves : Nat) : List ScriptCell :=
  ((position? moves).bind (script.rows[·]?)).getD []

/-- A call in the log. -/
inductive LoggedCall where
  | prepare (sql : String)
  | set (index : Nat) (setting : Setting)
  | resultColumns
  | query
  | mutate
  | close
  | closeRows
  deriving DecidableEq, Repr

/-- A row set of a scripted backend. -/
structure ScriptRows where
  /-- the number of moves so far -/
  moves : Nat
  /-- whether the cell read last was `null` -/
  wasNull : Bool
  deriving DecidableEq, Repr

/-- The state of a scripted backend. -/
structure Scripted where
  /-- the answers -/
  script : Script
  /-- the calls so far, in order -/
  log : Array LoggedCall
  /-- the number of statements prepared so far -/
  statements : Nat
  /-- the row sets, by their numbers -/
  rowSets : Array ScriptRows

namespace Scripted

/-- A backend at the start of its script. -/
def start (script : Script) : Scripted := ⟨script, #[], 0, #[]⟩

/-- Adds a call to the log, then fails if the script says so. -/
def logged (call : LoggedCall) (failure : Failures → Option String) : Call Scripted Unit :=
  fun s =>
    let s := { s with log := s.log.push call }
    match failure s.script.failures with
    | some text => (.error (.other text), s)
    | none => (.ok (), s)

/-- A parameter value as the log shows it: a stream is read before. -/
def settingRead : Setting → Except BackendError Setting
  | .stream length data => do
    match ← (Setting.stream length data).value with
    | .blob bytes => return .bytes bytes
    | _ => return .bytes []
  | setting => .ok setting

/-- A cell in the form in which it is asked for. -/
def convert : Getter → Value → Except BackendError Value
  | .object, v => .ok v
  | .double, .null => .ok (.double .zero)
  | .double, .double d => .ok (.double d)
  | .double, v => .error (.conversion "double" v.typeName)
  | .boolean, .null => .ok (.boolean false)
  | .boolean, .boolean b => .ok (.boolean b)
  | .boolean, v => .error (.conversion "boolean" v.typeName)
  | .bytes, .null => .ok .null
  | .bytes, .blob b => .ok (.blob b)
  | .bytes, v => .error (.conversion "blob" v.typeName)

/-- Prepares a statement. -/
def prepare (sql : String) : Call Scripted StatementId := do
  logged (.prepare sql) (·.prepare)
  fun s => (.ok ⟨s.statements⟩, { s with statements := s.statements + 1 })

/-- Opens a row set before the first row. -/
def query : Call Scripted RowSetId := do
  logged .query (·.query)
  fun s => (.ok ⟨s.rowSets.size⟩, { s with rowSets := s.rowSets.push ⟨0, false⟩ })

/-- Moves a row set to the next row. -/
def next (id : RowSetId) : Call Scripted Bool := fun s =>
  match s.rowSets[id.number]? with
  | none => (.error .noRow, s)
  | some r =>
    let moves := r.moves + 1
    let s := { s with rowSets := s.rowSets.setIfInBounds id.number { r with moves := moves } }
    if s.script.failures.move = some moves then (.error (.other "next failed"), s)
    else (.ok (moves ≤ s.script.rows.length), s)

/-- Reads a cell of the current row. -/
def get (id : RowSetId) (getter : Getter) (index : Nat) : Call Scripted Value := fun s =>
  match s.rowSets[id.number]? with
  | none => (.error .noRow, s)
  | some r =>
    let row := s.script.rowAt r.moves
    match (position? index).bind (row[·]?) with
    | none => (.error (.columnRange index row.length), s)
    | some (.failure text) => (.error (.other text), s)
    | some (.value v) =>
      (convert getter v,
        { s with rowSets := s.rowSets.setIfInBounds id.number { r with wasNull := v.isNull } })

/-- The scripted backend. -/
def backend : Backend Scripted where
  prepare := prepare
  set _ index setting := do
    let setting ← Call.ofExcept (settingRead setting)
    logged (.set index setting) (·.set)
  resultColumns _ := do
    logged .resultColumns (·.columns)
    fun s => (.ok s.script.columns, s)
  query _ := query
  mutate _ := do
    logged .mutate (·.mutate)
    fun s => (.ok s.script.affected, s)
  close _ := logged .close (·.close)
  next := next
  get := get
  wasNull id s := (s.rowSets[id.number]?).any (·.wasNull)
  columnName _ index s := (position? index).bind (s.script.columns[·]?)
  rowsLeft id s := ((s.rowSets[id.number]?).map (s.script.rows.length - ·.moves)).getD 0
  closeRows _ := logged .closeRows (·.closeRows)

end Scripted

end EntityQuery
