import EntityQuery.Request.Mutation
import EntityQuery.Session.Query

/-!
# Prepared mutations

A `MutationRequest` is a compiled mutation with its prepared statement. It can run again and again;
each run reads its accessors anew.

A `BulkRequest` runs a prepared insert row by row. The values of the insert are the defaults of each
row, and a row may override them with literals of its own. It counts the rows it has inserted; a row
that fails is not counted.
-/

namespace EntityQuery

/-- A mutation with its prepared statement. -/
structure MutationRequest where
  /-- what it does -/
  compiled : CompiledMutation
  /-- the statement -/
  statement : StatementRef

/-- A prepared insert that runs once for each row. -/
structure BulkRequest where
  /-- the insert -/
  request : MutationRequest
  /-- the rows inserted so far -/
  inserted : Nat

/-- A literal for a field: not `null`, and of the field's kind. -/
def checkedLiteral (f : Field) (v : Value) : Except QueryError Accessor :=
  if v.isNull then .error (.nullLiteral f.fullName)
  else if f.kind.accepts v then .ok (.literal v)
  else .error (.kindMismatch f.fullName f.kind.name v.typeName)

/-- Exchanges the source of a field that is assigned. -/
def overrideValue (f : Field) (source : Accessor) : Assignments → Option Assignments
  | [] => none
  | (g, old) :: rest =>
    if g = f then some ((g, source) :: rest)
    else (overrideValue f source rest).map ((g, old) :: ·)

/-- The assignments with the values of a row in place of their own. -/
def overrideValues (values : Assignments) : List (Field × Value) → Except QueryError Assignments
  | [] => .ok values
  | (f, v) :: rest =>
    if values.any (·.1 == f) then do
      let source ← checkedLiteral f v
      overrideValues ((overrideValue f source values).getD values) rest
    else .error (.unresolvedColumn f.fullName)

variable {σ : Type}

namespace Session

/-- Prepares a mutation. -/
def prepareMutation (s : Session σ) (compiled : CompiledMutation) : Step σ MutationRequest := do
  return ⟨compiled, ← s.prepare compiled.sql⟩

/-- Runs a mutation with the given assignments in place of its own; the number of affected rows. -/
def runWith (s : Session σ) (r : MutationRequest) (values : Assignments) : Step σ Nat := do
  let id ← opened r.statement r.compiled.sql
  let _ ← (s.binder r.compiled.sql id).bind values r.compiled.constraint r.compiled.parameterCount
  (Step.ofCall (s.backend.mutate id)).adapt (.execution r.compiled.sql)

/-- Runs a mutation; the number of affected rows. -/
def run (s : Session σ) (r : MutationRequest) : Step σ Nat := s.runWith r r.compiled.values

/-- Releases the statement of a mutation. -/
def closeRequest (s : Session σ) (r : MutationRequest) : Step σ Unit :=
  s.closeStatement r.statement r.compiled.sql

/-- Runs a mutation once and releases its statement. A run that fails leaves the statement open. -/
def runOnce (s : Session σ) (r : MutationRequest) : Step σ Nat := do
  let count ← s.run r
  s.closeRequest r
  return count

/-- Prepares the removal of an entity's rows. -/
def deleteRequest (s : Session σ) (e : Entity) (constraint : Option Constraint) :
    Step σ MutationRequest := do
  s.prepareMutation (← Step.ofExcept (compileDelete s.naming e constraint))

/-! ## Bulk inserts -/

/-- A function on a bulk request and the store that may fail. -/
abbrev BulkStep (σ α : Type) := ExceptT QueryError (StateM (BulkRequest × Store σ)) α

/-- Runs a step on the store, and counts the rows it inserts. -/
def countInserted (step : BulkRequest → Step σ Nat) : BulkStep σ Nat := fun (bulk, store) =>
  match step bulk store with
  | (.ok count, store) => (.ok count, { bulk with inserted := bulk.inserted + count }, store)
  | (.error e, store) => (.error e, bulk, store)

/-- Inserts a row of the defaults. -/
def runBulk (s : Session σ) : BulkStep σ Nat := countInserted fun bulk => s.run bulk.request

/-- Inserts a row with values of its own. -/
def insertRow (s : Session σ) (row : List (Field × Value)) : BulkStep σ Nat :=
  countInserted fun bulk => do
    let values ← Step.ofExcept (overrideValues bulk.request.compiled.values row)
    s.runWith bulk.request values

/-- Inserts rows up to the first that fails; the number of rows inserted. -/
def insertRows (s : Session σ) : List (List (Field × Value)) → BulkStep σ Nat
  | [] => return 0
  | row :: rows => do
    let count ← s.insertRow row
    return count + (← s.insertRows rows)

end Session

end EntityQuery
