import EntityQuery.Session.Request

/-!
# Builders

Builders collect the parts of a request step by step, and make the request in the end.

* A `SelectBuilder` collects fields, conditions, sort keys and a limit, over an entity or over written
  SQL. A field that is selected again keeps its column handle.
* A `MutationBuilder` collects assignments for an insert or an update; the last source set for a field
  counts.

Making a request uses a builder up, whether it succeeds or not: what is left is `spent`.
-/

namespace EntityQuery

/-- What a selection is about. -/
inductive Source where
  /-- the table of an entity -/
  | entity (e : Entity)
  /-- written SQL -/
  | sql (text : String)

/-- Collects a select request. -/
structure SelectBuilder where
  /-- what it is about -/
  source : Source
  /-- what it selects so far -/
  selection : Selection

namespace SelectBuilder

/-- A builder without fields. -/
def start (source : Source) (constraint : Option Constraint) : SelectBuilder :=
  ⟨source, ⟨[], constraint, [], none, []⟩⟩

/-- What is left when the request is made. -/
def spent (b : SelectBuilder) : SelectBuilder := start b.source none

/-- Selects a field; the handle that reads it. -/
def retrieve (b : SelectBuilder) (f : Field) (slots : Slots) :
    ColumnHandle × SelectBuilder × Slots :=
  match b.selection.fields.find? (·.1 == f) with
  | some (_, h) => (h, b, slots)
  | none =>
    let (h, slots) := slots.alloc f
    (h, { b with selection.fields := b.selection.fields ++ [(f, h)] }, slots)

/-- Selects fields in order. -/
def selectFields (b : SelectBuilder) (slots : Slots) : List Field → SelectBuilder × Slots
  | [] => (b, slots)
  | f :: fs =>
    let (_, b, slots) := b.retrieve f slots
    b.selectFields slots fs

/-- The fields of the entity, none for written SQL. -/
def allFields (b : SelectBuilder) : List Field :=
  match b.source with
  | .entity e => e.fields
  | .sql _ => []

/-- Adds a condition to the one so far. -/
def filter (b : SelectBuilder) (c : Constraint) : SelectBuilder :=
  { b with selection.constraint := Constraint.andAll [b.selection.constraint, some c] }

/-- Adds a sort key behind those so far. -/
def order (b : SelectBuilder) (f : Field) (direction : Direction) : SelectBuilder :=
  { b with selection.orders := b.selection.orders ++ [(f, direction)] }

/-- Limits the number of rows. -/
def top (b : SelectBuilder) (count : Nat) : SelectBuilder :=
  { b with selection.top := some count }

/-- Drops repetitions if any of the fields is selected. -/
def distinct (b : SelectBuilder) (fields : List Field) : SelectBuilder :=
  { b with selection.distinct := b.selection.distinct ++ fields }

end SelectBuilder

/-- What a mutation with assignments does. -/
inductive MutationKind where
  /-- inserts a row -/
  | insert
  /-- updates the rows that satisfy a condition -/
  | update (constraint : Option Constraint)

/-- Collects a mutation with assignments. -/
structure MutationBuilder where
  /-- the entity -/
  entity : Entity
  /-- what it does -/
  kind : MutationKind
  /-- the assignments so far, each field at most once -/
  values : Assignments

namespace MutationBuilder

/-- A builder of an insert. -/
def insert (e : Entity) : MutationBuilder := ⟨e, .insert, []⟩

/-- A builder of an update. -/
def update (e : Entity) (constraint : Option Constraint) : MutationBuilder :=
  ⟨e, .update constraint, []⟩

/-- What is left when the request is made. -/
def spent (b : MutationBuilder) : MutationBuilder :=
  match b.kind with
  | .insert => insert b.entity
  | .update _ => update b.entity none

/-- Sets the source of a field. -/
def setSource (b : MutationBuilder) (f : Field) (source : Accessor) : MutationBuilder :=
  { b with values := (overrideValue f source b.values).getD (b.values ++ [(f, source)]) }

/-- Sets a field to a value of its kind. -/
def setNative (b : MutationBuilder) (f : Field) (v : f.kind.Native) : MutationBuilder :=
  b.setSource f (.literal v.value)

/-- Sets a field to a value that must be of its kind. -/
def setValue (b : MutationBuilder) (f : Field) (v : Value) : Except QueryError MutationBuilder :=
  return b.setSource f (← checkedLiteral f v)

/-- The mutation as SQL. -/
def compile (naming : Naming) (strict : Bool) (b : MutationBuilder) :
    Except QueryError CompiledMutation :=
  match b.kind with
  | .insert => compileInsert naming strict b.entity b.values
  | .update constraint => compileUpdate naming strict b.entity b.values constraint

end MutationBuilder

variable {σ : Type}

namespace Session

/-- Makes the query of a builder. -/
def buildQuery (s : Session σ) (b : SelectBuilder) (autoClose : Bool) : Step σ Query :=
  match b.source with
  | .entity _ => s.compiledQuery b.selection autoClose
  | .sql text => s.writtenQuery text b.selection autoClose

/-- Makes the query of a builder; the configuration says whether it closes by itself. -/
def query (s : Session σ) (b : SelectBuilder) : Step σ Query := s.buildQuery b s.config.autoClose

/-- Makes the query of a builder, which stays open when its rows are used up. -/
def lastingQuery (s : Session σ) (b : SelectBuilder) : Step σ Query := s.buildQuery b false

/-- Makes the request of a builder. -/
def mutation (s : Session σ) (b : MutationBuilder) : Step σ MutationRequest := do
  s.prepareMutation (← Step.ofExcept (b.compile s.naming s.config.strict))

/-- Makes a bulk request of a builder. -/
def bulk (s : Session σ) (b : MutationBuilder) : Step σ BulkRequest :=
  return ⟨← s.mutation b, 0⟩

/-- Makes the request of a builder, runs it once and releases its statement. -/
def runBuilder (s : Session σ) (b : MutationBuilder) : Step σ Nat := do
  s.runOnce (← s.mutation b)

end Session

end EntityQuery
