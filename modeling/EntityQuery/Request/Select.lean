import EntityQuery.Request.Predicate

/-!
# Compiled selections

A `Selection` is what a select request asks for; `Selection.compile` turns it into SQL text with
placeholders, and gives each selected field its result column.

* A field without column is skipped, or refused if the naming is strict. Within the constraint it is
  always refused.
* The tables are those of the selected fields, then those of the constraint.
* Rows are `DISTINCT` if any field of the distinct list is selected.
* Handles get their columns last, after all that can be refused is checked; a handle that is selected
  twice is noticed only then.
-/

namespace EntityQuery

/-- What a select request asks for. -/
structure Selection where
  /-- the selected fields with their handles -/
  fields : List (Field × ColumnHandle)
  /-- the condition -/
  constraint : Option Constraint
  /-- the sort keys -/
  orders : List (Field × Direction)
  /-- the number of rows wanted -/
  top : Option Nat
  /-- the fields whose repetitions are dropped -/
  distinct : List Field

/-- A selection as SQL. -/
structure CompiledSelect where
  /-- the text -/
  sql : String
  /-- the selected fields that have a result column, in the order of the columns -/
  columns : List (Field × ColumnHandle)
  /-- the placeholders in the text -/
  placeholders : List Placeholder

/-- The column of a field; none if the field is skipped. -/
def resolveColumn (naming : Naming) (strict : Bool) (f : Field) :
    Except QueryError (Option String) :=
  match naming.columnName f with
  | some column => .ok (some column)
  | none => if strict then .error (.unresolvedColumn f.fullName) else .ok none

/-- A selected field with its names. -/
structure SelectedColumn where
  /-- the field -/
  field : Field
  /-- the handle that reads it -/
  handle : ColumnHandle
  /-- the table name -/
  table : String
  /-- the column name -/
  column : String

namespace Selection

/-- The selected fields that have a column, the first of which becomes the result column
`index`. -/
def columnsFrom (naming : Naming) (strict : Bool) (slots : Slots) (index : Nat) :
    List (Field × ColumnHandle) → Except QueryError (List SelectedColumn)
  | [] => .ok []
  | (f, handle) :: rest => do
    match ← resolveColumn naming strict f with
    | none => columnsFrom naming strict slots index rest
    | some column =>
      slots.check handle index
      let others ← columnsFrom naming strict slots (index + 1) rest
      return ⟨f, handle, naming.tableName f.entity, column⟩ :: others

/-- The text of the sort keys that have a column. -/
def orderTexts (naming : Naming) (strict : Bool) (orders : List (Field × Direction)) :
    Except QueryError (List String) :=
  return (← orders.mapM fun (f, direction) => do
    return (← resolveColumn naming strict f).map (· ++ " " ++ direction.keyword)).filterMap id

/-- Text that is there only if there is something to write. -/
def clause (word : String) (text : Option String) : String :=
  match text with
  | some text => word ++ text
  | none => ""

/-- The compiled form of a selection, before its handles get their columns. -/
def plan (naming : Naming) (strict : Bool) (slots : Slots) (s : Selection) :
    Except QueryError CompiledSelect := do
  if s.fields.isEmpty then throw .emptySelection
  let columns ← columnsFrom naming strict slots 1 s.fields
  if columns.isEmpty then throw .emptySelection
  let predicate ← s.constraint.mapM (Predicate.ofConstraint naming 1)
  let tables := (columns.map (·.table) ++ (predicate.map (·.tables)).getD []).foldl mention []
  let orders ← orderTexts naming strict s.orders
  let distinct := columns.any fun c => s.distinct.contains c.field
  let sql :=
    (if distinct then "SELECT DISTINCT " else "SELECT ") ++
    ", ".intercalate (columns.map fun c => c.table ++ "." ++ c.column) ++
    " FROM " ++ ", ".intercalate tables ++
    clause " WHERE " (predicate.map (·.sql)) ++
    clause " ORDER BY " (if orders.isEmpty then none else some (", ".intercalate orders)) ++
    clause " LIMIT " (s.top.map toString)
  return {
    sql := sql
    columns := columns.map fun c => (c.field, c.handle)
    placeholders := (predicate.map (·.placeholders)).getD [] }

/-- Gives handles their result columns, the first of which is `index`. -/
def assignFrom (index : Nat) : List (Field × ColumnHandle) → ExceptT QueryError (StateM Slots) Unit
  | [] => return
  | (_, handle) :: rest => do
    Slots.assign handle index
    assignFrom (index + 1) rest

/-- Compiles a selection and gives its handles their result columns. -/
def compile (naming : Naming) (strict : Bool) (s : Selection) :
    ExceptT QueryError (StateM Slots) CompiledSelect := do
  let compiled ← ExceptT.mk (return s.plan naming strict (← get))
  assignFrom 1 compiled.columns
  return compiled

end Selection

end EntityQuery
