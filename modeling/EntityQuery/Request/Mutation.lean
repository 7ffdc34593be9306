import EntityQuery.Request.Select

/-!
# Compiled mutations

`compileInsert`, `compileUpdate` and `compileDelete` write mutations as SQL with placeholders. The
placeholders of assigned values come first and are numbered in the order of the assignments; those of
the constraint follow.

A field without column is skipped, or refused if the naming is strict. A mutation that assigns
values must assign at least one.
-/

namespace EntityQuery

/-- Fields with the sources of their new values. -/
abbrev Assignments := List (Field × Accessor)

/-- A mutation as SQL. -/
structure CompiledMutation where
  /-- the text -/
  sql : String
  /-- the assignments that have a placeholder, in order -/
  values : Assignments
  /-- the condition -/
  constraint : Option Constraint
  /-- the placeholders in the text -/
  placeholders : List Placeholder

/-- The number of placeholders. -/
def CompiledMutation.parameterCount (m : CompiledMutation) : Nat := m.placeholders.length

/-- An assignment with the name of its column. -/
structure AssignedColumn where
  /-- the column name -/
  column : String
  /-- the field -/
  field : Field
  /-- the source of the value -/
  source : Accessor

/-- The assignments that have a column, at least one. -/
def assignedColumns (naming : Naming) (strict : Bool) (values : Assignments) :
    Except QueryError (List AssignedColumn) := do
  let columns ← values.mapM fun (f, source) => do
    return (← resolveColumn naming strict f).map (⟨·, f, source⟩)
  let columns := columns.filterMap id
  if columns.isEmpty then throw .emptySelection
  return columns

/-- The placeholders of assignments, numbered from 1. -/
def assignedPlaceholders (columns : List AssignedColumn) : List Placeholder :=
  columns.zipIdx.map fun (c, i) => ⟨i + 1, c.field⟩

/-- Writes `INSERT INTO table (columns) VALUES (placeholders)`. -/
def compileInsert (naming : Naming) (strict : Bool) (e : Entity) (values : Assignments) :
    Except QueryError CompiledMutation := do
  let columns ← assignedColumns naming strict values
  return {
    sql := "INSERT INTO " ++ naming.tableName e ++
      " (" ++ ", ".intercalate (columns.map (·.column)) ++
      ") VALUES (" ++ ", ".intercalate (columns.map fun _ => "?") ++ ")"
    values := columns.map fun c => (c.field, c.source)
    constraint := none
    placeholders := assignedPlaceholders columns }

/-- Writes `UPDATE table SET column = placeholder, …`, and the condition. -/
def compileUpdate (naming : Naming) (strict : Bool) (e : Entity) (values : Assignments)
    (constraint : Option Constraint) : Except QueryError CompiledMutation := do
  let columns ← assignedColumns naming strict values
  let predicate ← constraint.mapM (Predicate.ofConstraint naming (columns.length + 1))
  return {
    sql := "UPDATE " ++ naming.tableName e ++
      " SET " ++ ", ".intercalate (columns.map (·.column ++ " = ?")) ++
      Selection.clause " WHERE " (predicate.map (·.sql))
    values := columns.map fun c => (c.field, c.source)
    constraint := constraint
    placeholders := assignedPlaceholders columns ++ (predicate.map (·.placeholders)).getD [] }

/-- Writes `DELETE FROM table`, and the condition. -/
def compileDelete (naming : Naming) (e : Entity) (constraint : Option Constraint) :
    Except QueryError CompiledMutation := do
  let predicate ← constraint.mapM (Predicate.ofConstraint naming 1)
  return {
    sql := "DELETE FROM " ++ naming.tableName e ++
      Selection.clause " WHERE " (predicate.map (·.sql))
    values := []
    constraint := constraint
    placeholders := (predicate.map (·.placeholders)).getD [] }

end EntityQuery
