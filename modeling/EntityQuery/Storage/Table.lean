import EntityQuery.Evaluation.Expr
import EntityQuery.Storage.ColumnType

/-!
# Tables

A table is a name, typed columns, and rows of stored cells.

* `Table.columnIndex?` finds a column up to the case of ASCII letters;
* `Table.newRow` makes a row from values for some of the columns, the others being `null`;
* `Table.insert` appends such a row, or leaves the table alone and says why not.
-/

namespace EntityQuery

/-- A column of a table. -/
structure Column where
  /-- the name -/
  name : String
  /-- the type of its cells -/
  type : ColumnType
  deriving DecidableEq, Repr

/-- A table. -/
structure Table where
  /-- the name -/
  name : String
  /-- the columns, in order -/
  columns : List Column
  /-- the rows, in order of insertion -/
  rows : List Row
  deriving DecidableEq, Repr

namespace Table

/-- The names of the columns. -/
def columnNames (t : Table) : List String := t.columns.map (·.name)

/-- The position of a column. -/
def columnIndex? (t : Table) (name : String) : Option Nat :=
  Scope.columnIndex? t.columnNames name

/-- The scope of the table alone. -/
def scope (t : Table) : Scope := ⟨[(t.name, t.columnNames)]⟩

/-- The stored form of a value for a column. -/
def normalize (t : Table) (index : Nat) (v : Value) : Except StorageError Value :=
  match t.columns[index]? with
  | some column => column.type.normalize v
  | none => .error (.noColumn index t.name)

/-- Puts values into cells of a row, in order, so that the last value for a cell stays. -/
def assign (t : Table) (row : Row) : List (Nat × Value) → Except StorageError Row
  | [] => .ok row
  | (index, v) :: rest => do
    let stored ← t.normalize index v
    t.assign (row.set index stored) rest

/-- A row with the given cells; the others are `null`. -/
def newRow (t : Table) (assigned : List (Nat × Value)) : Except StorageError Row :=
  t.assign (List.replicate t.columns.length .null) assigned

/-- Appends a row with the given cells. -/
def insert (t : Table) (assigned : List (Nat × Value)) : Except StorageError Table := do
  return { t with rows := t.rows ++ [← t.newRow assigned] }

/-- A row has as many cells as its table has columns, each in stored form. -/
def RowOk (t : Table) (row : Row) : Prop :=
  row.length = t.columns.length ∧
    ∀ (i : Nat) (column : Column) (v : Value), t.columns[i]? = some column → row[i]? = some v →
      column.type.holds v = true

end Table

end EntityQuery
