import EntityQuery.Storage.ColumnType

/-!
# SQL statements

The statements of the dialect, as trees: expressions, and the five statement forms. Names are kept as
they were written.

* A parameter carries its number, from 1, in the order of the `?` signs in the text.
* `Select.columnNames` lists the names of the result columns: `*` stands for all columns of all
  tables, and an item that is no column is named for its position.
-/

namespace EntityQuery

/-- A comparison of two values. -/
inductive Comparison where
  | equal | notEqual | less | greater | lessEqual | greaterEqual
  deriving DecidableEq, Repr

/-- The written form of a comparison. -/
def Comparison.symbol : Comparison → String
  | .equal => "="
  | .notEqual => "<>"
  | .less => "<"
  | .greater => ">"
  | .lessEqual => "<="
  | .greaterEqual => ">="

/-- Whether two values in the given order satisfy the comparison. -/
def Comparison.accepts : Comparison → Ordering → Bool
  | .equal, o => o == .eq
  | .notEqual, o => o != .eq
  | .less, o => o == .lt
  | .greater, o => o == .gt
  | .lessEqual, o => o != .gt
  | .greaterEqual, o => o != .lt

/-- The direction of a sort key. -/
inductive Direction where
  | asc | desc
  deriving DecidableEq, Repr

/-- The written form of a direction. -/
def Direction.keyword : Direction → String
  | .asc => "ASC"
  | .desc => "DESC"

/-- The order of values in a direction. -/
def Direction.apply : Direction → Ordering → Ordering
  | .asc, o => o
  | .desc, o => o.swap

namespace Sql

/-- An expression over the columns of a row and the parameters of a statement. -/
inductive Expr where
  /-- a literal value -/
  | literal (v : Value)
  /-- the parameter of that number, from 1 -/
  | parameter (number : Nat)
  /-- a column of any table -/
  | column (name : String)
  /-- a column of the named table -/
  | qualified (table name : String)
  /-- a comparison -/
  | compare (op : Comparison) (left right : Expr)
  /-- conjunction -/
  | and (left right : Expr)
  /-- disjunction -/
  | or (left right : Expr)
  /-- negation -/
  | not (e : Expr)
  /-- membership in a list, or its negation -/
  | inList (negated : Bool) (e : Expr) (items : List Expr)
  /-- match of a pattern, or its negation, perhaps with an escape character -/
  | like (negated : Bool) (e pattern : Expr) (escape : Option Char)
  /-- test for `null`, or its negation -/
  | isNull (negated : Bool) (e : Expr)
  deriving Repr

instance : Inhabited Expr := ⟨.literal .null⟩

/-- An item of a selection. -/
inductive SelectItem where
  /-- all columns of all tables -/
  | allColumns
  /-- one expression -/
  | expr (e : Expr)
  deriving Repr

/-- A sort key. -/
structure OrderItem where
  /-- the value sorted by -/
  expr : Expr
  /-- the direction -/
  direction : Direction
  deriving Repr

/-- `SELECT`. -/
structure Select where
  /-- whether equal rows are merged -/
  distinct : Bool
  /-- the selection -/
  items : List SelectItem
  /-- the tables, whose rows are combined -/
  tables : List String
  /-- the rows kept; all without one -/
  filter : Option Expr
  /-- the sort keys, the most significant first -/
  order : List OrderItem
  /-- the number of rows kept; all without one -/
  limit : Option Nat
  deriving Repr

/-- `INSERT`. -/
structure Insert where
  /-- the table -/
  table : String
  /-- the columns given; all in order without a list -/
  columns : Option (List String)
  /-- the rows of values -/
  rows : List (List Expr)
  deriving Repr

/-- `UPDATE`. -/
structure Update where
  /-- the table -/
  table : String
  /-- the assigned columns with their new values -/
  assignments : List (String × Expr)
  /-- the rows changed; all without one -/
  filter : Option Expr
  deriving Repr

/-- `DELETE`. -/
structure Delete where
  /-- the table -/
  table : String
  /-- the rows removed; all without one -/
  filter : Option Expr
  deriving Repr

/-- `CREATE TABLE`. -/
structure CreateTable where
  /-- the table -/
  table : String
  /-- the columns with their types -/
  columns : List (String × ColumnType)
  deriving Repr

/-- A statement. -/
inductive Statement where
  | select (s : Select)
  | insert (s : Insert)
  | update (s : Update)
  | delete (s : Delete)
  | createTable (s : CreateTable)
  deriving Repr

/-- The tables that must exist before the statement can run. -/
def Statement.requiredTables : Statement → List String
  | .select s => s.tables
  | .insert s => [s.table]
  | .update s => [s.table]
  | .delete s => [s.table]
  | .createTable _ => []

/-- The names of the result columns of one item, behind `before` columns. -/
def SelectItem.columnNames (all : List String) (before : Nat) : SelectItem → List String
  | .allColumns => all
  | .expr (.column name) => [name]
  | .expr (.qualified _ name) => [name]
  | .expr _ => ["EXPR" ++ toString (before + 1)]

/-- The names of the result columns of a selection, behind `before` columns. -/
def selectionNames (all : List String) (before : Nat) : List SelectItem → List String
  | [] => []
  | item :: items =>
    let names := item.columnNames all before
    names ++ selectionNames all (before + names.length) items

/-- The names of the result columns, where `columns` lists the columns of a table. -/
def Select.columnNames (s : Select) (columns : String → List String) : List String :=
  selectionNames (s.tables.flatMap columns) 0 s.items

/-- The names of the result columns of a statement; only a `SELECT` has any. -/
def Statement.columnNames (columns : String → List String) : Statement → List String
  | .select s => s.columnNames columns
  | _ => []

end Sql

end EntityQuery
