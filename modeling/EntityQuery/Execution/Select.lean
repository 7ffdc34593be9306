import EntityQuery.Execution.Sorting
import EntityQuery.Storage.Database

/-!
# Running queries

A query goes through five steps, each of which may fail on any row:

1. the rows of its tables are joined, in the order of the tables (`joinRows`);
2. the rows that do not satisfy the condition are dropped (`keepRows`);
3. the others are sorted by the sort keys, rows with equal keys keeping their order (`sortRows`);
4. the selection is computed row by row (`projectRow`);
5. `DISTINCT` drops a row that is the same as an earlier one, and the limit ends the work
   (`takeRows`): rows behind the limit are not computed.

`resultColumns` names the columns of the result.
-/

namespace EntityQuery

open Sql

/-- The rows of a query with the names of their columns. -/
structure ResultSet where
  /-- the names of the columns -/
  columns : List String
  /-- the rows -/
  rows : List Row
  deriving DecidableEq, Repr

/-- The tables of a query side by side. -/
def Scope.ofTables (tables : List Table) : Scope := ⟨tables.map fun t => (t.name, t.columnNames)⟩

/-- All combinations of one row of each table, those of the first table varying slowest. -/
def joinRows : List Table → List Row
  | [] => [[]]
  | t :: ts => t.rows.flatMap fun row => (joinRows ts).map (row ++ ·)

/-- The rows that satisfy a condition. -/
def keepRows (holds : Row → Except EvalError Bool) : List Row → Except EvalError (List Row)
  | [] => .ok []
  | row :: rows => do
    let kept ← holds row
    let rest ← keepRows holds rows
    return if kept then row :: rest else rest

/-- What a sort key stands for: a bare column that is selected with its table means that one. -/
def sortExpr (items : List SelectItem) : Expr → Expr
  | .column name =>
    (items.findSome? fun
      | .expr (.qualified table column) =>
        if Text.sameName column name then some (.qualified table column) else none
      | _ => none).getD (.column name)
  | e => e

/-- Whether sort keys are strictly before others: the first that differ decide. -/
def keysBefore : List Direction → List Value → List Value → Bool
  | d :: ds, a :: as, b :: bs =>
    match d.apply (a.order b) with
    | .lt => true
    | .gt => false
    | .eq => keysBefore ds as bs
  | _, _, _ => false

/-- The rows in the order of the sort keys. -/
def sortRows (evaluate : Row → Expr → Except EvalError Value) (s : Select) (rows : List Row) :
    Except EvalError (List Row) :=
  if s.order.isEmpty then .ok rows
  else do
    let keyed ← rows.mapM fun row => do
      return (← s.order.mapM fun item => evaluate row (sortExpr s.items item.expr), row)
    let before := fun (a b : List Value × Row) => keysBefore (s.order.map (·.direction)) a.1 b.1
    return (sortBy before keyed).map (·.2)

/-- The cells that one item selects from a row. -/
def projectItem (evaluate : Row → Expr → Except EvalError Value) (row : Row) :
    SelectItem → Except EvalError Row
  | .allColumns => .ok row
  | .expr e => return [← evaluate row e]

/-- The selection from a row. -/
def projectRow (evaluate : Row → Expr → Except EvalError Value) (items : List SelectItem)
    (row : Row) : Except EvalError Row :=
  return (← items.mapM (projectItem evaluate row)).flatten

/-- Whether two rows have the same cells. -/
def sameRow (a b : Row) : Bool :=
  a.length == b.length && (a.zip b).all fun (x, y) => x.same y

/-- The results for the rows, without repetitions if `distinct`, until `limit` of them are taken.
`taken` are the results so far, the last one first. -/
def takeRows (project : Row → Except EvalError Row) (distinct : Bool) :
    Option Nat → List Row → List Row → Except EvalError (List Row)
  | _, taken, [] => .ok taken.reverse
  | some 0, taken, _ => .ok taken.reverse
  | limit, taken, row :: rows => do
    let result ← project row
    if distinct && taken.any (sameRow · result) then
      takeRows project distinct limit taken rows
    else
      takeRows project distinct (limit.map (· - 1)) (result :: taken) rows

/-- The rows of a query over tables. -/
def selectRows (tables : List Table) (parameters : List Value) (s : Select) :
    Except EvalError (List Row) := do
  let scope := Scope.ofTables tables
  let evaluate := fun (row : Row) => Frame.evaluate ⟨scope, parameters, row⟩
  let kept ← keepRows (fun row => Frame.satisfiesAll ⟨scope, parameters, row⟩ s.filter)
    (joinRows tables)
  let sorted ← sortRows evaluate s kept
  takeRows (projectRow evaluate s.items) s.distinct s.limit [] sorted

/-- The names of a table's columns; none for a table that does not exist. -/
def Database.columnNames (db : Database) (name : String) : List String :=
  ((db.find? name).map Table.columnNames).getD []

/-- Whether the item stands for all columns. -/
def Sql.SelectItem.isAll : SelectItem → Bool
  | .allColumns => true
  | .expr _ => false

/-- The names of the result columns. Where `*` is selected all tables must exist; of several missing
ones the last is reported. -/
def Database.resultColumns (db : Database) : Statement → Except BackendError (List String)
  | .select s =>
    match s.tables.reverse.find? (!db.hasTable ·) with
    | some missing =>
      if s.items.any SelectItem.isAll then .error (.unknownTable missing)
      else .ok (s.columnNames db.columnNames)
    | none => .ok (s.columnNames db.columnNames)
  | s => .ok (s.columnNames db.columnNames)

/-- Runs a query. -/
def Database.select (db : Database) (parameters : List Value) (s : Select) :
    Except BackendError ResultSet := do
  let tables ← s.tables.mapM db.table
  let rows ← (selectRows tables parameters s).mapError .evaluation
  return ⟨← db.resultColumns (.select s), rows⟩

/-- Keeping never fails on rows that all have an answer, and is then plain filtering. -/
theorem keepRows_eq_filter {holds : Row → Except EvalError Bool} {p : Row → Bool} {rows : List Row}
    (h : ∀ row ∈ rows, holds row = .ok (p row)) : keepRows holds rows = .ok (rows.filter p) := by
  induction rows with
  | nil => rfl
  | cons row rows ih =>
    have hrow := h row List.mem_cons_self
    have hrest := ih fun r hr => h r (List.mem_cons_of_mem _ hr)
    simp only [keepRows, hrow, hrest, List.filter_cons]
    rfl

end EntityQuery
