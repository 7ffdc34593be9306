import EntityQuery.Text.Fold

/-!
# Columns in a joined row

A statement sees the rows of its tables side by side, in the order of the tables. A `Scope` lists the
tables with their columns, and finds the position of a column in such a joined row. Names are
compared up to the case of ASCII letters.

* `Scope.positions` lists the places of a column, at most one for each table;
* `Scope.resolve` is the place of a column that has exactly one.
-/

namespace EntityQuery

/-- Why a name is no column. -/
inductive NameError where
  /-- no table has such a column -/
  | unknown (table : Option String) (column : String)
  /-- several tables have such a column -/
  | ambiguous (column : String)
  deriving DecidableEq, Repr

/-- The text of a name error. -/
def NameError.message : NameError → String
  | .unknown (some table) column => "Unknown column: " ++ table ++ "." ++ column
  | .unknown none column => "Unknown column: " ++ column
  | .ambiguous column => "Ambiguous column: " ++ column

/-- The tables side by side, with the names of their columns. -/
structure Scope where
  /-- table names and column names, in order -/
  tables : List (String × List String)
  deriving DecidableEq, Repr

namespace Scope

/-- The scope without tables. -/
def empty : Scope := ⟨[]⟩

/-- The number of cells in a joined row. -/
def width (s : Scope) : Nat := (s.tables.flatMap (·.2)).length

/-- Whether a table is meant by a qualifier; every table is without one. -/
def isMeant (qualifier : Option String) (table : String) : Bool :=
  qualifier.all (Text.sameName table ·)

/-- The position of a column among names. -/
def columnIndex? (columns : List String) (column : String) : Option Nat :=
  columns.findIdx? (Text.sameName · column)

/-- Two spellings of a name have the same position. -/
theorem columnIndex?_congr {a b : String} (h : Text.sameName a b = true) (columns : List String) :
    columnIndex? columns a = columnIndex? columns b := by
  unfold columnIndex? Text.sameName
  rw [Text.sameName_iff.1 h]

/-- The places of a column in the tables, the first of which starts at `offset`. -/
def positionsFrom (qualifier : Option String) (column : String) (offset : Nat) :
    List (String × List String) → List Nat
  | [] => []
  | (table, columns) :: tables =>
    let here := if isMeant qualifier table then columnIndex? columns column else none
    (here.map (offset + ·)).toList ++
      positionsFrom qualifier column (offset + columns.length) tables

/-- The places of a column in a joined row. -/
def positions (s : Scope) (qualifier : Option String) (column : String) : List Nat :=
  positionsFrom qualifier column 0 s.tables

/-- The place of a column in a joined row. -/
def resolve (s : Scope) (qualifier : Option String) (column : String) : Except NameError Nat :=
  match s.positions qualifier column with
  | [] => .error (.unknown qualifier column)
  | [position] => .ok position
  | _ => .error (.ambiguous column)

/-- A column resolves exactly when it has one place. -/
theorem resolve_eq_ok_iff {s : Scope} {q : Option String} {c : String} {i : Nat} :
    s.resolve q c = .ok i ↔ s.positions q c = [i] := by
  unfold resolve
  split <;> simp_all

end Scope

end EntityQuery
