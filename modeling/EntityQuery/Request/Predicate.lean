import EntityQuery.Naming
import EntityQuery.Request.Constraint

/-!
# The text of constraints

A constraint is written as SQL with a `?` for each operand that is a value. `Predicate` collects the
text, the placeholders in the order of the text, and the tables of the columns in the order of their
first mention. Placeholders are numbered one after the other from a given number, which the writing
passes along.

A field without column ends the writing with an error; what was written before it stays.
-/

namespace EntityQuery

/-- A `?` of the text. -/
structure Placeholder where
  /-- the number of the parameter, from 1 -/
  index : Nat
  /-- the field whose kind the value is coerced to -/
  field : Field
  deriving DecidableEq

/-- Adds a table to a list of tables in the order of their first mention. -/
def mention (tables : List String) (table : String) : List String :=
  if table ∈ tables then tables else tables ++ [table]

/-- The text of a constraint, as far as it is written. -/
structure Predicate where
  /-- the text -/
  sql : String
  /-- the placeholders in the text -/
  placeholders : List Placeholder
  /-- the tables of the columns -/
  tables : List String
  deriving DecidableEq

/-- The character that marks `%` and `_` as themselves in a substring test. -/
def likeEscape : Char := '\\'

namespace Predicate

/-- Nothing written. -/
def empty : Predicate := ⟨"", [], []⟩

/-- Writes to a predicate, and may fail on the way. -/
abbrev Writer := ExceptT QueryError (StateM Predicate)

/-- Writes text. -/
def emit (text : String) : Writer Unit := modify fun p => { p with sql := p.sql ++ text }

/-- Notes the placeholder of a number; the next number. -/
def placeholder (f : Field) (next : Nat) : Writer Nat := do
  modify fun p => { p with placeholders := p.placeholders ++ [⟨next, f⟩] }
  return next + 1

/-- The column of a field with its table. -/
def column (naming : Naming) (f : Field) : Writer String := do
  match naming.columnName f with
  | none => throw (.unresolvedColumn f.fullName)
  | some column =>
    let table := naming.tableName f.entity
    modify fun p => { p with tables := mention p.tables table }
    return table ++ "." ++ column

/-- Writes an operand; the next number. -/
def operand (naming : Naming) (next : Nat) : Operand → Writer Nat
  | .field f => do emit (← column naming f); return next
  | .value f _ => do emit "?"; placeholder f next
  | .accessor f _ => do emit "?"; placeholder f next

/-- Writes `count` placeholders with commas between them; the next number. -/
def questionMarks (f : Field) (next : Nat) : Nat → Writer Nat
  | 0 => return next
  | 1 => do emit "?"; placeholder f next
  | count + 2 => do
    emit "?"
    let next ← placeholder f next
    emit ", "
    questionMarks f next (count + 1)

/-- Writes a membership test. Nothing is in an empty list, so its text is a constant. -/
def inList (naming : Naming) (negated : Bool) (f : Field) (next count : Nat) : Writer Nat := do
  let column ← column naming f
  if count = 0 then
    emit (if negated then "1 = 1" else "1 = 0")
    return next
  else
    emit (column ++ (if negated then " NOT IN (" else " IN ("))
    let next ← questionMarks f next count
    emit ")"
    return next

/-- Writes a constraint; the next number. -/
def write (naming : Naming) (next : Nat) : Constraint → Writer Nat
  | .compare op left right => do
    let next ← operand naming next left
    emit (" " ++ op.symbol ++ " ")
    operand naming next right
  | .and left right => do
    emit "("
    let next ← write naming next left
    emit " AND "
    let next ← write naming next right
    emit ")"
    return next
  | .or left right => do
    emit "("
    let next ← write naming next left
    emit " OR "
    let next ← write naming next right
    emit ")"
    return next
  | .inList negated f values => inList naming negated f next values.length
  | .isNull negated f => do
    emit ((← column naming f) ++ (if negated then " IS NOT NULL" else " IS NULL"))
    return next
  | .contains negated f _ => do
    emit ((← column naming f) ++ (if negated then " NOT LIKE" else " LIKE") ++
      " ? ESCAPE '" ++ likeEscape.toString ++ "'")
    placeholder f next

/-- The predicate of a constraint whose first placeholder has the number `next`. -/
def ofConstraint (naming : Naming) (next : Nat) (c : Constraint) : Except QueryError Predicate :=
  match (write naming next c).run empty with
  | (.ok _, p) => .ok p
  | (.error e, _) => .error e

/-- The placeholders of a constraint, numbered from 1. -/
def placeholdersOf (naming : Naming) (c : Constraint) : Except QueryError (List Placeholder) :=
  (ofConstraint naming 1 c).map (·.placeholders)

end Predicate

end EntityQuery
