import EntityQuery.Value.Basic

/-!
# Types of stored columns

Each column of a table has a `ColumnType`. `ColumnType.normalize` turns a written value into the one
stored form of the column's type, or says why it cannot be stored:

* an integer column narrows a long, a `BIGINT` column widens an integer;
* a double column takes integers, rounded to the nearest double;
* a date column takes integers as days from 1970-01-01;
* `null` is stored in every column, and everything else only in a column of its own type.

`ColumnType.holds` says which values are in stored form; normalizing yields only such values.
-/

namespace EntityQuery

/-- The type of a stored column. -/
inductive ColumnType where
  | integer | bigint | double | boolean | varchar | blob | date
  deriving DecidableEq, Repr

/-- Why a value cannot be stored. -/
inductive StorageError where
  /-- a number outside the range of an integer column -/
  | integerRange (value : Int)
  /-- a day outside the calendar -/
  | dayRange (day : Int)
  /-- a value of another type -/
  | mismatch (type : String) (column : ColumnType)
  /-- a column position outside the table -/
  | noColumn (index : Nat) (table : String)
  deriving DecidableEq, Repr

namespace ColumnType

/-- The column type for the fields of a kind. -/
def ofKind : Kind → ColumnType
  | .integer => .integer
  | .long => .bigint
  | .double => .double
  | .boolean => .boolean
  | .string => .varchar
  | .blob => .blob

/-- The type as SQL writes it. -/
def sql : ColumnType → String
  | .integer => "INTEGER"
  | .bigint => "BIGINT"
  | .double => "DOUBLE"
  | .boolean => "BOOLEAN"
  | .varchar => "VARCHAR"
  | .blob => "BLOB"
  | .date => "DATE"

/-- All column types. -/
def all : List ColumnType := [.integer, .bigint, .double, .boolean, .varchar, .blob, .date]

/-- The date of a written day count. -/
def storedDay (day : Int) : Except StorageError Value :=
  match Date.ofDay? day with
  | some d => .ok (.date d)
  | none => .error (.dayRange day)

/-- The stored form of a written value. -/
def normalize : ColumnType → Value → Except StorageError Value
  | _, .null => .ok .null
  | .integer, .integer v => .ok (.integer v)
  | .integer, .long v =>
    match narrow? v.toInt with
    | some w => .ok (.integer w)
    | none => .error (.integerRange v.toInt)
  | .bigint, .integer v => .ok (.long v.toInt64)
  | .bigint, .long v => .ok (.long v)
  | .double, .double v => .ok (.double v)
  | .double, .integer v => .ok (.double (.ofInt v.toInt))
  | .double, .long v => .ok (.double (.ofInt v.toInt))
  | .boolean, .boolean v => .ok (.boolean v)
  | .varchar, .string v => .ok (.string v)
  | .blob, .blob v => .ok (.blob v)
  | .date, .date v => .ok (.date v)
  | .date, .integer v => storedDay v.toInt
  | .date, .long v => storedDay v.toInt
  | type, v => .error (.mismatch v.typeName type)

/-- The values in stored form. -/
def holds : ColumnType → Value → Bool
  | _, .null => true
  | .integer, .integer _ => true
  | .bigint, .long _ => true
  | .double, .double _ => true
  | .boolean, .boolean _ => true
  | .varchar, .string _ => true
  | .blob, .blob _ => true
  | .date, .date _ => true
  | _, _ => false

theorem holds_of_storedDay {day : Int} {v : Value} (h : storedDay day = .ok v) :
    date.holds v = true := by
  unfold storedDay at h
  split at h
  · cases h; rfl
  · cases h

/-- Normalizing yields a value in stored form. -/
theorem holds_of_normalize {type : ColumnType} {v stored : Value}
    (h : type.normalize v = .ok stored) : type.holds stored = true := by
  fun_cases normalize type v with
  | case1 => cases h; cases type <;> rfl
  | case3 _ _ hn => simp only [normalize, hn] at h; cases h; rfl
  | case4 _ hn => simp only [normalize, hn] at h; cases h
  | case14 | case15 => exact holds_of_storedDay h
  | case16 => simp_all [normalize]
  | _ => cases h; rfl

/-- A value in stored form is stored as it is. -/
theorem normalize_of_holds {type : ColumnType} {v : Value} (h : type.holds v = true) :
    type.normalize v = .ok v := by
  cases type <;> cases v <;> simp_all [holds, normalize]

end ColumnType

/-- The text of a storage error. -/
def StorageError.message : StorageError → String
  | .integerRange value => "Value " ++ toString value ++ " out of range for INTEGER"
  | .dayRange day => "Epoch day " ++ toString day ++ " out of range for DATE"
  | .mismatch type column => "Cannot store " ++ type ++ " in " ++ column.sql ++ " column"
  | .noColumn index table =>
    "Column index " ++ toString index ++ " out of range for " ++ table

end EntityQuery
