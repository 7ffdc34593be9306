import EntityQuery.Entity
import EntityQuery.Text.Fold
import EntityQuery.Text.LetterCase
import EntityQuery.Text.Uppercased

/-!
# Table and column names

A `Naming` gives each entity a table name and each field a column name, or no column at all. The
usual naming follows `NamingRules`:

* `upperSnake` turns `firstName` into `FIRST_NAME`;
* `NamingRules.sqlName` applies it and wraps a reserved word as `_WORD_`;
* `Naming.byRules` keeps the names that entities and fields fix, and derives the others.
-/

namespace EntityQuery

/-- What a naming does: a table for each entity, and a column for each mapped field. -/
structure Naming where
  /-- the table of an entity -/
  tableName : Entity → String
  /-- the column of a field; `none` for a field without one -/
  columnName : Field → Option String

/-- The rules that derive a name. -/
structure NamingRules where
  /-- names that must not appear bare, in any case of ASCII letters -/
  reserved : List String := ["COUNT", "WHERE", "FROM", "SELECT"]
  /-- whether `camelCase` becomes `CAMEL_CASE` -/
  upperCase : Bool := true
  deriving DecidableEq, Repr

/-- Whether an underscore goes before `c`: an upper-case letter after a lower-case letter or digit
starts a word. -/
def startsWord (previous : Option Char) (c : Char) : Bool :=
  Text.isUppercase c && previous.any fun p => Text.isLowercase p || p.isDigit

/-- The characters upper-cased, with an underscore before each word that follows `previous`. -/
def upperSnakeFrom (previous : Option Char) : List Char → List Char
  | [] => []
  | c :: cs =>
    (if startsWord previous c then ['_'] else []) ++ Text.upper c ++ upperSnakeFrom (some c) cs

/-- `firstName` becomes `FIRST_NAME`. -/
def upperSnake (name : String) : String :=
  String.ofList (upperSnakeFrom none name.toList)

namespace NamingRules

/-- Whether a name is reserved. -/
def isReserved (r : NamingRules) (name : String) : Bool := r.reserved.any (Text.sameName · name)

/-- The name by the rules: case first, then the wrapping of reserved words. -/
def sqlName (r : NamingRules) (name : String) : String :=
  let name := if r.upperCase then upperSnake name else name
  if r.isReserved name then "_" ++ name ++ "_" else name

end NamingRules

/-- The naming by rules: fixed names stay, others are derived, and `unmapped` fields have no
column. -/
def Naming.byRules (rules : NamingRules) (unmapped : List Field) : Naming where
  tableName e := e.table.getD (rules.sqlName e.name)
  columnName f :=
    if f ∈ unmapped then none else some (f.column.getD (rules.sqlName f.name))

/-- No underscore goes before the first character. -/
theorem upperSnakeFrom_none_cons (c : Char) (cs : List Char) :
    upperSnakeFrom none (c :: cs) = Text.upper c ++ upperSnakeFrom (some c) cs := by
  rw [upperSnakeFrom, startsWord, Option.any_none, Bool.and_false]
  rfl

theorem toList_upperSnake (name : String) :
    (upperSnake name).toList = upperSnakeFrom none name.toList := by
  rw [upperSnake, String.toList_ofList]

/-- A wrapped name, character by character. -/
theorem toList_wrapped (name : String) : ("_" ++ name ++ "_").toList = '_' :: (name.toList ++ ['_']) := by
  rw [String.toList_append, String.toList_append]
  rfl

/-- A field without column is exactly an unmapped one. -/
theorem Naming.columnName_byRules_eq_none_iff {rules : NamingRules} {unmapped : List Field}
    {f : Field} : (Naming.byRules rules unmapped).columnName f = none ↔ f ∈ unmapped := by
  simp [Naming.byRules]

end EntityQuery
