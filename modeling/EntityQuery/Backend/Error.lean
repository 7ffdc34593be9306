import EntityQuery.Evaluation.Expr
import EntityQuery.Sql.Parser

/-!
# Errors of a backend

What a backend reports when it cannot prepare, run or read. Each constructor is one cause, and
`BackendError.message` is its text.
-/

namespace EntityQuery

/-- Why a backend refused a call. -/
inductive BackendError where
  /-- the text is no statement -/
  | unreadable (cause : Sql.ParseError)
  /-- no table of that name -/
  | unknownTable (name : String)
  /-- no column of that name -/
  | unknownColumn (name : String)
  /-- a parameter position outside the statement -/
  | parameterRange (index count : Nat)
  /-- a parameter without value -/
  | parameterUnset (number : Nat)
  /-- a column position outside the row -/
  | columnRange (index width : Nat)
  /-- no row to read from -/
  | noRow
  /-- a cell of another type -/
  | conversion (expected actual : String)
  /-- the statement or row set is closed -/
  | closed
  /-- a byte stream shorter than announced -/
  | shortStream
  /-- an expression without value -/
  | evaluation (cause : EvalError)
  /-- a value that cannot be stored -/
  | storage (cause : StorageError)
  /-- a table without columns -/
  | noColumns (table : String)
  /-- a table that exists already -/
  | tableExists (table : String)
  /-- a row of another length than the columns -/
  | arity (columns values : Nat)
  /-- a query of a statement that is none -/
  | notAQuery
  /-- a mutation by a query -/
  | isAQuery
  /-- a failure with a text of the backend's own -/
  | other (text : String)
  deriving DecidableEq, Repr

/-- The text of a backend error. -/
def BackendError.message : BackendError → String
  | .unreadable cause => "Syntax error: " ++ cause.message
  | .unknownTable name => "Unknown table: " ++ name
  | .unknownColumn name => "Unknown column: " ++ name
  | .parameterRange index count =>
    "Parameter " ++ toString index ++ " out of range (statement has " ++ toString count ++
      " parameters)"
  | .parameterUnset number => "Parameter " ++ toString number ++ " was never set"
  | .columnRange index width =>
    "Column index " ++ toString index ++ " out of range (row has " ++ toString width ++ " columns)"
  | .noRow => "No current row"
  | .conversion expected actual => "Cannot read " ++ actual ++ " as " ++ expected
  | .closed => "Statement is closed"
  | .shortStream => "IO error: failed to fill whole buffer"
  | .evaluation cause => cause.message
  | .storage cause => cause.message
  | .noColumns table => "Table " ++ table ++ " has no columns"
  | .tableExists table => "Table " ++ table ++ " already exists"
  | .arity columns values =>
    "INSERT has " ++ toString columns ++ " columns but " ++ toString values ++ " values"
  | .notAQuery => "Statement does not return rows"
  | .isAQuery => "Query statements must use execute_query"
  | .other text => text

end EntityQuery
