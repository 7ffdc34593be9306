import EntityQuery.Backend.Error

/-!
# Errors of requests

What can go wrong between a request and its result. Each constructor is one cause, and
`QueryError.message` is its text; a cause in the backend is passed on with the statement it struck.
-/

namespace EntityQuery

/-- Why a value cannot be read or bound as its field's kind. -/
inductive CoercionCause where
  /-- a number outside the 32-bit integers -/
  | integerRange (value : Int)
  /-- a value of another type -/
  | noConversion (value : Value)
  /-- the backend could not read it -/
  | backend (cause : BackendError)
  deriving DecidableEq, Repr

/-- The text of a coercion cause. -/
def CoercionCause.message : CoercionCause → String
  | .integerRange value => "value " ++ toString value ++ " out of integer range"
  | .noConversion value => "Can not convert " ++ value.text
  | .backend cause => cause.message

/-- Why a request failed. -/
inductive QueryError where
  /-- a field without column -/
  | unresolvedColumn (field : String)
  /-- the backend did not prepare the statement -/
  | prepare (sql : String) (cause : BackendError)
  /-- the backend did not run the statement -/
  | execution (sql : String) (cause : BackendError)
  /-- a literal `null`, which needs a null test instead -/
  | nullLiteral (field : String)
  /-- another number of values than of placeholders -/
  | bindCount (compiled bound : Nat)
  /-- a closed cursor was moved -/
  | cursorClosed
  /-- a closed request was run -/
  | queryClosed (sql : String)
  /-- nothing is selected or assigned -/
  | emptySelection
  /-- a column was read without a row -/
  | noCurrentRow (field : String)
  /-- a column was read before it was compiled -/
  | unboundAccessor (field : String)
  /-- a column handle would move to another column -/
  | accessorRebound (field : String) (assigned requested : Nat)
  /-- a value of another kind than the field's -/
  | kindMismatch (field expected actual : String)
  /-- one row was wanted and there is none -/
  | notFound (sql : String)
  /-- one row was wanted and there are several -/
  | tooManyRows (sql : String)
  /-- a value that cannot be coerced -/
  | coercion (column : String) (cause : CoercionCause)
  /-- a configuration that cannot be read -/
  | config (text : String)
  deriving DecidableEq, Repr

namespace QueryError

/-- The text of an error. -/
def message : QueryError → String
  | .unresolvedColumn field => "Column for field " ++ field ++ " could not be resolved"
  | .prepare sql cause => "Failed to prepare request " ++ sql ++ ": " ++ cause.message
  | .execution sql cause => "Failed to execute request " ++ sql ++ ": " ++ cause.message
  | .nullLiteral field =>
    "Null not supported for field " ++ field ++ ", should be explicit (is null / is not null)"
  | .bindCount compiled bound =>
    "Bound " ++ toString bound ++ " parameters but the request declares " ++ toString compiled
  | .cursorClosed => "Cursor is closed"
  | .queryClosed sql => "Query closed: " ++ sql
  | .emptySelection => "No field selected"
  | .noCurrentRow field => "Accessor for " ++ field ++ " has no current row"
  | .unboundAccessor field => "Accessor for " ++ field ++ " is not bound to a result column"
  | .accessorRebound field assigned requested =>
    "Accessor for " ++ field ++ " is bound to column " ++ toString assigned ++
      ", cannot rebind to " ++ toString requested
  | .kindMismatch field expected actual =>
    "Field " ++ field ++ " is declared " ++ expected ++ " but got " ++ actual
  | .notFound sql => "No result returned for: " ++ sql
  | .tooManyRows sql => "Too many results for: " ++ sql
  | .coercion column cause => "Cannot convert value for " ++ column ++ ": " ++ cause.message
  | .config text => "Configuration error: " ++ text

/-- Whether the error is about the number of rows where one was wanted. -/
def isCardinality : QueryError → Bool
  | .notFound _ => true
  | .tooManyRows _ => true
  | _ => false

end QueryError

end EntityQuery
