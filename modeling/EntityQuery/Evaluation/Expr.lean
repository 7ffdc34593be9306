import EntityQuery.Evaluation.Pattern
import EntityQuery.Evaluation.Scope
import EntityQuery.Sql.Statement
import EntityQuery.Value.Order

/-!
# Values of expressions

`evaluate` computes the value of an expression over one joined row. Truth has three values: `true`,
`false`, and `null` for unknown.

* A comparison with `null` is unknown, and so is a pattern match.
* `AND` is false as soon as one side is, `OR` true as soon as one side is, even if the other side is
  no truth value. Both sides are always computed first.
* `x IN (a, b)` is `x = a OR x = b`, from left to right, and stops at the first hit.

`satisfies` is how a statement uses a condition: unknown counts as false.
-/

namespace EntityQuery

/-- Why an expression has no value. -/
inductive EvalError where
  /-- a name that is no column -/
  | name (cause : NameError)
  /-- a parameter without value -/
  | parameterUnset (number : Nat)
  /-- a column position outside the row -/
  | cellMissing (index width : Nat)
  /-- values of types that do not compare -/
  | incomparable (left right : String)
  /-- `AND` of other values -/
  | andTypes (left right : String)
  /-- `OR` of other values -/
  | orTypes (left right : String)
  /-- `NOT` of another value -/
  | notType (type : String)
  /-- `LIKE` of other values -/
  | likeTypes (left right : String)
  /-- a condition with another value -/
  | conditionType (type : String)
  deriving DecidableEq, Repr

/-- The text of an evaluation error. -/
def EvalError.message : EvalError → String
  | .name cause => cause.message
  | .parameterUnset number => "Parameter " ++ toString number ++ " was never set"
  | .cellMissing index width =>
    "Column index " ++ toString index ++ " out of bounds (row has " ++ toString width ++ " values)"
  | .incomparable left right => "Cannot compare " ++ left ++ " with " ++ right
  | .andTypes left right => "AND requires booleans, got " ++ left ++ " and " ++ right
  | .orTypes left right => "OR requires booleans, got " ++ left ++ " and " ++ right
  | .notType type => "NOT requires a boolean, got " ++ type
  | .likeTypes left right => "LIKE requires strings, got " ++ left ++ " and " ++ right
  | .conditionType type => "Predicate evaluated to " ++ type

/-- The cells of a row. -/
abbrev Row := List Value

/-! ## Operations on values -/

/-- A comparison of two values; unknown with a `null` on either side. -/
def compareValues (op : Comparison) (a b : Value) : Except EvalError Value :=
  if a.isNull || b.isNull then .ok .null
  else
    match a.compare? b with
    | some o => .ok (.boolean (op.accepts o))
    | none => .error (.incomparable a.typeName b.typeName)

/-- Conjunction. -/
def andValues : Value → Value → Except EvalError Value
  | .boolean false, _ => .ok (.boolean false)
  | _, .boolean false => .ok (.boolean false)
  | .boolean true, .boolean true => .ok (.boolean true)
  | .null, _ => .ok .null
  | _, .null => .ok .null
  | a, b => .error (.andTypes a.typeName b.typeName)

/-- Disjunction. -/
def orValues : Value → Value → Except EvalError Value
  | .boolean true, _ => .ok (.boolean true)
  | _, .boolean true => .ok (.boolean true)
  | .boolean false, .boolean false => .ok (.boolean false)
  | .null, _ => .ok .null
  | _, .null => .ok .null
  | a, b => .error (.orTypes a.typeName b.typeName)

/-- Negation. -/
def notValue : Value → Except EvalError Value
  | .boolean b => .ok (.boolean !b)
  | .null => .ok .null
  | v => .error (.notType v.typeName)

/-- A truth value, negated on request; other values stay. -/
def negateIf (negated : Bool) : Value → Value
  | .boolean b => .boolean (b != negated)
  | v => v

/-- A pattern match; unknown with a `null` on either side. -/
def likeValues (negated : Bool) (escape : Option Char) : Value → Value → Except EvalError Value
  | .null, _ => .ok .null
  | _, .null => .ok .null
  | .string s, .string p => .ok (.boolean (isLike s p escape != negated))
  | a, b => .error (.likeTypes a.typeName b.typeName)

/-! ## Expressions -/

/-- What an expression is evaluated over. -/
structure Frame where
  /-- the tables of the row -/
  scope : Scope
  /-- the values of the parameters, the first of which has number 1 -/
  parameters : List Value
  /-- the joined row -/
  row : Row

namespace Frame

/-- The value of the parameter of a number. -/
def parameter (f : Frame) (number : Nat) : Except EvalError Value :=
  match number with
  | 0 => .error (.parameterUnset 0)
  | k + 1 =>
    match f.parameters[k]? with
    | some v => .ok v
    | none => .error (.parameterUnset (k + 1))

/-- The cell of a column. -/
def cell (f : Frame) (qualifier : Option String) (column : String) : Except EvalError Value :=
  match f.scope.resolve qualifier column with
  | .error cause => .error (.name cause)
  | .ok i =>
    match f.row[i]? with
    | some v => .ok v
    | none => .error (.cellMissing i f.row.length)

mutual

/-- The value of an expression. -/
def evaluate (f : Frame) : Sql.Expr → Except EvalError Value
  | .literal v => .ok v
  | .parameter number => f.parameter number
  | .column name => f.cell none name
  | .qualified table name => f.cell (some table) name
  | .compare op left right => do compareValues op (← f.evaluate left) (← f.evaluate right)
  | .and left right => do andValues (← f.evaluate left) (← f.evaluate right)
  | .or left right => do orValues (← f.evaluate left) (← f.evaluate right)
  | .not e => do notValue (← f.evaluate e)
  | .inList negated e items => do
    let v ← f.evaluate e
    if v.isNull then return .null
    return negateIf negated (← f.isAmong v (.boolean false) items)
  | .like negated e pattern escape => do
    likeValues negated escape (← f.evaluate e) (← f.evaluate pattern)
  | .isNull negated e => return .boolean ((← f.evaluate e).isNull != negated)

/-- Whether `v` is among the values of the items, where `sofar` is the answer for the items before
them. -/
def isAmong (f : Frame) (v sofar : Value) : List Sql.Expr → Except EvalError Value
  | [] => .ok sofar
  | item :: items => do
    let found ← orValues sofar (← compareValues .equal v (← f.evaluate item))
    if found = .boolean true then return found else f.isAmong v found items

end

/-- Whether the row satisfies a condition; unknown counts as false. -/
def satisfies (f : Frame) (e : Sql.Expr) : Except EvalError Bool := do
  match ← f.evaluate e with
  | .boolean b => return b
  | .null => return false
  | v => throw (.conditionType v.typeName)

/-- Whether the row satisfies a condition, if there is one. -/
def satisfiesAll (f : Frame) : Option Sql.Expr → Except EvalError Bool
  | some e => f.satisfies e
  | none => .ok true

end Frame

end EntityQuery
