import EntityQuery.Backend.Basic
import EntityQuery.Entity
import EntityQuery.Error

/-!
# Reading cells as the kind of their field

The cell of a result column is read as the declared kind of a field, whatever type the backend holds
it as:

* an integer field takes integers, longs that fit, dates as days, and doubles without fraction;
* a long field takes the same without the narrowing;
* a double field takes numbers of all types; a zero is `null` if the backend says so;
* the other kinds take their own type only.

`wholeLong?` is the integer behind a double. A double is taken up to 2^63, which is read as the
greatest long.

The errors name the column as the backend does, or by its number.
-/

namespace EntityQuery

/-- The long that a double without fraction stands for. -/
def wholeLong? (d : Double) : Option Int64 :=
  d.whole?.bind fun i =>
    if i = 9223372036854775808 then some Int64.maxValue
    else if -9223372036854775808 ≤ i ∧ i ≤ 9223372036854775807 then some (Int64.ofInt i)
    else none

/-- The integer that a cell stands for. -/
def wholeCell (v : Value) : Except CoercionCause Int :=
  match v with
  | .integer i => .ok i.toInt
  | .long i => .ok i.toInt
  | .date d => .ok d.day
  | .double d =>
    match wholeLong? d with
    | some i => .ok i.toInt
    | none => .error (.noConversion v)
  | _ => .error (.noConversion v)

/-- The value of an integer field behind a cell. -/
def integerOfCell : Value → Except CoercionCause Value
  | .null => .ok .null
  | v => do
    let wide ← wholeCell v
    match narrow? wide with
    | some i => return .integer i
    | none => throw (.integerRange wide)

/-- The value of a long field behind a cell. -/
def longOfCell : Value → Except CoercionCause Value
  | .null => .ok .null
  | v => do return .long (Int64.ofInt (← wholeCell v))

/-- The value of a double field behind a cell. -/
def doubleOfCell (v : Value) : Except CoercionCause Value :=
  if v.isNull then .ok .null
  else
    match v.numeric? with
    | some d => .ok (.double d)
    | none => .error (.noConversion v)

/-- The value of a string field behind a cell. -/
def stringOfCell : Value → Except CoercionCause Value
  | .null => .ok .null
  | .string s => .ok (.string s)
  | v => .error (.noConversion v)

variable {σ : Type}

namespace Backend

/-- How errors name a result column. -/
def columnLabel (b : Backend σ) (rows : RowSetId) (index : Nat) (s : σ) : String :=
  (b.columnName rows index s).getD ("#" ++ toString index)

/-- Refuses a cell of a column. -/
def refuse {α : Type} (b : Backend σ) (rows : RowSetId) (index : Nat) (cause : CoercionCause) :
    ExceptT QueryError (StateM σ) α := do
  throw (.coercion (b.columnLabel rows index (← getThe σ)) cause)

/-- Asks for a cell in some form. -/
def fetch (b : Backend σ) (rows : RowSetId) (getter : Getter) (index : Nat) :
    ExceptT QueryError (StateM σ) (Except BackendError Value) :=
  ExceptT.mk do return .ok (← (b.get rows getter index).run)

/-- Asks for a cell in some form, and refuses the column if that fails. -/
def fetched (b : Backend σ) (rows : RowSetId) (getter : Getter) (index : Nat) :
    ExceptT QueryError (StateM σ) Value := do
  match ← b.fetch rows getter index with
  | .ok v => return v
  | .error e => b.refuse rows index (.backend e)

/-- Asks for a cell as it is, and converts it. -/
def converted (b : Backend σ) (rows : RowSetId) (index : Nat)
    (convert : Value → Except CoercionCause Value) : ExceptT QueryError (StateM σ) Value := do
  match convert (← b.fetched rows .object index) with
  | .ok v => return v
  | .error cause => b.refuse rows index cause

/-- Reads a cell as a double. A backend that has no double there is asked for the cell as it is. -/
def readDouble (b : Backend σ) (rows : RowSetId) (index : Nat) :
    ExceptT QueryError (StateM σ) Value := do
  match ← b.fetch rows .double index with
  | .ok (.double d) => return if d.isZero && b.wasNull rows (← getThe σ) then .null else .double d
  | .ok v => return v
  | .error (.conversion _ _) => b.converted rows index doubleOfCell
  | .error e => b.refuse rows index (.backend e)

/-- Reads a cell of the current row as a value of the kind. -/
def readCell (b : Backend σ) (rows : RowSetId) (index : Nat) :
    Kind → ExceptT QueryError (StateM σ) Value
  | .integer => b.converted rows index integerOfCell
  | .long => b.converted rows index longOfCell
  | .double => b.readDouble rows index
  | .boolean => do
    let v ← b.fetched rows .boolean index
    return if b.wasNull rows (← getThe σ) then .null else v
  | .string => b.converted rows index stringOfCell
  | .blob => b.fetched rows .bytes index

end Backend

end EntityQuery
