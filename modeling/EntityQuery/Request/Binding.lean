import EntityQuery.Backend.Basic
import EntityQuery.Config
import EntityQuery.Request.Constraint

/-!
# Binding values to placeholders

Binding walks through the assignments and the constraint of a request in the order in which they were
written, reads the value of each operand, coerces it to the kind of its field, and hands it to a sink
under the next number.

* `coerce` is the coercion. Integers widen to longs and doubles and narrow if they fit; dates become
  days; `null` is refused.
* A substring test binds the pattern `%text%`, in which `%`, `_` and the escape character of the text
  are escaped (`escapeLike`).
* The first operand that fails ends the binding with its error.
* `Binder.bind` checks in the end that as many values were bound as placeholders were written.
-/

namespace EntityQuery

/-- The text with `%`, `_` and the escape character marked as themselves. -/
def escapeLikeChars (escape : Char) : List Char → List Char
  | [] => []
  | c :: cs =>
    if c = '%' ∨ c = '_' ∨ c = escape then escape :: c :: escapeLikeChars escape cs
    else c :: escapeLikeChars escape cs

/-- The text as a pattern that matches itself only, under the escape character `\`. -/
def escapeLike (text : String) : String := String.ofList (escapeLikeChars '\\' text.toList)

/-- The value as a field of the kind takes it. -/
def coerce (f : Field) (v : Value) : Except QueryError Setting :=
  let narrowed (i : Int) : Except QueryError Setting :=
    match narrow? i with
    | some w => .ok (.integer w)
    | none => .error (.coercion f.fullName (.integerRange i))
  match f.kind, v with
  | _, .null => .error (.nullLiteral f.fullName)
  | .integer, .integer v => .ok (.integer v)
  | .integer, .long v => narrowed v.toInt
  | .integer, .date d => narrowed d.day
  | .long, .integer v => .ok (.long v.toInt64)
  | .long, .long v => .ok (.long v)
  | .long, .date d => .ok (.long (Int64.ofInt d.day))
  | .double, .double v => .ok (.double v)
  | .double, .integer v => .ok (.double (.ofInt v.toInt))
  | .double, .long v => .ok (.double (.ofInt v.toInt))
  | .boolean, .boolean v => .ok (.boolean v)
  | .string, .string v => .ok (.string v)
  | .blob, .blob v => .ok (.bytes v)
  | kind, v => .error (.kindMismatch f.fullName kind.name v.typeName)

/-- A setting in the form of a blob mode. -/
def BlobMode.apply : BlobMode → Setting → Setting
  | .lengthPrefixed, .bytes data => .stream data.length data
  | _, setting => setting

/-- What binding works with, on a state of type `τ`. -/
structure Binder (τ : Type) where
  /-- the text of the request, for errors -/
  sql : String
  /-- how byte strings are handed over -/
  blobMode : BlobMode
  /-- the value of an accessor -/
  read : Accessor → ExceptT QueryError (StateM τ) Value
  /-- takes the value of a parameter -/
  put : Nat → Setting → Call τ Unit

namespace Binder

variable {τ : Type}

/-- Hands a setting over. -/
def hand (b : Binder τ) (index : Nat) (setting : Setting) : ExceptT QueryError (StateM τ) Unit :=
  (b.put index setting).adapt (.execution b.sql)

/-- Coerces a value and hands it over; the next number. -/
def set (b : Binder τ) (next : Nat) (f : Field) (v : Value) :
    ExceptT QueryError (StateM τ) Nat := do
  let setting ← ExceptT.mk (return coerce f v)
  b.hand next (b.blobMode.apply setting)
  return next + 1

/-- Binds the values of a list for one field; the next number. -/
def bindList (b : Binder τ) (f : Field) (next : Nat) :
    List Value → ExceptT QueryError (StateM τ) Nat
  | [] => return next
  | v :: vs => do b.bindList f (← b.set next f v) vs

/-- Binds assignments; the next number. -/
def bindValues (b : Binder τ) (next : Nat) :
    List (Field × Accessor) → ExceptT QueryError (StateM τ) Nat
  | [] => return next
  | (f, source) :: rest => do b.bindValues (← b.set next f (← b.read source)) rest

/-- Binds an operand; the next number. -/
def bindOperand (b : Binder τ) (next : Nat) : Operand → ExceptT QueryError (StateM τ) Nat
  | .field _ => return next
  | .value f v => b.set next f v
  | .accessor f source => do b.set next f (← b.read source)

/-- Binds a constraint; the next number. -/
def bindConstraint (b : Binder τ) (next : Nat) : Constraint → ExceptT QueryError (StateM τ) Nat
  | .compare _ left right => do b.bindOperand (← b.bindOperand next left) right
  | .and left right => do b.bindConstraint (← b.bindConstraint next left) right
  | .or left right => do b.bindConstraint (← b.bindConstraint next left) right
  | .inList _ f values => b.bindList f next values
  | .isNull _ _ => return next
  | .contains _ _ text => do
    b.hand next (.string ("%" ++ escapeLike text ++ "%"))
    return next + 1

/-- Binds assignments and then a constraint, which must fill `compiled` placeholders; the number of
values bound. -/
def bind (b : Binder τ) (values : List (Field × Accessor)) (constraint : Option Constraint)
    (compiled : Nat) : ExceptT QueryError (StateM τ) Nat := do
  let next ← b.bindValues 1 values
  let next ← match constraint with
    | some c => b.bindConstraint next c
    | none => pure next
  let bound := next - 1
  if bound ≠ compiled then throw (.bindCount compiled bound)
  return bound

end Binder

/-! ## Values in a list -/

/-- Puts a value at a position of a list, which grows with `null` as needed. -/
def putValue (values : List Value) (i : Nat) (v : Value) : List Value :=
  (values ++ List.replicate (i + 1 - values.length) Value.null).set i v

/-- A sink that collects values in the order of their numbers. -/
def collectValue (index : Nat) (setting : Setting) : Call (List Value) Unit := fun values =>
  match setting.value with
  | .error e => (.error e, values)
  | .ok v =>
    match position? index with
    | none => (.error (.parameterRange index values.length), values)
    | some i => (.ok (), putValue values i v)

end EntityQuery
