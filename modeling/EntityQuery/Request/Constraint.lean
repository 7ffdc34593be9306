import EntityQuery.Request.Accessor

/-!
# Constraints

A `Constraint` is a predicate over the fields of entities. Its leaves are comparisons of two
operands, membership in a list of values, null tests and substring tests.

An operand is a column, or a value that takes a placeholder: a literal or an accessor. Either carries
the field whose kind the value is coerced to.

* `parameterCount` is the number of placeholders;
* `referencedFields` lists the fields that appear as columns, from left to right;
* the constructors with `Native` values are for literals whose kind is known to fit.
-/

namespace EntityQuery

/-- One side of a comparison. -/
inductive Operand where
  /-- the column of a field -/
  | field (f : Field)
  /-- a literal, coerced to the kind of `f` -/
  | value (f : Field) (v : Value)
  /-- the value of an accessor, coerced to the kind of `f` -/
  | accessor (f : Field) (a : Accessor)
  deriving DecidableEq

/-- Whether the operand takes a placeholder. -/
def Operand.isParameter : Operand → Bool
  | .field _ => false
  | _ => true

/-- The fields that appear as columns. -/
def Operand.columns : Operand → List Field
  | .field f => [f]
  | _ => []

/-- A predicate over fields. -/
inductive Constraint where
  /-- a comparison -/
  | compare (op : Comparison) (left right : Operand)
  /-- conjunction -/
  | and (left right : Constraint)
  /-- disjunction -/
  | or (left right : Constraint)
  /-- membership in a list of values, or its negation -/
  | inList (negated : Bool) (f : Field) (values : List Value)
  /-- test for `null`, or its negation -/
  | isNull (negated : Bool) (f : Field)
  /-- test for a substring, or its negation -/
  | contains (negated : Bool) (f : Field) (text : String)
  deriving DecidableEq

namespace Constraint

/-- A field compared to a value. -/
def compareValue (op : Comparison) (f : Field) (v : Value) : Constraint :=
  .compare op (.field f) (.value f v)

/-- Two fields compared. -/
def compareFields (op : Comparison) (left right : Field) : Constraint :=
  .compare op (.field left) (.field right)

/-- A field compared to the value of an accessor. -/
def compareAccessor (op : Comparison) (f : Field) (a : Accessor) : Constraint :=
  .compare op (.field f) (.accessor f a)

/-- A field compared to a value of its kind. -/
def compareNative (op : Comparison) (f : Field) (v : f.kind.Native) : Constraint :=
  compareValue op f v.value

/-- A field among values of its kind, or not among them. -/
def inNative (negated : Bool) (f : Field) (values : List f.kind.Native) : Constraint :=
  .inList negated f (values.map Kind.Native.value)

/-- The constraints that are present, joined from the left. -/
def joinAll (join : Constraint → Constraint → Constraint) (items : List (Option Constraint)) :
    Option Constraint :=
  match items.filterMap id with
  | [] => none
  | first :: rest => some (rest.foldl join first)

/-- The conjunction of the constraints that are present. -/
def andAll : List (Option Constraint) → Option Constraint := joinAll .and

/-- The disjunction of the constraints that are present. -/
def orAll : List (Option Constraint) → Option Constraint := joinAll .or

/-- The number of placeholders. -/
def parameterCount : Constraint → Nat
  | .compare _ left right => left.isParameter.toNat + right.isParameter.toNat
  | .and left right => left.parameterCount + right.parameterCount
  | .or left right => left.parameterCount + right.parameterCount
  | .inList _ _ values => values.length
  | .isNull _ _ => 0
  | .contains _ _ _ => 1

/-- The fields that appear as columns, from left to right. -/
def referencedFields : Constraint → List Field
  | .compare _ left right => left.columns ++ right.columns
  | .and left right => left.referencedFields ++ right.referencedFields
  | .or left right => left.referencedFields ++ right.referencedFields
  | .inList _ f _ => [f]
  | .isNull _ f => [f]
  | .contains _ f _ => [f]

@[simp] theorem andAll_nil : andAll [] = none := rfl

/-- An absent constraint adds nothing. -/
@[simp] theorem joinAll_none_cons (join : Constraint → Constraint → Constraint)
    (items : List (Option Constraint)) : joinAll join (none :: items) = joinAll join items := by
  simp [joinAll]

end Constraint

end EntityQuery
