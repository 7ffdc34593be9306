import EntityQuery.Calendar.Date
import EntityQuery.Number.Shortest

/-!
# Values and the kinds of fields

The values that flow through literals, bound parameters, stored cells and result rows:

* `Value` has one constructor per type of value, and `null`;
* `Kind` is the type a field declares. No kind declares dates: they are what a backend hands back for
  its date columns;
* `Kind.accepts` is the check that a literal passes without conversion;
* `Kind.Native` is the type of the values of a kind, for literals whose kind is known beforehand.

`Value.same` is the equality of cells, which follows the doubles: a NaN differs from itself and the
two zeros are equal. Values of different types are never the same, whatever number they stand for.
-/

namespace EntityQuery

/-- The declared kind of a field. -/
inductive Kind where
  /-- 32-bit integers -/
  | integer
  /-- 64-bit integers -/
  | long
  /-- double-precision numbers -/
  | double
  /-- truth values -/
  | boolean
  /-- texts -/
  | string
  /-- byte strings -/
  | blob
  deriving DecidableEq, Repr

/-- All kinds, in their usual order. -/
def Kind.all : List Kind := [.integer, .long, .double, .boolean, .string, .blob]

/-- The name of a kind in messages. -/
def Kind.name : Kind → String
  | .integer => "integer"
  | .long => "long"
  | .double => "double"
  | .boolean => "boolean"
  | .string => "string"
  | .blob => "blob"

/-- The name of a kind where it stands for the type of a handle. -/
def Kind.title : Kind → String
  | .integer => "Integer"
  | .long => "Long"
  | .double => "Double"
  | .boolean => "Boolean"
  | .string => "String"
  | .blob => "Blob"

/-- A value. -/
inductive Value where
  /-- the absent value -/
  | null
  /-- a 32-bit integer -/
  | integer (v : Int32)
  /-- a 64-bit integer -/
  | long (v : Int64)
  /-- a double-precision number -/
  | double (v : Double)
  /-- a truth value -/
  | boolean (v : Bool)
  /-- a text -/
  | string (v : String)
  /-- a byte string -/
  | blob (v : List UInt8)
  /-- a calendar date -/
  | date (v : Date)
  deriving DecidableEq, Repr

instance : Inhabited Value := ⟨.null⟩

namespace Value

/-- Whether the value is absent. -/
def isNull : Value → Bool
  | .null => true
  | _ => false

/-- The name of a value's type in messages. -/
def typeName : Value → String
  | .null => "null"
  | .integer _ => "integer"
  | .long _ => "long"
  | .double _ => "double"
  | .boolean _ => "boolean"
  | .string _ => "string"
  | .blob _ => "blob"
  | .date _ => "date"

/-- How a message shows a value. A text stands between quotes as it is, a byte string shows its
length. -/
def text : Value → String
  | .null => "NULL"
  | .integer v => toString v.toInt
  | .long v => toString v.toInt
  | .double v => v.text
  | .boolean v => if v then "true" else "false"
  | .string v => "'" ++ v ++ "'"
  | .blob v => "<" ++ toString v.length ++ " bytes>"
  | .date v => v.text

/-- The integer a value of an integer type holds. -/
def integral? : Value → Option Int
  | .integer v => some v.toInt
  | .long v => some v.toInt
  | _ => none

/-- A numeric value as a double; a long may be rounded. -/
def numeric? : Value → Option Double
  | .integer v => some (.ofInt v.toInt)
  | .long v => some (.ofInt v.toInt)
  | .double v => some v
  | _ => none

/-- Equality of cells: same type and same value, doubles compared as numbers. -/
def same : Value → Value → Bool
  | .double a, .double b => a.same b
  | a, b => a == b

@[simp] theorem isNull_eq_true_iff {v : Value} : v.isNull = true ↔ v = .null := by
  cases v <;> simp [isNull]

/-- Only a NaN differs from itself. -/
theorem same_self {v : Value} (h : ∀ d, v = .double d → d.isNaN = false) : v.same v = true := by
  cases v with
  | double d =>
    have hd := h d rfl
    simp [same, Double.same, Double.compare?, hd, compare, compareOfLessAndEq]
  | _ => simp [same]

end Value

/-- The 32-bit integer of that value, if there is one. -/
def narrow? (i : Int) : Option Int32 :=
  if -2147483648 ≤ i ∧ i ≤ 2147483647 then some (Int32.ofInt i) else none

/-- Narrowing keeps the number. -/
theorem toInt_of_narrow? {i : Int} {v : Int32} (h : narrow? i = some v) : v.toInt = i := by
  unfold narrow? at h
  split at h
  · rename_i hb
    have hv := Option.some.inj h
    subst hv
    exact Int32.toInt_ofInt_of_le hb.1 (Int.lt_of_le_of_lt hb.2 (by decide))
  · simp at h

/-- Every 32-bit integer survives narrowing. -/
@[simp] theorem narrow?_toInt (v : Int32) : narrow? v.toInt = some v := by
  have hlo := Int32.le_toInt v
  have hhi := Int32.toInt_lt v
  unfold narrow?
  rw [if_pos (by omega), Int32.ofInt_toInt]

namespace Kind

/-- Whether a field of this kind takes the value without conversion. Every kind takes `null`, and a
long field takes 32-bit integers too. -/
def accepts : Kind → Value → Bool
  | _, .null => true
  | .integer, .integer _ => true
  | .long, .long _ => true
  | .long, .integer _ => true
  | .double, .double _ => true
  | .boolean, .boolean _ => true
  | .string, .string _ => true
  | .blob, .blob _ => true
  | _, _ => false

/-- The values of a kind. -/
def Native : Kind → Type
  | .integer => Int32
  | .long => Int64
  | .double => Double
  | .boolean => Bool
  | .string => String
  | .blob => List UInt8

/-- A native value as a value. -/
def Native.value : {k : Kind} → k.Native → Value
  | .integer, v => .integer v
  | .long, v => .long v
  | .double, v => .double v
  | .boolean, v => .boolean v
  | .string, v => .string v
  | .blob, v => .blob v

/-- The native value of kind `k` that a value holds. -/
def Native.ofValue? : (k : Kind) → Value → Option k.Native
  | .integer, .integer v => some v
  | .long, .long v => some v
  | .double, .double v => some v
  | .boolean, .boolean v => some v
  | .string, .string v => some v
  | .blob, .blob v => some v
  | _, _ => none

@[simp] theorem Native.ofValue?_value {k : Kind} (v : k.Native) :
    Native.ofValue? k v.value = some v := by
  cases k <;> rfl

/-- A native value is accepted by its kind. -/
theorem accepts_native {k : Kind} (v : k.Native) : k.accepts v.value = true := by
  cases k <;> rfl

/-- A native value is never absent. -/
theorem isNull_native {k : Kind} (v : k.Native) : v.value.isNull = false := by
  cases k <;> rfl

end Kind

end EntityQuery
