import EntityQuery.Value.Basic

/-!
# Numerals

The value of a numeral of SQL text, which is digits and perhaps a point with digits after it. A whole
numeral is an integer if that is wide enough, else a long, else the nearest double; a numeral with a
point is the nearest double.
-/

namespace EntityQuery.Sql

/-- The number that decimal digits denote. -/
def digitsValue (digits : List Char) : Nat :=
  digits.foldl (fun n c => 10 * n + (c.toNat - '0'.toNat)) 0

/-- The value of a whole numeral with its sign. -/
def wholeValue (negative : Bool) (n : Nat) : Value :=
  let i : Int := if negative then -n else n
  match narrow? i with
  | some v => .integer v
  | none =>
    if -9223372036854775808 ≤ i ∧ i ≤ 9223372036854775807 then .long (Int64.ofInt i) else .double (.ofRatio negative n 1)

/-- The value of a numeral with its sign. -/
def numeralValue (negative : Bool) (text : String) : Value :=
  match text.toList.span (· != '.') with
  | (whole, []) => wholeValue negative (digitsValue whole)
  | (whole, _ :: part) =>
    .double (.ofRatio negative (digitsValue (whole ++ part)) (Nat.pow 10 part.length))

/-- Why a numeral is no row count. -/
inductive CountError where
  /-- it has a point -/
  | notDigits
  /-- it does not fit into 64 bits -/
  | tooLarge
  deriving DecidableEq, Repr

/-- The row count of an unsigned numeral, which must be whole and fit into 64 bits. -/
def countValue (text : String) : Except CountError Nat :=
  let (whole, rest) := text.toList.span (· != '.')
  if UInt64.size ≤ digitsValue whole then .error .tooLarge
  else if rest.isEmpty then .ok (digitsValue whole)
  else .error .notDigits

/-- The text of a count error. -/
def CountError.message : CountError → String
  | .notDigits => "invalid digit found in string"
  | .tooLarge => "number too large to fit in target type"

end EntityQuery.Sql
