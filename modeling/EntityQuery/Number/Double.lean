import EntityQuery.Number.Rounding

/-!
# Double-precision numbers

`Double` is an IEEE 754 binary64 word. Every finite double is a whole multiple of the least positive
one, 2^-1074, so its value is one integer, its `units`. Comparison, conversion from and to integers
and reading a quotient are exact integer arithmetic on units:

* `units` maps the infinities to ±2^2098, one step past the largest finite double, which is where
  they stand in the order;
* `compare?` orders two doubles by their units, and leaves a NaN unordered;
* `ofRatio` rounds a quotient to the nearest double, the even one of two;
* `whole?` is the integer that a finite double without fraction stands for.
-/

namespace EntityQuery

/-- An IEEE 754 binary64 word. -/
structure Double where
  /-- the word -/
  bits : UInt64
  deriving DecidableEq, Repr

namespace Double

/-- The number of different fractions. -/
def fractionSpan : Nat := 0x10000000000000

/-- The sign bit. -/
def isNegative (d : Double) : Bool := 0x8000000000000000 ≤ d.bits.toNat

/-- The biased exponent, 2047 for infinities and NaNs. -/
def exponent (d : Double) : Nat := d.bits.toNat / fractionSpan % 2048

/-- The 52 bits after the leading bit. -/
def fraction (d : Double) : Nat := d.bits.toNat % fractionSpan

/-- Whether the word is not a number. -/
def isNaN (d : Double) : Bool := d.exponent == 2047 && d.fraction != 0

/-- Whether the word is a number and not an infinity. -/
def isFinite (d : Double) : Bool := d.exponent != 2047

/-- The significand as a whole number; the leading bit is missing in the least exponent. -/
def significand (d : Double) : Nat :=
  if d.exponent = 0 then d.fraction else fractionSpan + d.fraction

/-- The distance of neighbouring doubles around `d`, in units. -/
def spacing (d : Double) : Nat := Nat.pow 2 (d.exponent - 1)

/-- The absolute value, in units of 2^-1074. -/
def magnitude (d : Double) : Nat := d.significand * d.spacing

/-- The value, in units of 2^-1074. -/
def units (d : Double) : Int :=
  if d.isNegative then -(d.magnitude : Int) else d.magnitude

/-- The units in one. -/
def unitsPerOne : Nat := Nat.pow 2 1074

/-- The order of two doubles; a NaN has none. The two zeros are equal. -/
def compare? (a b : Double) : Option Ordering :=
  if a.isNaN || b.isNaN then none else some (compare a.units b.units)

/-- Numeric equality: no NaN equals anything, the two zeros are equal. -/
def same (a b : Double) : Bool := a.compare? b == some .eq

/-- Whether the value is zero, of either sign. -/
def isZero (d : Double) : Bool := !d.isNaN && d.magnitude == 0

/-- The word of a sign and a magnitude word; magnitudes past the largest finite one are infinite. -/
def ofMagnitudeWord (negative : Bool) (word : Nat) : Double :=
  let word := min word (2047 * fractionSpan)
  ⟨UInt64.ofNat (if negative then 0x8000000000000000 + word else word)⟩

/-- The double nearest to `num / den`, the even one of two, with the given sign. -/
def ofRatio (negative : Bool) (num den : Nat) : Double :=
  let scaled := num * unitsPerOne
  -- bits that do not fit into a significand of 53
  let dropped := (scaled / den).log2 + 1 - 53
  ofMagnitudeWord negative (dropped * fractionSpan +
    Number.roundQuotient scaled (den * Nat.pow 2 dropped))

/-- The double nearest to an integer. -/
def ofInt (i : Int) : Double := ofRatio (i < 0) i.natAbs 1

/-- The integer a finite double without fraction stands for. -/
def whole? (d : Double) : Option Int :=
  if d.isFinite && d.units % unitsPerOne == 0 then some (d.units / unitsPerOne) else none

/-- Positive zero. -/
def zero : Double := ⟨0⟩

instance : Inhabited Double := ⟨zero⟩

/-- A NaN is unordered. -/
theorem compare?_eq_none_iff {a b : Double} :
    a.compare? b = none ↔ a.isNaN = true ∨ b.isNaN = true := by
  unfold compare?
  split <;> simp_all

/-- Swapping the sides reverses the order. -/
theorem compare?_swap (a b : Double) : (a.compare? b).map Ordering.swap = b.compare? a := by
  unfold compare?
  rw [Bool.or_comm]
  split
  · rfl
  · simp [Int.compare_swap]

/-- A whole double has as many units as its integer. -/
theorem units_of_whole? {d : Double} {i : Int} (h : d.whole? = some i) :
    d.units = i * unitsPerOne := by
  unfold whole? at h
  split at h
  · rename_i hc
    simp only [Bool.and_eq_true, beq_iff_eq] at hc
    have hi : d.units / (unitsPerOne : Int) = i := Option.some.inj h
    rw [← hi, Int.ediv_mul_cancel (Int.dvd_of_emod_eq_zero hc.2)]
  · simp at h

end Double

end EntityQuery
