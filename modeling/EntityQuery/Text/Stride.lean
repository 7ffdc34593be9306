/-!
# Strides of code points

A set of characters is kept as a list of strides: arithmetic runs of code points with step 1 (a
plain range) or 2 (letters whose cases alternate).

* `Stride.contains` says which characters a run holds;
* `inStrides` says whether some run of a list holds a character.
-/

namespace EntityQuery.Text

/-- The code points `first`, `first + step`, …, up to `last`. -/
structure Stride where
  /-- the least code point -/
  first : Nat
  /-- the greatest code point -/
  last : Nat
  /-- the distance of neighbours -/
  step : Nat
  deriving DecidableEq, Repr

/-- Whether the run holds `c`. -/
def Stride.contains (s : Stride) (c : Char) : Bool :=
  s.first ≤ c.toNat && c.toNat ≤ s.last && (c.toNat - s.first) % s.step == 0

/-- Whether one of the runs holds `c`. -/
def inStrides (strides : List Stride) (c : Char) : Bool :=
  strides.any (·.contains c)

/-- A character is in a list of runs exactly when it is in one of them. -/
theorem inStrides_eq_true_iff {strides : List Stride} {c : Char} :
    inStrides strides c = true ↔ ∃ s ∈ strides, s.contains c = true := by
  simp [inStrides]

end EntityQuery.Text
