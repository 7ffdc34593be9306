import EntityQuery.Number.Double

/-!
# The shortest decimal text of a double

Of all decimals that read back as a given double, the one with the fewest digits, and of those the
nearest, is its text; which one of two equally near decimals it is, is up to the format (`Tie`). A double with magnitude `m` units is read back from exactly the reals between
the midpoints to its neighbours; the midpoints themselves read back when the significand is even.

* `readBack` is that interval, in quarter units, so that its ends are whole;
* `shortestDecimal` tries 1, 2, … digits and takes the first grid with a point in the interval;
* `text` writes the decimal without exponent.
-/

namespace EntityQuery.Double

/-- The reals that round to a double, in quarters of a unit. -/
structure Interval where
  /-- the lower end -/
  low : Nat
  /-- the upper end -/
  high : Nat
  /-- whether the ends belong to it -/
  closed : Bool

/-- Whether `x / scale` lies in the interval. -/
def Interval.contains (i : Interval) (scale x : Nat) : Bool :=
  if i.closed then i.low * scale ≤ x && x ≤ i.high * scale
  else i.low * scale < x && x < i.high * scale

/-- The reals that round to `d`'s magnitude. Below a power of two the neighbour is half as far. -/
def readBack (d : Double) : Interval where
  low := 4 * d.magnitude -
    (if d.fraction = 0 ∧ 1 < d.exponent then d.spacing else 2 * d.spacing)
  high := 4 * d.magnitude + 2 * d.spacing
  closed := d.significand % 2 == 0

/-- Every positive double is at least 10^-324, so 400 places show its first digits. -/
def places : Nat := 400

/-- Which of two neighbouring decimals is taken if both are equally near. -/
inductive Tie where
  /-- the greater one -/
  | up
  /-- the one whose last digit is even -/
  | even
  deriving DecidableEq, Repr

/-- Whether a tie is broken in favour of the decimal below, whose digits are given. -/
def Tie.takesBelow (below : Nat) : Tie → Bool
  | .up => false
  | .even => below % 2 == 0

/-- The fewest digits that read back as a positive finite double, as `digits · 10^(exponent - places)`. -/
def shortestDecimal (tie : Tie) (d : Double) : Nat × Nat :=
  let scale := Nat.pow 10 places
  let quarters := 4 * unitsPerOne
  let exact := 4 * d.magnitude * scale
  -- places before the last of the 400
  let length := (Nat.toDigits 10 (exact / quarters)).length
  let pick (n : Nat) : Option (Nat × Nat) :=
    let grid := Nat.pow 10 (length - n) * quarters
    let below := exact / grid
    let above := below + 1
    let belowFits := d.readBack.contains scale (below * grid)
    let aboveFits := d.readBack.contains scale (above * grid)
    let belowNearer := match compare (2 * (exact % grid)) grid with
      | .lt => true
      | .eq => tie.takesBelow below
      | .gt => false
    if belowFits && (!aboveFits || belowNearer) then some (below, length - n)
    else if aboveFits then some (above, length - n)
    else none
  ((List.range' 1 17).findSome? pick).getD (exact / quarters, 0)

/-- Decimal digits `digits · 10^(exponent - places)` without exponent and without needless zeros. -/
def positional (digits exponent : Nat) : String :=
  let ds := Nat.toDigits 10 digits
  if places ≤ exponent then String.ofList (ds ++ List.replicate (exponent - places) '0')
  else
    let after := places - exponent
    let padded := List.replicate (after + 1 - ds.length) '0' ++ ds
    let whole := padded.take (padded.length - after)
    let part := ((padded.drop (padded.length - after)).reverse.dropWhile (· == '0')).reverse
    String.ofList (if part.isEmpty then whole else whole ++ '.' :: part)

/-- The text of a double: the shortest decimal that reads back, the greater one of two equally near,
never with an exponent; `inf` and `NaN` for what is not finite. The sign of zero shows, that of a NaN
does not. -/
def text (d : Double) : String :=
  if d.isNaN then "NaN"
  else
    let shown :=
      if !d.isFinite then "inf"
      else if d.magnitude = 0 then "0"
      else positional (d.shortestDecimal .up).1 (d.shortestDecimal .up).2
    if d.isNegative then "-" ++ shown else shown

end EntityQuery.Double
