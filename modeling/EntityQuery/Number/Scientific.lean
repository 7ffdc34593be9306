import EntityQuery.Number.Shortest

/-!
# Products, quotients and scientific text

`product` and `quotient` are the doubles nearest to the exact product and quotient of two finite
doubles. `scientificText` writes the shortest decimal that reads back with a point in it, and with an
exponent where a positional text would be long: below 10^-5 and from 10^16 on. The exponent shows its
sign, and of two equally near decimals the even one is taken.
-/

namespace EntityQuery.Double

/-- The double nearest to the product of two finite doubles. -/
def product (a b : Double) : Double :=
  ofRatio (a.isNegative != b.isNegative) (a.magnitude * b.magnitude) (unitsPerOne * unitsPerOne)

/-- The double nearest to the quotient of two finite doubles. -/
def quotient (a b : Double) : Double :=
  ofRatio (a.isNegative != b.isNegative) a.magnitude b.magnitude

/-- The double nearest to 10^k. -/
def tenTo (k : Nat) : Double := ofRatio false (Nat.pow 10 k) 1

/-- The digits of the shortest decimal of a positive finite double without the zeros at their end,
and how many of them stand before the point; less than none if zeros follow the point. -/
def significantDigits (d : Double) : List Char × Int :=
  let (digits, exponent) := d.shortestDecimal .even
  let ds := Nat.toDigits 10 digits
  ((ds.reverse.dropWhile (· == '0')).reverse, (ds.length : Int) + (exponent : Int) - (places : Int))

/-- Digits with the point behind the first `point` of them. -/
def pointed (digits : List Char) (point : Int) : String :=
  if 0 < point ∧ point ≤ 16 then
    let padded := digits ++ List.replicate (point.toNat + 1 - digits.length) '0'
    String.ofList (padded.take point.toNat ++ '.' :: padded.drop point.toNat)
  else if -5 < point ∧ point ≤ 0 then
    String.ofList ('0' :: '.' :: (List.replicate (-point).toNat '0' ++ digits))
  else
    String.ofList (digits.take 1 ++ (if digits.length ≤ 1 then [] else '.' :: digits.drop 1))
      ++ (if 0 < point then "e+" else "e") ++ toString (point - 1)

/-- The text of a finite double, with a point or an exponent in it. -/
def scientificText (d : Double) : String :=
  let shown :=
    if d.magnitude = 0 then "0.0" else pointed d.significantDigits.1 d.significantDigits.2
  if d.isNegative then "-" ++ shown else shown

/-- A zero follows the point if no digit does. -/
theorem pointed_length (digits : List Char) (hpos : digits ≠ []) (hle : digits.length ≤ 16) :
    pointed digits digits.length = String.ofList (digits ++ ['.', '0']) := by
  have hlen := List.length_pos_iff.2 hpos
  have hcond : 0 < (digits.length : Int) ∧ (digits.length : Int) ≤ 16 := by omega
  unfold pointed
  rw [if_pos hcond]
  simp

end EntityQuery.Double
