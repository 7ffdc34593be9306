/-!
# Rounding quotients

`roundQuotient n d` is the whole number nearest to `n / d`; of two that are equally near it is the
even one. The two laws say that it is never more than half a unit away and that a tie goes to the
even neighbour.
-/

namespace EntityQuery.Number

/-- The whole number nearest to `n / d`, the even one of two. -/
def roundQuotient (n d : Nat) : Nat :=
  let q := n / d
  let r := n % d
  if 2 * r < d then q else if d < 2 * r then q + 1 else q + q % 2

/-- Rounding moves a quotient by at most half a unit. -/
theorem roundQuotient_within_half (n d : Nat) (hd : 0 < d) :
    2 * n ≤ (2 * roundQuotient n d + 1) * d ∧ 2 * roundQuotient n d * d ≤ 2 * n + d := by
  have hdiv : d * (n / d) + n % d = n := Nat.div_add_mod n d
  have hlt : n % d < d := Nat.mod_lt n hd
  unfold roundQuotient
  generalize n / d = q at *
  generalize n % d = r at *
  subst hdiv
  have key : d * q = q * d := Nat.mul_comm d q
  simp only
  split
  · constructor <;> simp only [Nat.add_mul, Nat.mul_assoc] <;> omega
  · split
    · constructor <;> simp only [Nat.add_mul, Nat.mul_add, Nat.mul_assoc] <;> omega
    · rcases Nat.mod_two_eq_zero_or_one q with h | h <;> rw [h] <;>
        constructor <;> simp only [Nat.add_mul, Nat.mul_add, Nat.mul_assoc] <;> omega

/-- A tie goes to the even neighbour. -/
theorem roundQuotient_tie_even (n d : Nat) (h : 2 * (n % d) = d) :
    roundQuotient n d % 2 = 0 := by
  unfold roundQuotient
  simp only [h, Nat.lt_irrefl, if_false]
  omega

/-- A whole quotient is not moved. -/
theorem roundQuotient_mul (q d : Nat) (hd : 0 < d) : roundQuotient (q * d) d = q := by
  simp [roundQuotient, Nat.mul_div_cancel q hd, hd]

end EntityQuery.Number
