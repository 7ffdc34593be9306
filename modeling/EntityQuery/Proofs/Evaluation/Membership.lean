import EntityQuery.Proofs.Evaluation.Meaning

/-!
# Membership as a disjunction

`x IN (a, b, c)` abbreviates `x = a OR x = b OR x = c`. The two are not evaluated alike: a membership
test computes `x` once, gives up on the items if `x` is absent, and stops at the first item that is
`x`. A disjunction computes both sides of every `OR`, and `x` once more for each of them.

* `Expr.equalsOneOf` is the disjunction, nested to the left as it is read;
* `Frame.evaluate_inList_of_equalsOneOf` shows that where the disjunction has a value, the membership
  test has it too, and the negated test has the negated value.

The other direction fails: past the first hit, an item of the list may have no value at all.
-/

namespace EntityQuery

open Sql

namespace Sql.Expr

/-- The disjunction of `e` and the equalities of `x` with the items, nested to the left. -/
def orEquals (x : Expr) : Expr → List Expr → Expr
  | e, [] => e
  | e, item :: items => orEquals x (.or e (.compare .equal x item)) items

/-- The disjunction of the equalities of `x` with the items, nested to the left. -/
def equalsOneOf (x item : Expr) (items : List Expr) : Expr :=
  x.orEquals (.compare .equal x item) items

end Sql.Expr

/-! ## Truth values of the parts -/

/-- A comparison that has a value has a truth value. -/
theorem truth_of_compareValues {op : Comparison} {a b v : Value} (h : compareValues op a b = .ok v) :
    ∃ t : Truth, v = t.value := by
  unfold compareValues at h
  split at h
  · exact ⟨.unknown, (Except.ok.inj h).symm⟩
  · split at h
    · next o _ => exact ⟨.ofBool (op.accepts o), by rw [Truth.value_ofBool, ← Except.ok.inj h]⟩
    · cases h

/-- A comparison with an absent value is unknown. -/
theorem compareValues_of_isNull {op : Comparison} {a b v : Value} (ha : a.isNull = true)
    (h : compareValues op a b = .ok v) : v = .null := by
  rw [compareValues, ha, Bool.true_or, if_pos rfl] at h
  exact (Except.ok.inj h).symm

/-- Negation of a truth value is what `NOT IN` does to it. -/
theorem notValue_value (t : Truth) : notValue t.value = .ok (negateIf true t.value) := by
  cases t <;> rfl

theorem negateIf_false (v : Value) : negateIf false v = v := by
  cases v with
  | boolean b => cases b <;> rfl
  | _ => rfl

namespace Frame

variable {f : Frame} {x e : Expr} {v : Value}

theorem evaluate_compare_eq_ok {op : Comparison} {a b : Expr}
    (h : f.evaluate (.compare op a b) = .ok v) :
    ∃ left right, f.evaluate a = .ok left ∧ f.evaluate b = .ok right ∧
      compareValues op left right = .ok v := by
  rw [evaluate] at h
  obtain ⟨left, hleft, h⟩ := ok_of_bind h
  obtain ⟨right, hright, h⟩ := ok_of_bind h
  exact ⟨left, right, hleft, hright, h⟩

theorem evaluate_or_eq_ok {a b : Expr} (h : f.evaluate (.or a b) = .ok v) :
    ∃ left right, f.evaluate a = .ok left ∧ f.evaluate b = .ok right ∧
      orValues left right = .ok v := by
  rw [evaluate] at h
  obtain ⟨left, hleft, h⟩ := ok_of_bind h
  obtain ⟨right, hright, h⟩ := ok_of_bind h
  exact ⟨left, right, hleft, hright, h⟩

/-! ## The disjunction -/

/-- A disjunction with a value has a value in front. -/
theorem ok_of_orEquals {items : List Expr} (h : f.evaluate (x.orEquals e items) = .ok v) :
    ∃ w, f.evaluate e = .ok w := by
  induction items generalizing e with
  | nil => exact ⟨v, h⟩
  | cons item items ih =>
    obtain ⟨w, hw⟩ := ih h
    obtain ⟨left, -, hleft, -, -⟩ := evaluate_or_eq_ok hw
    exact ⟨left, hleft⟩

/-- One more equality in front of the others: what is computed for it, and the truth value that the
disjunction has up to there. -/
theorem front_of_orEquals {item : Expr} {items : List Expr} {t : Truth}
    (he : f.evaluate e = .ok t.value) (h : f.evaluate (x.orEquals e (item :: items)) = .ok v) :
    ∃ (left right : Value) (u : Truth), f.evaluate x = .ok left ∧ f.evaluate item = .ok right ∧
      compareValues .equal left right = .ok u.value ∧
      f.evaluate (.or e (.compare .equal x item)) = .ok (t.or u).value := by
  obtain ⟨w, hw⟩ := ok_of_orEquals (e := .or e (.compare .equal x item)) h
  obtain ⟨before, equal, hbefore, hequal, hor⟩ := evaluate_or_eq_ok hw
  obtain rfl : t.value = before := Except.ok.inj (he.symm.trans hbefore)
  obtain ⟨left, right, hleft, hright, hcompare⟩ := evaluate_compare_eq_ok hequal
  obtain ⟨u, rfl⟩ := truth_of_compareValues hcompare
  rw [Truth.orValues_value] at hor
  exact ⟨left, right, u, hleft, hright, hcompare, hw.trans hor.symm⟩

/-- A disjunction that is true in front is true: the items after a hit do not matter. -/
theorem orEquals_of_hit {items : List Expr} (he : f.evaluate e = .ok (.boolean true))
    (h : f.evaluate (x.orEquals e items) = .ok v) : v = .boolean true := by
  induction items generalizing e with
  | nil => exact Except.ok.inj (h.symm.trans he)
  | cons item items ih =>
    obtain ⟨-, -, u, -, -, -, hor⟩ := front_of_orEquals (t := .yes) he h
    refine ih ?_ h
    rw [hor]
    cases u <;> rfl

/-- A disjunction of equalities with an absent value is unknown. -/
theorem orEquals_of_isNull {items : List Expr} {left : Value} (hx : f.evaluate x = .ok left)
    (hnull : left.isNull = true) (he : f.evaluate e = .ok .null)
    (h : f.evaluate (x.orEquals e items) = .ok v) : v = .null := by
  induction items generalizing e with
  | nil => exact Except.ok.inj (h.symm.trans he)
  | cons item items ih =>
    obtain ⟨left', right, u, hleft, -, hcompare, hor⟩ := front_of_orEquals (t := .unknown) he h
    obtain rfl : left = left' := Except.ok.inj (hx.symm.trans hleft)
    refine ih ?_ h
    rw [hor]
    cases u with
    | unknown => rfl
    | yes => cases compareValues_of_isNull hnull hcompare
    | no => rfl

/-- One step of the loop over the items, which is over at the first hit. -/
theorem isAmong_step {item : Expr} {items : List Expr} {left right : Value} {t u : Truth}
    (hright : f.evaluate item = .ok right) (hcompare : compareValues .equal left right = .ok u.value) :
    f.isAmong left t.value (item :: items) =
      if (t.or u).value = .boolean true then .ok (t.or u).value
      else f.isAmong left (t.or u).value items := by
  rw [isAmong, hright, except_bind_of_ok rfl, hcompare, except_bind_of_ok rfl, Truth.orValues_value,
    except_bind_of_ok rfl]
  rfl

/-- The loop over the items is at the truth value that the disjunction has up to there, so it ends
where the disjunction does. -/
theorem isAmong_of_orEquals {items : List Expr} {left : Value} {t : Truth}
    (hx : f.evaluate x = .ok left) (he : f.evaluate e = .ok t.value)
    (h : f.evaluate (x.orEquals e items) = .ok v) : f.isAmong left t.value items = .ok v := by
  induction items generalizing e t with
  | nil =>
    rw [isAmong, ← he]
    exact h
  | cons item items ih =>
    obtain ⟨left', right, u, hleft, hright, hcompare, hor⟩ := front_of_orEquals he h
    obtain rfl : left = left' := Except.ok.inj (hx.symm.trans hleft)
    rw [isAmong_step hright hcompare]
    split
    · next hhit =>
      rw [hhit] at hor ⊢
      rw [orEquals_of_hit hor h]
    · exact ih hor h

/-- A disjunction of equalities has a truth value, if it has a value. -/
theorem truth_of_orEquals {items : List Expr} {t : Truth} (he : f.evaluate e = .ok t.value)
    (h : f.evaluate (x.orEquals e items) = .ok v) : ∃ u : Truth, v = u.value := by
  induction items generalizing e t with
  | nil => exact ⟨t, Except.ok.inj (h.symm.trans he)⟩
  | cons item items ih =>
    obtain ⟨-, -, u, -, -, -, hor⟩ := front_of_orEquals he h
    exact ih hor h

/-! ## Membership -/

/-- What a membership test computes, if the disjunction has a value: before any negation, the value
of the disjunction. -/
theorem evaluate_inList_eq {negated : Bool} {item : Expr} {items : List Expr}
    (h : f.evaluate (x.equalsOneOf item items) = .ok v) :
    f.evaluate (.inList negated x (item :: items)) = .ok (negateIf negated v) := by
  obtain ⟨first, hfirst⟩ := ok_of_orEquals h
  obtain ⟨left, right, hleft, hright, hcompare⟩ := evaluate_compare_eq_ok hfirst
  obtain ⟨t, rfl⟩ := truth_of_compareValues hcompare
  rw [evaluate, hleft, except_bind_of_ok rfl]
  by_cases hnull : left.isNull = true
  · have habsent := compareValues_of_isNull hnull hcompare
    rw [habsent] at hfirst
    rw [if_pos hnull, orEquals_of_isNull hleft hnull hfirst h]
    rfl
  · -- the loop starts at `false`, from which the first item takes it to the first equality
    have hloop : f.isAmong left (.boolean false) (item :: items) = .ok v := by
      have hfront : Truth.no.or t = t := by cases t <;> rfl
      have hstep : f.isAmong left Truth.no.value (item :: items) =
          if (Truth.no.or t).value = .boolean true then .ok (Truth.no.or t).value
          else f.isAmong left (Truth.no.or t).value items := isAmong_step hright hcompare
      rw [hfront] at hstep
      refine hstep.trans ?_
      split
      · next hhit =>
        rw [hhit] at hfirst ⊢
        rw [orEquals_of_hit hfirst h]
      · exact isAmong_of_orEquals hleft hfirst h
    rw [if_neg hnull, hloop]
    rfl

/-- Membership is the disjunction of equalities: where that has a value, it is a truth value, the
test for membership has the same, and the test for the contrary has its negation. -/
theorem evaluate_inList_of_equalsOneOf {item : Expr} {items : List Expr}
    (h : f.evaluate (x.equalsOneOf item items) = .ok v) :
    (v = .null ∨ ∃ b, v = .boolean b) ∧
      f.evaluate (.inList false x (item :: items)) = .ok v ∧
      ∃ w, f.evaluate (.not (x.equalsOneOf item items)) = .ok w ∧
        f.evaluate (.inList true x (item :: items)) = .ok w := by
  obtain ⟨first, hfirst⟩ := ok_of_orEquals h
  obtain ⟨_, _, _, _, hcompare⟩ := evaluate_compare_eq_ok hfirst
  obtain ⟨t, rfl⟩ := truth_of_compareValues hcompare
  obtain ⟨u, rfl⟩ := truth_of_orEquals hfirst h
  refine ⟨?_, ?_, negateIf true u.value, ?_, evaluate_inList_eq h⟩
  · cases u with
    | yes => exact .inr ⟨true, rfl⟩
    | no => exact .inr ⟨false, rfl⟩
    | unknown => exact .inl rfl
  · rw [evaluate_inList_eq h, negateIf_false]
  · rw [evaluate, h, except_bind_of_ok rfl, notValue_value]

/-- Neither `NULL` nor 2 is known to be 1, nor known not to be. -/
theorem evaluate_inList_of_null_item :
    (Frame.mk .empty [] []).evaluate
        ((Expr.literal (.integer 1)).equalsOneOf (.literal .null) [.literal (.integer 2)]) =
      .ok .null ∧
    (Frame.mk .empty [] []).evaluate
        (.inList false (.literal (.integer 1)) [.literal .null, .literal (.integer 2)]) =
      .ok .null :=
  have h : (Frame.mk .empty [] []).evaluate
      ((Expr.literal (.integer 1)).equalsOneOf (.literal .null) [.literal (.integer 2)]) =
      .ok .null := rfl
  ⟨h, (evaluate_inList_of_equalsOneOf h).2.1⟩

/-- A value that does not compare goes unnoticed behind a hit, but not in the disjunction. -/
example :
    (Frame.mk .empty [] []).evaluate
        (.inList false (.literal (.integer 1)) [.literal (.integer 1), .literal (.string "1")]) =
      .ok (.boolean true) ∧
    (Frame.mk .empty [] []).evaluate
        ((Expr.literal (.integer 1)).equalsOneOf (.literal (.integer 1)) [.literal (.string "1")]) =
      .error (.incomparable "integer" "string") :=
  ⟨rfl, rfl⟩

end Frame

end EntityQuery
