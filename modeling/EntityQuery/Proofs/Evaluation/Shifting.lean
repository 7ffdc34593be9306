import EntityQuery.Proofs.Evaluation.Meaning

/-!
# Conditions whose parameters are shifted

In an update the parameters of the condition stand behind those of the assignments, and in a query or a
delete they come first. The expression of a constraint has the same value in both places
(`Frame.evaluate_shift`), be it a value or an error: it looks at nothing but the row and its own
parameters.
-/

namespace EntityQuery

open Sql

namespace Frame

variable {naming : Naming} {scope : Scope} {row : Row} {ps qs : List Value} {a b : Nat}

/-- The parameters from `a` on in one frame are those from `b` on in the other. -/
def Shifted (ps qs : List Value) (a b count : Nat) : Prop :=
  ∀ i < count, ∀ (scope : Scope) (row : Row),
    (⟨scope, ps, row⟩ : Frame).parameter (a + i) = (⟨scope, qs, row⟩ : Frame).parameter (b + i)

theorem Shifted.left {m n : Nat} (h : Shifted ps qs a b (m + n)) : Shifted ps qs a b m :=
  fun i hi => h i (by omega)

theorem Shifted.right {m n : Nat} (h : Shifted ps qs a b (m + n)) :
    Shifted ps qs (a + m) (b + m) n := by
  intro i hi
  rw [Nat.add_assoc, Nat.add_assoc]
  exact h (m + i) (by omega)

/-- Parameters that stand behind others are shifted by their number. -/
theorem shifted_append (before vs : List Value) :
    Shifted vs (before ++ vs) 1 (before.length + 1) vs.length := by
  intro i hi scope row
  have hfirst : vs[i]? = some vs[i] := List.getElem?_eq_getElem hi
  have hbehind : (before ++ vs)[before.length + i]? = some vs[i] := by
    rw [List.getElem?_append_right (Nat.le_add_right _ _), Nat.add_sub_cancel_left, hfirst]
  rw [Nat.add_comm 1, Nat.add_right_comm]
  simp only [parameter, hfirst, hbehind]

theorem evaluate_operand_shift {o : Operand} (h : Shifted ps qs a b o.isParameter.toNat) :
    (⟨scope, ps, row⟩ : Frame).evaluate (o.image naming a) =
      (⟨scope, qs, row⟩ : Frame).evaluate (o.image naming b) := by
  cases o with
  | field f => rfl
  | value f v | accessor f s => exact h 0 Nat.one_pos scope row

theorem isAmong_shift {count : Nat} (h : Shifted ps qs a b count) (v sofar : Value) :
    (⟨scope, ps, row⟩ : Frame).isAmong v sofar ((List.range' a count).map .parameter) =
      (⟨scope, qs, row⟩ : Frame).isAmong v sofar ((List.range' b count).map .parameter) := by
  induction count generalizing a b sofar with
  | zero => rfl
  | succ count ih =>
    rw [Nat.add_comm] at h
    have hfirst := h.left 0 Nat.one_pos scope row
    have hrest := ih h.right
    rw [List.range'_succ, List.range'_succ, List.map_cons, List.map_cons, isAmong, isAmong, evaluate,
      evaluate, show (⟨scope, ps, row⟩ : Frame).parameter a = _ from hfirst]
    simp only [hrest, Nat.add_zero]

/-- The expression of a constraint has the same value wherever its parameters stand. -/
theorem evaluate_shift {c : Constraint} (h : Shifted ps qs a b c.parameterCount) :
    (⟨scope, ps, row⟩ : Frame).evaluate (c.image naming a) =
      (⟨scope, qs, row⟩ : Frame).evaluate (c.image naming b) := by
  induction c generalizing a b with
  | compare op left right =>
    rw [Constraint.image, Constraint.image, evaluate, evaluate, evaluate_operand_shift h.left,
      evaluate_operand_shift h.right]
  | and left right ihl ihr | or left right ihl ihr =>
    rw [Constraint.image, Constraint.image, evaluate, evaluate, ihl h.left, ihr h.right]
  | inList negated f values =>
    cases values with
    | nil => rfl
    | cons v vs =>
      have hcolumn : (⟨scope, ps, row⟩ : Frame).evaluate (naming.image f) =
          (⟨scope, qs, row⟩ : Frame).evaluate (naming.image f) := rfl
      have hitems : Shifted ps qs a b (v :: vs).length := h
      rw [Constraint.image, Constraint.image, evaluate, evaluate, hcolumn]
      simp only [isAmong_shift hitems]
  | isNull negated f => rfl
  | contains negated f text =>
    have hcolumn : (⟨scope, ps, row⟩ : Frame).evaluate (naming.image f) =
        (⟨scope, qs, row⟩ : Frame).evaluate (naming.image f) := rfl
    have hpattern : (⟨scope, ps, row⟩ : Frame).parameter a =
        (⟨scope, qs, row⟩ : Frame).parameter b := h 0 Nat.one_pos scope row
    simp only [Constraint.image, evaluate, hpattern]
    rw [hcolumn]

/-- So a row satisfies a condition in both places, or in neither. -/
theorem satisfiesAll_shift {condition : Option Constraint} {vs : List Value}
    (hcount : vs.length = conditionCount condition) (before : List Value) :
    (⟨scope, vs, row⟩ : Frame).satisfiesAll (condition.map (·.image naming 1)) =
      (⟨scope, before ++ vs, row⟩ : Frame).satisfiesAll
        (condition.map (·.image naming (before.length + 1))) := by
  cases condition with
  | none => rfl
  | some c =>
    have hshift := shifted_append before vs
    rw [hcount] at hshift
    change satisfies _ _ = satisfies _ _
    rw [satisfies, satisfies, evaluate_shift hshift]

end Frame

end EntityQuery
