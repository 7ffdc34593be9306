import EntityQuery.Proofs.Request.BindingOrder

/-!
# Binding in lockstep

The same assignments and the same condition are bound in two places. If accessors are read alike there,
and parameters are taken or refused alike, then both bindings go the same way: they set as many
parameters, one after the other, and end with the same result.

* `Binder.Simulates` is a relation between two states that reading keeps, and that setting a parameter
  takes on by one parameter;
* `Binder.Lockstep` is what follows for a step of binding, and `Binder.Simulates.bind` for a request.
-/

namespace EntityQuery

namespace Binder

variable {τ τ' : Type} {R : Nat → τ → τ' → Prop}

/-- Two steps of binding, with at most `width` parameters to set, have the same result, and set as many
parameters on the way. -/
def Lockstep (R : Nat → τ → τ' → Prop) (width : Nat) (x : Nat → ExceptT QueryError (StateM τ) Nat)
    (y : Nat → ExceptT QueryError (StateM τ') Nat) : Prop :=
  ∀ k s s', R k s s' → ∃ r j t t', x k s = (r, t) ∧ y k s' = (r, t') ∧ R (k + j) t t' ∧ j ≤ width ∧
    ∀ m, r = .ok m → m = k + j ∧ j = width

theorem lockstep_pure : Lockstep R 0 (fun next => pure next) (fun next => pure next) :=
  fun k s s' h => ⟨.ok k, 0, s, s', rfl, rfl, h, Nat.le_refl 0, fun _ hm =>
    ⟨(Except.ok.inj hm).symm, rfl⟩⟩

/-- Steps in a row set their parameters in a row. -/
theorem Lockstep.bind {a b : Nat} {x₁ x₂ : Nat → ExceptT QueryError (StateM τ) Nat}
    {y₁ y₂ : Nat → ExceptT QueryError (StateM τ') Nat} (h₁ : Lockstep R a x₁ y₁)
    (h₂ : Lockstep R b x₂ y₂) :
    Lockstep R (a + b) (fun next => x₁ next >>= x₂) (fun next => y₁ next >>= y₂) := by
  intro k s s' h
  obtain ⟨r, j, t, t', hx, hy, ht, hj, hok⟩ := h₁ k s s' h
  cases r with
  | error e =>
    exact ⟨.error e, j, t, t', bind_of_error hx, bind_of_error hy, ht,
      hj.trans (Nat.le_add_right a b), fun _ hm => nomatch hm⟩
  | ok m =>
    obtain ⟨rfl, rfl⟩ := hok m rfl
    obtain ⟨r, j', u, u', hx', hy', hu, hj', hok'⟩ := h₂ _ t t' ht
    refine ⟨r, j + j', u, u', (bind_of_ok hx).trans hx', (bind_of_ok hy).trans hy',
      Nat.add_assoc k j j' ▸ hu, Nat.add_le_add_left hj' j, fun m hm => ?_⟩
    obtain ⟨rfl, rfl⟩ := hok' m hm
    exact ⟨Nat.add_assoc k j j', rfl⟩

/-- Two binders that read alike, and take or refuse parameters alike. -/
structure Simulates (R : Nat → τ → τ' → Prop) (b : Binder τ) (b' : Binder τ') : Prop where
  /-- the text is the same -/
  sql : b.sql = b'.sql
  /-- byte strings are handed over in the same way -/
  blobMode : b.blobMode = b'.blobMode
  /-- accessors are read alike -/
  read : ∀ a k s s', R k s s' → ∃ r t t', b.read a s = (r, t) ∧ b'.read a s' = (r, t') ∧ R k t t'
  /-- a parameter is taken by both, or refused by both -/
  put : ∀ setting k s s', R k s s' → ∃ t t',
    (b.put k setting s = (.ok (), t) ∧ b'.put k setting s' = (.ok (), t') ∧ R (k + 1) t t') ∨
      ∃ e, b.put k setting s = (.error e, t) ∧ b'.put k setting s' = (.error e, t') ∧ R k t t'

namespace Simulates

variable {b : Binder τ} {b' : Binder τ'} (h : Simulates R b b')
include h

theorem hand (setting : Setting) :
    Lockstep R 1 (fun next => do
      b.hand next setting
      return next + 1) (fun next => do
      b'.hand next setting
      return next + 1) := by
  intro k s s' hs
  obtain ⟨t, t', ⟨hput, hput', ht⟩ | ⟨e, hput, hput', ht⟩⟩ := h.put setting k s s' hs
  · have hhand : b.hand k setting s = (.ok (), t) := by
      rw [Binder.hand, adapt_apply, hput]
      rfl
    have hhand' : b'.hand k setting s' = (.ok (), t') := by
      rw [Binder.hand, adapt_apply, hput']
      rfl
    exact ⟨.ok (k + 1), 1, t, t', bind_of_ok hhand, bind_of_ok hhand', ht, Nat.le_refl 1,
      fun m hm => ⟨(Except.ok.inj hm).symm, rfl⟩⟩
  · have hhand : b.hand k setting s = (.error (.execution b.sql e), t) := by
      rw [Binder.hand, adapt_apply, hput]
      rfl
    have hhand' : b'.hand k setting s' = (.error (.execution b.sql e), t') := by
      rw [Binder.hand, adapt_apply, hput', h.sql]
      rfl
    exact ⟨.error (.execution b.sql e), 0, t, t', bind_of_error hhand, bind_of_error hhand', ht,
      Nat.zero_le 1, fun m hm => by cases hm⟩

theorem set (f : Field) (v : Value) :
    Lockstep R 1 (fun next => b.set next f v) (fun next => b'.set next f v) := by
  cases hcoerce : coerce f v with
  | error e =>
    exact fun k s s' hs => ⟨.error e, 0, s, s', set_unfit hcoerce, set_unfit hcoerce, hs, Nat.zero_le 1,
      fun m hm => nomatch hm⟩
  | ok setting =>
    have hset {τ : Type} (b : Binder τ) : (fun next => b.set next f v) = fun next => do
        b.hand next (b.blobMode.apply setting)
        return next + 1 := by
      funext next
      rw [Binder.set, hcoerce]
      rfl
    rw [hset b, hset b', h.blobMode]
    exact h.hand _

theorem readSet (f : Field) (a : Accessor) :
    Lockstep R 1 (fun next => b.read a >>= b.set next f) (fun next => b'.read a >>= b'.set next f) := by
  intro k s s' hs
  obtain ⟨r, t, t', hread, hread', ht⟩ := h.read a k s s' hs
  cases r with
  | error e =>
    exact ⟨.error e, 0, t, t', bind_of_error hread, bind_of_error hread', ht, Nat.zero_le 1,
      fun m hm => nomatch hm⟩
  | ok v =>
    obtain ⟨r, j, u, u', hset, hset', hrest⟩ := h.set f v k t t' ht
    exact ⟨r, j, u, u', (bind_of_ok hread).trans hset, (bind_of_ok hread').trans hset', hrest⟩

theorem bindOperand (o : Operand) :
    Lockstep R o.isParameter.toNat (fun next => b.bindOperand next o)
      (fun next => b'.bindOperand next o) := by
  cases o with
  | field f => exact lockstep_pure
  | value f v => exact h.set f v
  | accessor f a => exact h.readSet f a

theorem bindList (f : Field) (vs : List Value) :
    Lockstep R vs.length (fun next => b.bindList f next vs) (fun next => b'.bindList f next vs) := by
  induction vs with
  | nil => exact lockstep_pure
  | cons v vs ih =>
    rw [List.length_cons, Nat.add_comm]
    exact (h.set f v).bind ih

theorem bindConstraint (c : Constraint) :
    Lockstep R c.parameterCount (fun next => b.bindConstraint next c)
      (fun next => b'.bindConstraint next c) := by
  induction c with
  | compare op left right => exact (h.bindOperand left).bind (h.bindOperand right)
  | and left right ihleft ihright | or left right ihleft ihright => exact ihleft.bind ihright
  | inList negated f values => exact h.bindList f values
  | isNull negated f => exact lockstep_pure
  | contains negated f text => exact h.hand _

theorem bindCondition (condition : Option Constraint) :
    Lockstep R (conditionCount condition) (b.bindCondition condition) (b'.bindCondition condition) := by
  cases condition with
  | none => exact lockstep_pure
  | some c => exact h.bindConstraint c

theorem bindValues (values : Assignments) :
    Lockstep R values.length (fun next => b.bindValues next values)
      (fun next => b'.bindValues next values) := by
  induction values with
  | nil => exact lockstep_pure
  | cons value values ih =>
    have hboth := (h.readSet value.1 value.2).bind ih
    simp only [bind_assoc] at hboth
    rw [List.length_cons, Nat.add_comm]
    exact hboth

/-- Requests are bound with the same result, and set as many parameters. -/
theorem bind (values : Assignments) (condition : Option Constraint) (compiled : Nat) {s : τ} {s' : τ'}
    (hs : R 1 s s') :
    ∃ r j t t', b.bind values condition compiled s = (r, t) ∧
      b'.bind values condition compiled s' = (r, t') ∧ R (1 + j) t t' ∧
      j ≤ values.length + conditionCount condition ∧
      ∀ m, r = .ok m → j = values.length + conditionCount condition := by
  obtain ⟨r, j, t, t', hwalk, hwalk', ht, hj, hok⟩ :=
    ((h.bindValues values).bind (h.bindCondition condition)) 1 s s' hs
  rw [bind_eq, bind_eq]
  cases r with
  | error e =>
    exact ⟨.error e, j, t, t', bind_of_error hwalk, bind_of_error hwalk', ht, hj,
      fun _ hm => nomatch hm⟩
  | ok next =>
    -- both count the same
    exact ⟨counted compiled next, j, t, t', bind_of_ok hwalk, bind_of_ok hwalk', ht, hj,
      fun _ _ => (hok next rfl).2⟩

end Simulates

end Binder

end EntityQuery
