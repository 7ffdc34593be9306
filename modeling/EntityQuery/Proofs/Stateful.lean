import Mathlib
import EntityQuery.Backend.Basic

/-!
# Steps on a state that may fail

Writers, binders, calls and session steps are all functions from a state to a result and the state
afterwards. These are the equations by which a chain of such steps is run: each step in turn, up to
the first that fails, whose state is kept.
-/

namespace EntityQuery

variable {ε τ α β : Type}

/-- A chain runs its first step, and the rest only behind a success. -/
theorem bind_apply (x : ExceptT ε (StateM τ) α) (f : α → ExceptT ε (StateM τ) β) (s : τ) :
    (x >>= f) s =
      match x s with
      | (.ok a, s') => f a s'
      | (.error e, s') => (.error e, s') := by
  simp only [bind, ExceptT.bind, ExceptT.mk, StateT.bind, ExceptT.bindCont]
  rcases x s with ⟨r, s'⟩
  cases r <;> rfl

/-- A chain goes on with the value of a step that succeeds. -/
theorem bind_of_ok {x : ExceptT ε (StateM τ) α} {f : α → ExceptT ε (StateM τ) β} {s s' : τ} {a : α}
    (h : x s = (.ok a, s')) : (x >>= f) s = f a s' := by
  rw [bind_apply, h]

/-- A chain ends with the error of a step that fails. -/
theorem bind_of_error {x : ExceptT ε (StateM τ) α} {f : α → ExceptT ε (StateM τ) β} {s s' : τ}
    {e : ε} (h : x s = (.error e, s')) : (x >>= f) s = (.error e, s') := by
  rw [bind_apply, h]

/-- A chain may begin with any step that does the same here. -/
theorem bind_congr_left {x y : ExceptT ε (StateM τ) α} {f : α → ExceptT ε (StateM τ) β} {s : τ}
    (h : x s = y s) : (x >>= f) s = (y >>= f) s := by
  rw [bind_apply, bind_apply, h]

/-- Inversion: a chain that succeeds has two steps that succeed. -/
theorem bind_eq_ok {x : ExceptT ε (StateM τ) α} {f : α → ExceptT ε (StateM τ) β} {s s'' : τ} {b : β}
    (h : (x >>= f) s = (.ok b, s'')) : ∃ a s', x s = (.ok a, s') ∧ f a s' = (.ok b, s'') := by
  rw [bind_apply] at h
  rcases hx : x s with ⟨r, s'⟩
  rw [hx] at h
  cases r with
  | ok a => exact ⟨a, s', rfl, h⟩
  | error e => cases h

@[simp] theorem pure_apply (a : α) (s : τ) :
    (pure a : ExceptT ε (StateM τ) α) s = (.ok a, s) := rfl

/-- Inversion for results without a state. -/
theorem ok_of_bind {x : Except ε α} {f : α → Except ε β} {b : β} (h : x >>= f = .ok b) :
    ∃ a, x = .ok a ∧ f a = .ok b := by
  cases x with
  | ok a => exact ⟨a, rfl, h⟩
  | error e => cases h

/-- Without a state, a chain goes on with a success. -/
theorem except_bind_of_ok {x : Except ε α} {f : α → Except ε β} {a : α} (h : x = .ok a) :
    x >>= f = f a := by
  rw [h]
  rfl

/-- Without a state, a chain ends with an error. -/
theorem except_bind_of_error {x : Except ε α} {f : α → Except ε β} {e : ε} (h : x = .error e) :
    x >>= f = .error e := by
  rw [h]
  rfl

/-- What succeeds under other names for its errors succeeds. -/
theorem ok_of_mapError {ε' : Type} {f : ε → ε'} {x : Except ε α} {a : α}
    (h : x.mapError f = .ok a) : x = .ok a := by
  cases x with
  | ok b => exact congrArg _ (Except.ok.inj h)
  | error e => cases h

theorem toOption_eq_some_iff {x : Except ε α} {a : α} : x.toOption = some a ↔ x = .ok a := by
  cases x <;> simp [Except.toOption]

/-- Items that are computed one by one are what each of them is computed to. -/
theorem eq_map_of_mapM {f : α → Except ε β} {g : α → β} {xs : List α} {ys : List β}
    (hf : ∀ a ∈ xs, ∀ b, f a = .ok b → b = g a) (h : xs.mapM f = .ok ys) : ys = xs.map g := by
  induction xs generalizing ys with
  | nil => exact (Except.ok.inj h).symm
  | cons x xs ih =>
    rw [List.mapM_cons] at h
    obtain ⟨y, hy, h⟩ := ok_of_bind h
    obtain ⟨rest, hrest, h⟩ := ok_of_bind h
    rw [← Except.ok.inj h, hf x List.mem_cons_self y hy,
      ih (fun a ha => hf a (List.mem_cons_of_mem _ ha)) hrest, List.map_cons]

/-- Items that can all be computed are. -/
theorem mapM_of_ok {f : α → Except ε β} {g : α → β} {xs : List α}
    (hf : ∀ x ∈ xs, f x = .ok (g x)) : xs.mapM f = .ok (xs.map g) := by
  induction xs with
  | nil => rfl
  | cons x xs ih =>
    rw [List.mapM_cons, hf x List.mem_cons_self, ih fun y hy => hf y (List.mem_cons_of_mem _ hy)]
    rfl

/-- What was computed one by one was computed from the items. -/
theorem exists_of_mapM {f : α → Except ε β} {xs : List α} {ys : List β} (h : xs.mapM f = .ok ys)
    {y : β} (hy : y ∈ ys) : ∃ x ∈ xs, f x = .ok y := by
  induction xs generalizing ys with
  | nil =>
    cases h
    cases hy
  | cons x xs ih =>
    rw [List.mapM_cons] at h
    obtain ⟨first, hfirst, h⟩ := ok_of_bind h
    obtain ⟨rest, hrest, h⟩ := ok_of_bind h
    cases h
    rcases List.mem_cons.1 hy with rfl | hy
    · exact ⟨x, List.mem_cons_self, hfirst⟩
    · obtain ⟨x', hx', hfx⟩ := ih hrest hy
      exact ⟨x', List.mem_cons_of_mem _ hx', hfx⟩

/-- Each item was computed to the one in its place. -/
theorem forall₂_of_mapM {f : α → Except ε β} {xs : List α} {ys : List β} (h : xs.mapM f = .ok ys) :
    List.Forall₂ (fun x y => f x = .ok y) xs ys := by
  induction xs generalizing ys with
  | nil =>
    cases h
    exact .nil
  | cons x xs ih =>
    rw [List.mapM_cons] at h
    obtain ⟨y, hy, h⟩ := ok_of_bind h
    obtain ⟨rest, hrest, h⟩ := ok_of_bind h
    cases h
    exact .cons hy (ih hrest)

/-- Items that are computed one by one are as many as before. -/
theorem length_of_mapM {f : α → Except ε β} {xs : List α} {ys : List β}
    (h : xs.mapM f = .ok ys) : ys.length = xs.length := by
  induction xs generalizing ys with
  | nil =>
    cases h
    rfl
  | cons x xs ih =>
    rw [List.mapM_cons] at h
    obtain ⟨y, -, h⟩ := ok_of_bind h
    obtain ⟨rest, hrest, h⟩ := ok_of_bind h
    cases h
    rw [List.length_cons, ih hrest, List.length_cons]

/-- All items can be computed that were. -/
theorem ok_of_mapM {f : α → Except ε β} {xs : List α} {ys : List β} (h : xs.mapM f = .ok ys) {x : α}
    (hx : x ∈ xs) : ∃ y ∈ ys, f x = .ok y := by
  obtain ⟨i, hi, rfl⟩ := List.getElem_of_mem hx
  have hlt : i < ys.length := (length_of_mapM h).symm ▸ hi
  exact ⟨ys[i], List.getElem_mem hlt, (forall₂_of_mapM h).get hi hlt⟩

/-- An adapted step has its errors renamed and everything else kept. -/
theorem adapt_apply {ε' : Type} (x : ExceptT ε (StateM τ) α) (f : ε → ε') (s : τ) :
    (x.adapt f) s = ((x s).1.mapError f, (x s).2) := by
  simp only [ExceptT.adapt, ExceptT.mk, Functor.map, StateT.map]
  rcases x s with ⟨r, s'⟩
  cases r <;> rfl

/-! ## Which errors a step can have -/

/-- All errors of a step, from whatever state, satisfy `P`. -/
def FailsWith (P : ε → Prop) (x : ExceptT ε (StateM τ) α) : Prop :=
  ∀ s e s', x s = (.error e, s') → P e

variable {P : ε → Prop}

theorem failsWith_pure (a : α) : FailsWith P (pure a : ExceptT ε (StateM τ) α) := by
  intro s e s' h
  cases h

theorem failsWith_throw {e : ε} (he : P e) : FailsWith P (throw e : ExceptT ε (StateM τ) α) := by
  intro s e' s' h
  cases h
  exact he

/-- The errors of a chain are those of its steps. -/
theorem FailsWith.bind {x : ExceptT ε (StateM τ) α} {f : α → ExceptT ε (StateM τ) β}
    (hx : FailsWith P x) (hf : ∀ a, FailsWith P (f a)) : FailsWith P (x >>= f) := by
  intro s e s' h
  rw [bind_apply] at h
  rcases hr : x s with ⟨r, s₁⟩
  rw [hr] at h
  cases r with
  | ok a => exact hf a s₁ e s' h
  | error e₁ =>
    obtain ⟨he, -⟩ := Prod.mk.inj h
    exact Except.error.inj he ▸ hx s e₁ s₁ hr

/-- A step that only reads the state cannot fail. -/
theorem failsWith_get : FailsWith P (get : ExceptT ε (StateM τ) τ) := by
  intro s e s' h
  cases h

/-- An adapted step has the errors of the step, renamed. -/
theorem FailsWith.adapt {ε' : Type} {Q : ε' → Prop} {x : ExceptT ε (StateM τ) α} {f : ε → ε'}
    (hx : FailsWith P x) (hf : ∀ e, P e → Q (f e)) : FailsWith Q (x.adapt f) := by
  intro s e s' h
  rw [adapt_apply] at h
  rcases hr : x s with ⟨r, s₁⟩
  rw [hr] at h
  cases r with
  | ok a => cases h
  | error e₁ =>
    cases h
    exact hf e₁ (hx s e₁ s₁ hr)

/-! ## Which errors a computation can have -/

/-- All errors of a computation without a state satisfy `P`. -/
def ErrorsIn (P : ε → Prop) (x : Except ε α) : Prop := ∀ e, x = .error e → P e

namespace ErrorsIn

theorem ok (a : α) : ErrorsIn P (.ok a : Except ε α) := fun _ h => nomatch h

theorem error {e : ε} (h : P e) : ErrorsIn P (.error e : Except ε α) :=
  fun _ h' => Except.error.inj h' ▸ h

/-- The errors of a chain are those of its steps. -/
theorem bind {x : Except ε α} {f : α → Except ε β} (hx : ErrorsIn P x) (hf : ∀ a, ErrorsIn P (f a)) :
    ErrorsIn P (x >>= f) := by
  intro e h
  cases x with
  | ok a => exact hf a e h
  | error e' =>
    cases h
    exact hx e rfl

/-- The errors of a list are those of its items. -/
theorem mapM {f : α → Except ε β} {xs : List α} (h : ∀ x ∈ xs, ErrorsIn P (f x)) :
    ErrorsIn P (xs.mapM f) := by
  induction xs with
  | nil => exact ok []
  | cons x xs ih =>
    rw [List.mapM_cons]
    exact (h x List.mem_cons_self).bind fun y =>
      (ih fun a ha => h a (List.mem_cons_of_mem _ ha)).bind fun ys => ok (y :: ys)

/-- Renamed errors are those from before, renamed. -/
theorem mapError {ε' : Type} {Q : ε' → Prop} {x : Except ε α} {f : ε → ε'} (hx : ErrorsIn P x)
    (hf : ∀ e, P e → Q (f e)) : ErrorsIn Q (x.mapError f) := by
  cases x with
  | ok a => exact ok a
  | error e => exact error (hf e (hx e rfl))

end ErrorsIn

/-! ## What a step leaves alone -/

/-- A step after which some view of the state is the same, whether the step succeeds or fails. -/
def Keeps {γ : Type} (view : τ → γ) (x : ExceptT ε (StateM τ) α) : Prop :=
  ∀ s, view (x s).2 = view s

section Keeps

variable {γ : Type} {view : τ → γ}

theorem keeps_pure (a : α) : Keeps view (pure a : ExceptT ε (StateM τ) α) := fun _ => rfl

/-- A chain leaves alone what its steps leave alone. -/
theorem Keeps.bind {x : ExceptT ε (StateM τ) α} {f : α → ExceptT ε (StateM τ) β}
    (hx : Keeps view x) (hf : ∀ a, Keeps view (f a)) : Keeps view (x >>= f) := by
  intro s
  have hview := hx s
  rw [bind_apply]
  rcases hr : x s with ⟨r, s₁⟩
  rw [hr] at hview
  cases r with
  | ok a => exact (hf a s₁).trans hview
  | error e => exact hview

theorem Keeps.adapt {ε' : Type} {x : ExceptT ε (StateM τ) α} (hx : Keeps view x) (f : ε → ε') :
    Keeps view (x.adapt f) := by
  intro s
  rw [adapt_apply]
  exact hx s

end Keeps

end EntityQuery
