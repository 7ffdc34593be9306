import EntityQuery.Proofs.Session.Running
import EntityQuery.Proofs.Session.Watching

/-!
# What reading and running never break

A property of a backend that its getters keep is kept by reading cells (`Backend.stable_readCell`). If the
setters and the mutations of the backend keep it too, so does the run of a request
(`Session.stable_runWith`). Nothing else is asked of the backend.
-/

namespace EntityQuery

/-! ## Steps that keep a property -/

section Stable

variable {ε τ α β : Type} {I : τ → Prop}

/-- A step that keeps a property of the state, whether it succeeds or fails. -/
def Stable (I : τ → Prop) (x : ExceptT ε (StateM τ) α) : Prop := ∀ s, I s → I (x s).2

theorem stable_pure (a : α) : Stable I (pure a : ExceptT ε (StateM τ) α) := fun _ h => h

/-- A chain keeps what its steps keep. -/
theorem Stable.bind {x : ExceptT ε (StateM τ) α} {f : α → ExceptT ε (StateM τ) β} (hx : Stable I x)
    (hf : ∀ a, Stable I (f a)) : Stable I (x >>= f) := by
  intro s hs
  have hafter := hx s hs
  rw [bind_apply]
  rcases hr : x s with ⟨e | a, s'⟩
  · rw [hr] at hafter
    exact hafter
  · rw [hr] at hafter
    exact hf a s' hafter

theorem Stable.adapt {ε' : Type} {x : ExceptT ε (StateM τ) α} (hx : Stable I x) (f : ε → ε') :
    Stable I (x.adapt f) := by
  intro s hs
  rw [adapt_apply]
  exact hx s hs

/-- Binding keeps what reading accessors and setting parameters keep. -/
theorem Binder.stable_bind {b : Binder τ} (hread : ∀ a, Stable I (b.read a))
    (hput : ∀ index setting, Stable I (b.put index setting)) (values : Assignments)
    (constraint : Option Constraint) (compiled : Nat) :
    Stable I (b.bind values constraint compiled) := by
  have hagree : Binder.AgreeOn I b b :=
    ⟨rfl, rfl, fun a s hs => ⟨rfl, hread a s hs⟩, fun index setting s hs => ⟨rfl, hput index setting s hs⟩⟩
  exact fun s hs => (hagree.bind values constraint compiled s hs).2

end Stable

variable {σ : Type} {I : σ → Prop}

/-! ## Reading cells -/

section Cells

variable {b : Backend σ} {rows : RowSetId} (index : Nat)

theorem Backend.stable_refuse {α : Type} (cause : CoercionCause) :
    Stable I (b.refuse rows index cause : ExceptT QueryError (StateM σ) α) := fun _ h => h

variable (hget : ∀ getter index, Stable I (b.get rows getter index))
include hget

theorem Backend.stable_fetch (getter : Getter) : Stable I (b.fetch rows getter index) :=
  hget getter index

theorem Backend.stable_fetched (getter : Getter) : Stable I (b.fetched rows getter index) := by
  refine (stable_fetch index hget getter).bind fun r => ?_
  cases r with
  | ok v => exact stable_pure v
  | error e => exact stable_refuse index _

theorem Backend.stable_converted (convert : Value → Except CoercionCause Value) :
    Stable I (b.converted rows index convert) := by
  refine (stable_fetched index hget .object).bind fun v => ?_
  cases convert v with
  | ok v => exact stable_pure v
  | error cause => exact stable_refuse index cause

theorem Backend.stable_readDouble : Stable I (b.readDouble rows index) := by
  refine (stable_fetch index hget .double).bind fun r => ?_
  split
  · exact fun _ h => h
  · exact stable_pure _
  · exact stable_converted index hget doubleOfCell
  · exact stable_refuse index _

/-- Reading a cell keeps what the getters of its row set keep. -/
theorem Backend.stable_readCell (kind : Kind) : Stable I (b.readCell rows index kind) := by
  cases kind with
  | integer => exact stable_converted index hget integerOfCell
  | long => exact stable_converted index hget longOfCell
  | double => exact stable_readDouble index hget
  | boolean => exact (stable_fetched index hget .boolean).bind fun _ _ h => h
  | string => exact stable_converted index hget stringOfCell
  | blob => exact stable_fetched index hget .bytes

end Cells

/-! ## Running requests -/

/-- The statements that requests hold are these, and the backend has a property. -/
def Store.HeldWith (held : Array (Option StatementId)) (I : σ → Prop) (store : Store σ) : Prop :=
  store.statements = held ∧ I store.backend

variable {held : Array (Option StatementId)}

theorem Step.stable_ofCall {α : Type} {call : Call σ α} (h : Stable I call) :
    Stable (Store.HeldWith held I) (Step.ofCall call) :=
  fun store hstore => ⟨hstore.1, h store.backend hstore.2⟩

namespace Session

variable (session : Session σ)
  (hget : ∀ rows getter index, Stable I (session.backend.get rows getter index))
include hget

theorem stable_readCursor (id : CursorId) (index : Nat) (f : Field) :
    Stable (Store.HeldWith held I) (session.readCursor id index f) := by
  intro store hstore
  by_cases hrow : ∃ c rows, cursor? id store = some c ∧ c.rows = some rows ∧ c.phase = .onRow
  · obtain ⟨c, rows, hc, hrows, hphase⟩ := hrow
    rw [readCursor_of_row session index f hc hrows hphase]
    exact ⟨hstore.1, Backend.stable_readCell index (hget rows) f.kind store.backend hstore.2⟩
  · rw [readCursor_of_no_row session index f
      fun c rows hc hrows hphase => hrow ⟨c, rows, hc, hrows, hphase⟩]
    exact hstore

theorem stable_readAccessor (a : Accessor) :
    Stable (Store.HeldWith held I) (session.readAccessor a) := by
  cases a with
  | literal v => exact stable_pure v
  | fed cell => exact fun _ h => h
  | column h =>
    intro store hstore
    have hget' : (get : Step σ (Store σ)) store = (.ok store, store) := rfl
    rw [readAccessor, readHandle, bind_of_ok hget']
    cases store.slots.index? h with
    | none => exact hstore
    | some index =>
      cases store.slots.cursor? h with
      | none => exact hstore
      | some id => exact session.stable_readCursor hget id index h.field store hstore

/-- A run keeps the held statements, and what the getters, setters and mutations of the backend keep. -/
theorem stable_runWith (hset : ∀ id index setting, Stable I (session.backend.set id index setting))
    (hmutate : ∀ id, Stable I (session.backend.mutate id)) (r : MutationRequest)
    (values : Assignments) : Stable (Store.HeldWith held I) (session.runWith r values) := by
  have hopened : Stable (Store.HeldWith held I)
      (opened r.statement r.compiled.sql : Step σ StatementId) := by
    intro store hstore
    rw [opened_eq]
    exact hstore
  refine hopened.bind fun id => Stable.bind ?_ fun _ => ?_
  · exact Binder.stable_bind (session.stable_readAccessor hget)
      (fun index setting => Step.stable_ofCall (hset id index setting)) _ _ _
  · exact (Step.stable_ofCall (hmutate id)).adapt _

end Session

end EntityQuery
