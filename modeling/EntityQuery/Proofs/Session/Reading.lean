import EntityQuery.Proofs.Stateful
import EntityQuery.Session.Cursor

/-!
# How reading an accessor fails

A literal and a fed cell can always be read. A column cannot be read before it has a result column,
without a current row, or where the cell is not of the field's kind, and these are all the errors
there are: `reads_readAccessor`.
-/

namespace EntityQuery

variable {σ : Type}

/-- Whether an error says that a column cannot be read. -/
def QueryError.isOfReading : QueryError → Bool
  | .coercion _ _ => true
  | .noCurrentRow _ => true
  | .unboundAccessor _ => true
  | _ => false

/-- A step that fails in no other way than a reading does. -/
abbrev Reads {τ α : Type} (x : ExceptT QueryError (StateM τ) α) : Prop :=
  FailsWith (fun e => e.isOfReading = true) x

namespace Backend

variable (b : Backend σ) (rows : RowSetId) (index : Nat)

theorem reads_refuse {α : Type} (cause : CoercionCause) :
    Reads (b.refuse rows index cause : ExceptT QueryError (StateM σ) α) :=
  failsWith_get.bind fun _ => failsWith_throw rfl

theorem reads_fetch (getter : Getter) : Reads (b.fetch rows getter index) := by
  intro s e s' h
  cases h

theorem reads_fetched (getter : Getter) : Reads (b.fetched rows getter index) := by
  refine (b.reads_fetch rows index getter).bind fun r => ?_
  cases r with
  | ok v => exact failsWith_pure v
  | error e => exact b.reads_refuse rows index _

theorem reads_converted (convert : Value → Except CoercionCause Value) :
    Reads (b.converted rows index convert) := by
  refine (b.reads_fetched rows index .object).bind fun v => ?_
  cases convert v with
  | ok v => exact failsWith_pure v
  | error cause => exact b.reads_refuse rows index cause

theorem reads_readDouble : Reads (b.readDouble rows index) := by
  refine (b.reads_fetch rows index .double).bind fun r => ?_
  split
  · exact failsWith_get.bind fun _ => failsWith_pure _
  · exact failsWith_pure _
  · exact b.reads_converted rows index _
  · exact b.reads_refuse rows index _

theorem reads_readCell (kind : Kind) : Reads (b.readCell rows index kind) := by
  cases kind with
  | integer => exact b.reads_converted rows index integerOfCell
  | long => exact b.reads_converted rows index longOfCell
  | double => exact b.reads_readDouble rows index
  | boolean =>
    exact (b.reads_fetched rows index .boolean).bind fun _ =>
      failsWith_get.bind fun _ => failsWith_pure _
  | string => exact b.reads_converted rows index stringOfCell
  | blob => exact b.reads_fetched rows index .bytes

end Backend

namespace Session

variable (s : Session σ)

theorem reads_readCursor (id : CursorId) (index : Nat) (f : Field) :
    Reads (s.readCursor id index f) := by
  refine failsWith_get.bind fun store => ?_
  split
  · next rows _ _ _ _ _ _ =>
    intro store e store' h
    rcases hr : s.backend.readCell rows index f.kind store.backend with ⟨r, backend⟩
    have hread : s.backend.readCell rows index f.kind store.backend = (r, backend) := hr
    have hstep : Step.ofExcept r { store with backend := backend } = (.error e, store') := by
      rw [← h]
      change _ = Step.ofExcept (s.backend.readCell rows index f.kind store.backend).1
        { store with backend := (s.backend.readCell rows index f.kind store.backend).2 }
      rw [hread]
    cases hstep
    exact s.backend.reads_readCell rows index f.kind _ _ _ hread
  · exact failsWith_throw rfl

theorem reads_readHandle (h : ColumnHandle) : Reads (s.readHandle h) := by
  refine failsWith_get.bind fun store => ?_
  dsimp only
  split
  · exact failsWith_throw rfl
  · split
    · exact failsWith_throw rfl
    · exact s.reads_readCursor _ _ _

/-- An accessor that cannot be read says so. -/
theorem reads_readAccessor (a : Accessor) : Reads (s.readAccessor a) := by
  cases a with
  | literal v => exact failsWith_pure v
  | fed cell => exact failsWith_get.bind fun _ => failsWith_pure _
  | column h => exact s.reads_readHandle h

end Session

end EntityQuery
