import EntityQuery.Proofs.Request.Lockstep
import EntityQuery.Proofs.Session.Recording

/-!
# Reading and binding on watched backends

Requests ask for cells and hand parameter values over. On a watched backend both are quiet: nothing is
closed by it, and nothing that is closed is asked for anything. So the answers of a closed row set to its
probes never matter.

* `Store.Live` says that the backend has not seen a close of anything that is open in a store. From
  there `Recorded.agreesOn_readCell` and `Session.agreesOn_record` are about reading, and
  `Session.agreesOn_bind` is about binding.
* `Session.execute_quiet`: a query that fails to run is quiet.
-/

namespace EntityQuery

variable {σ : Type}

/-! ## Cells of an open row set -/

namespace Recorded

section Cells

variable {base : Recorded σ} {rows : RowSetId} (hlt : rows.number < base.rowSets.size)
  (hopen : .close ∉ base.rowSets.calls rows.number) (b : Backend σ) (late late' : Late) (index : Nat)
include hlt hopen

theorem Quiet.probe_eq {α : Type} {s : Recorded σ} (hs : base.Quiet s) (x y : α)
    (f : RowSetId → σ → α) : s.probe rows x f = s.probe rows y f :=
  Recorded.probe_eq (hs.rowSets ▸ hlt) ((hs.rowCalls rows.number).not_mem hopen) x y f

theorem agreesOn_refuse {α : Type} (cause : CoercionCause) :
    AgreesOn base.Quiet
      ((b.recorded late).refuse rows index cause : ExceptT QueryError (StateM (Recorded σ)) α)
      ((b.recorded late').refuse rows index cause) := by
  refine agreesOn_get fun s hs => ⟨?_, hs⟩
  have hname : (b.recorded late).columnName rows index s = (b.recorded late').columnName rows index s :=
    hs.probe_eq hlt hopen _ _ _
  simp only [Backend.columnLabel, hname]

omit hlt in
theorem agreesOn_fetch (getter : Getter) :
    AgreesOn base.Quiet ((b.recorded late).fetch rows getter index)
      ((b.recorded late').fetch rows getter index) :=
  fun _ hs => ⟨rfl, hs.trans (quiet_toRows _ ((hs.rowCalls rows.number).not_mem hopen) nofun)⟩

theorem agreesOn_fetched (getter : Getter) :
    AgreesOn base.Quiet ((b.recorded late).fetched rows getter index)
      ((b.recorded late').fetched rows getter index) := by
  refine (agreesOn_fetch hopen b late late' index getter).bind fun r => ?_
  cases r with
  | ok v => exact agreesOn_pure v
  | error e => exact agreesOn_refuse hlt hopen b late late' index _

theorem agreesOn_converted (convert : Value → Except CoercionCause Value) :
    AgreesOn base.Quiet ((b.recorded late).converted rows index convert)
      ((b.recorded late').converted rows index convert) := by
  refine (agreesOn_fetched hlt hopen b late late' index .object).bind fun v => ?_
  cases convert v with
  | ok v => exact agreesOn_pure v
  | error cause => exact agreesOn_refuse hlt hopen b late late' index cause

/-- A value that the probe for `null` may exchange. -/
theorem agreesOn_wasNull {α : Type} (f : Bool → α) :
    AgreesOn (ε := QueryError) base.Quiet
      (do return f ((b.recorded late).wasNull rows (← getThe (Recorded σ))))
      (do return f ((b.recorded late').wasNull rows (← getThe (Recorded σ)))) := by
  refine agreesOn_get fun s hs => ⟨?_, hs⟩
  have hnull : (b.recorded late).wasNull rows s = (b.recorded late').wasNull rows s :=
    hs.probe_eq hlt hopen _ _ _
  rw [hnull]

theorem agreesOn_readDouble :
    AgreesOn base.Quiet ((b.recorded late).readDouble rows index)
      ((b.recorded late').readDouble rows index) := by
  refine (agreesOn_fetch hopen b late late' index .double).bind fun r => ?_
  split
  · next d =>
    exact agreesOn_wasNull hlt hopen b late late' fun null =>
      if d.isZero && null then Value.null else Value.double d
  · exact agreesOn_pure _
  · exact agreesOn_converted hlt hopen b late late' index _
  · exact agreesOn_refuse hlt hopen b late late' index _

/-- Cells of an open row set are read from it alone. -/
theorem agreesOn_readCell (kind : Kind) :
    AgreesOn base.Quiet ((b.recorded late).readCell rows index kind)
      ((b.recorded late').readCell rows index kind) := by
  cases kind with
  | integer => exact agreesOn_converted hlt hopen b late late' index integerOfCell
  | long => exact agreesOn_converted hlt hopen b late late' index longOfCell
  | double => exact agreesOn_readDouble hlt hopen b late late' index
  | boolean =>
    refine (agreesOn_fetched hlt hopen b late late' index .boolean).bind fun v => ?_
    exact agreesOn_wasNull hlt hopen b late late' fun null => if null then Value.null else v
  | string => exact agreesOn_converted hlt hopen b late late' index stringOfCell
  | blob => exact agreesOn_fetched hlt hopen b late late' index .bytes

end Cells

end Recorded

/-! ## Binders that agree -/

section Binders

variable {τ : Type} {I : τ → Prop}

/-- Two binders that work in the same way. -/
structure Binder.AgreeOn (I : τ → Prop) (b b' : Binder τ) : Prop where
  /-- the text is the same -/
  sql : b.sql = b'.sql
  /-- byte strings are handed over in the same way -/
  blobMode : b.blobMode = b'.blobMode
  /-- accessors are read alike -/
  read : ∀ accessor, AgreesOn I (b.read accessor) (b'.read accessor)
  /-- values are taken alike -/
  put : ∀ index setting, AgreesOn I (b.put index setting) (b'.put index setting)

/-- Requests are bound alike. -/
theorem Binder.AgreeOn.bind {b b' : Binder τ} (h : Binder.AgreeOn I b b')
    (values : List (Field × Accessor)) (constraint : Option Constraint) (compiled : Nat) :
    AgreesOn I (b.bind values constraint compiled) (b'.bind values constraint compiled) := by
  have hsimulates : Binder.Simulates (fun _ s s' => s = s' ∧ I s) b b' := by
    refine ⟨h.sql, h.blobMode, ?_, ?_⟩
    · rintro a k s _ ⟨rfl, hs⟩
      obtain ⟨heq, hafter⟩ := h.read a s hs
      exact ⟨_, _, _, rfl, heq.symm, rfl, hafter⟩
    · rintro setting k s _ ⟨rfl, hs⟩
      obtain ⟨heq, hafter⟩ := h.put k setting s hs
      rcases hput : b.put k setting s with ⟨e | u, t⟩
      · rw [hput] at heq hafter
        exact ⟨t, t, .inr ⟨e, rfl, heq.symm, rfl, hafter⟩⟩
      · rw [hput] at heq hafter
        exact ⟨t, t, .inl ⟨rfl, heq.symm, rfl, hafter⟩⟩
  intro s hs
  obtain ⟨r, j, t, _, hrun, hrun', ⟨rfl, ht⟩, -⟩ :=
    hsimulates.bind values constraint compiled ⟨rfl, hs⟩
  exact ⟨hrun.trans hrun'.symm, hrun ▸ ht⟩

end Binders

/-! ## Quiet stores -/

/-- The backend is quiet, and statements and cursors stay as they are. -/
structure Store.Quiet (s t : Store (Recorded σ)) : Prop where
  /-- the backend is quiet -/
  backend : s.backend.Quiet t.backend
  /-- the statements stay -/
  statements : t.statements = s.statements
  /-- the cursors stay -/
  cursors : t.cursors = s.cursors

/-- The backend has not closed what is open. -/
structure Store.Live (store : Store (Recorded σ)) : Prop where
  /-- cursors have row sets that are not closed -/
  rowSets : ∀ c ∈ store.cursors, ∀ rows, c.rows = some rows →
    rows.number < store.backend.rowSets.size ∧ .close ∉ store.backend.rowSets.calls rows.number
  /-- open statements are not closed -/
  statements : ∀ ref id, Session.open? ref store = some id →
    .close ∉ store.backend.statements.calls id.number

variable {base s t u : Store (Recorded σ)}

theorem Store.Quiet.refl (s : Store (Recorded σ)) : s.Quiet s := ⟨.refl _, rfl, rfl⟩

theorem Store.Quiet.trans (h : s.Quiet t) (h' : t.Quiet u) : s.Quiet u :=
  ⟨h.backend.trans h'.backend, h'.statements.trans h.statements, h'.cursors.trans h.cursors⟩

theorem Step.agreesOn_ofCall {α : Type} {c c' : Call (Recorded σ) α}
    (h : AgreesOn base.backend.Quiet c c') :
    AgreesOn base.Quiet (Step.ofCall c) (Step.ofCall c') := by
  intro s hs
  obtain ⟨heq, hquiet⟩ := h s.backend hs.backend
  refine ⟨?_, hquiet, hs.statements, hs.cursors⟩
  rw [Step.ofCall, Step.ofCall, heq]

namespace Session

variable (session : Session σ) (late late' : Late)

section ReadCursor

variable {τ : Type} (session : Session τ) {store : Store τ} {id : CursorId} (index : Nat) (f : Field)

theorem readCursor_of_row {c : Cursor} {rows : RowSetId} (hc : cursor? id store = some c)
    (hrows : c.rows = some rows) (hphase : c.phase = .onRow) :
    session.readCursor id index f store =
      ((session.backend.readCell rows index f.kind store.backend).1,
        { store with backend := (session.backend.readCell rows index f.kind store.backend).2 }) := by
  obtain ⟨_, _, rowId, columns, statement, autoClose, sql⟩ := c
  obtain rfl : _ = some rows := hrows
  obtain rfl : _ = Phase.onRow := hphase
  have hget : (get : Step τ (Store τ)) store = (.ok store, store) := rfl
  rw [readCursor, bind_of_ok hget, hc]
  rfl

theorem readCursor_of_no_row
    (h : ∀ c rows, cursor? id store = some c → c.rows = some rows → c.phase ≠ .onRow) :
    session.readCursor id index f store = (.error (.noCurrentRow f.fullName), store) := by
  have hget : (get : Step τ (Store τ)) store = (.ok store, store) := rfl
  rw [readCursor, bind_of_ok hget]
  rcases hc : cursor? id store with _ | ⟨_ | rows, phase, rowId, columns, statement, autoClose, sql⟩
  · rfl
  · rfl
  · have hphase : phase ≠ .onRow := h _ rows hc rfl
    cases phase with
    | onRow => exact absurd rfl hphase
    | unopened | closed => rfl

end ReadCursor

section Reading

variable (hlive : base.Live)
include hlive

theorem agreesOn_readCursor (id : CursorId) (index : Nat) (f : Field) :
    AgreesOn base.Quiet ((session.recorded late).readCursor id index f)
      ((session.recorded late').readCursor id index f) := by
  intro s hs
  by_cases hrow : ∀ c rows, cursor? id s = some c → c.rows = some rows → c.phase ≠ .onRow
  · rw [readCursor_of_no_row _ _ _ hrow, readCursor_of_no_row _ _ _ hrow]
    exact ⟨rfl, hs⟩
  · obtain ⟨c, hrow⟩ := Classical.not_forall.1 hrow
    obtain ⟨rows, hrow⟩ := Classical.not_forall.1 hrow
    obtain ⟨hc, hrow⟩ := Classical.not_imp.1 hrow
    obtain ⟨hrows, hphase⟩ := Classical.not_imp.1 hrow
    have hbase : base.cursors[id.number]? = some c := hs.cursors ▸ hc
    obtain ⟨hlt, hopen⟩ := hlive.rowSets c (Array.mem_of_getElem? hbase) rows hrows
    obtain ⟨heq, hquiet⟩ :=
      Recorded.agreesOn_readCell hlt hopen session.backend late late' index f.kind s.backend hs.backend
    have hphase := Decidable.not_not.1 hphase
    rw [readCursor_of_row _ _ _ hc hrows hphase, readCursor_of_row _ _ _ hc hrows hphase]
    refine ⟨?_, hquiet, hs.statements, hs.cursors⟩
    dsimp only [Session.recorded]
    rw [heq]

theorem agreesOn_readHandle (h : ColumnHandle) :
    AgreesOn base.Quiet ((session.recorded late).readHandle h)
      ((session.recorded late').readHandle h) := by
  refine agreesOn_get fun s hs => ?_
  cases s.slots.index? h with
  | none => exact ⟨rfl, hs⟩
  | some index =>
    cases s.slots.cursor? h with
    | none => exact ⟨rfl, hs⟩
    | some id => exact session.agreesOn_readCursor late late' hlive id index h.field s hs

theorem agreesOn_readAccessor (accessor : Accessor) :
    AgreesOn base.Quiet ((session.recorded late).readAccessor accessor)
      ((session.recorded late').readAccessor accessor) := by
  cases accessor with
  | literal v => exact agreesOn_pure v
  | fed cell => exact agreesOn_get fun s hs => ⟨rfl, hs⟩
  | column h => exact session.agreesOn_readHandle late late' hlive h

theorem agreesOn_recordFrom (r : Record) (columns : List (Field × ColumnHandle)) :
    AgreesOn base.Quiet ((session.recorded late).recordFrom r columns)
      ((session.recorded late').recordFrom r columns) := by
  induction columns generalizing r with
  | nil => exact agreesOn_pure r
  | cons p rest ih =>
    refine agreesOn_get fun s hs => ?_
    split
    · exact ih r s hs
    · exact ((session.agreesOn_readHandle late late' hlive p.2).bind fun v => ih (r.set p.1 v)) s hs

theorem agreesOn_record (id : CursorId) :
    AgreesOn base.Quiet ((session.recorded late).record id) ((session.recorded late').record id) := by
  refine agreesOn_get fun s hs => ?_
  exact session.agreesOn_recordFrom late late' hlive .empty (columns id s) s hs

/-- Requests bind to an open statement alike. -/
theorem agreesOn_bind {ref : StatementRef} {id : StatementId} (hopen : open? ref base = some id)
    (sql : String) (constraint : Option Constraint) (compiled : Nat) :
    AgreesOn base.Quiet (((session.recorded late).binder sql id).bind [] constraint compiled)
      (((session.recorded late').binder sql id).bind [] constraint compiled) := by
  have hset (index : Nat) (setting : Setting) : AgreesOn base.backend.Quiet
      ((session.backend.recorded late).set id index setting)
      ((session.backend.recorded late').set id index setting) := by
    refine fun s hs => ⟨rfl, hs.trans (Recorded.quiet_toStatement _ ?_ nofun)⟩
    exact (hs.statementCalls id.number).not_mem (hlive.statements ref id hopen)
  have hagree : Binder.AgreeOn base.Quiet ((session.recorded late).binder sql id)
      ((session.recorded late').binder sql id) :=
    ⟨rfl, rfl, session.agreesOn_readAccessor late late' hlive,
      fun index setting => Step.agreesOn_ofCall (hset index setting)⟩
  exact hagree.bind [] constraint compiled

end Reading

end Session

end EntityQuery
