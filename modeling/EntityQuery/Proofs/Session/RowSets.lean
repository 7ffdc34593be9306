import EntityQuery.Proofs.Session.Moving
import EntityQuery.Proofs.Session.Reading
import EntityQuery.Proofs.Session.Stable

/-!
# Row sets without cursors

What a query yields is said in terms of its row set alone, for any backend:

* `Backend.recordOf` reads the current row of a row set into a record, and `Backend.Yields` moves and reads
  through several rows;
* `Backend.Closable` says that the row set and then its statement can be closed, after whatever moves and
  reads.

A cursor on a row set is moved, read and closed as the row set is (`Session.next_of_open`,
`Session.record_of_row`, `Session.closeCursor_ok`).
-/

namespace EntityQuery

variable {σ : Type}

/-! ## Moving and reading -/

namespace Backend

section RowSet

variable (b : Backend σ) (rows : RowSetId) (slots : Slots)

/-- The record of the current row of a row set. A handle without a result column is passed over. -/
def recordOf (r : Record) : List (Field × ColumnHandle) → ExceptT QueryError (StateM σ) Record
  | [] => return r
  | (f, h) :: rest =>
    match slots.index? h with
    | none => recordOf r rest
    | some index => do recordOf (r.set f (← b.readCell rows index h.field.kind)) rest

/-- The next rows of a row set are found and read, one after the other: their records, and the state
behind them. -/
inductive Yields (columns : List (Field × ColumnHandle)) : σ → List Record → σ → Prop
  /-- no row -/
  | nil (s : σ) : Yields columns s [] s
  /-- a row and the ones behind it -/
  | cons {s moved read t : σ} {r : Record} {rs : List Record} (hnext : b.next rows s = (.ok true, moved))
      (hread : b.recordOf rows slots .empty columns moved = (.ok r, read))
      (hrest : Yields columns read rs t) : Yields columns s (r :: rs) t

/-- A row set has no more rows than it says. -/
def Bounded (columns : List (Field × ColumnHandle)) (s : σ) : Prop :=
  ∀ rs t, b.Yields rows slots columns s rs t → rs.length ≤ b.rowsLeft rows s

/-- A row set is moved and read, any number of times. -/
inductive Uses : σ → σ → Prop
  /-- not at all -/
  | refl (s : σ) : Uses s s
  /-- a move first -/
  | next {s t : σ} (h : Uses (b.next rows s).2 t) : Uses s t
  /-- a read first -/
  | get {s t : σ} (getter : Getter) (index : Nat) (h : Uses (b.get rows getter index s).2 t) : Uses s t

/-- However the row set is moved and read from here on, closing it succeeds, and closing its statement
behind it does. -/
def Closable (id : StatementId) (s : σ) : Prop :=
  ∀ t, b.Uses rows s t →
    (b.closeRows rows t).1 = .ok () ∧ (b.close id (b.closeRows rows t).2).1 = .ok ()

variable {b rows slots}

theorem Closable.next {id : StatementId} {s : σ} (h : b.Closable rows id s) :
    b.Closable rows id (b.next rows s).2 := fun t ht => h t (.next ht)

theorem stable_closable_get {id : StatementId} (getter : Getter) (index : Nat) :
    Stable (b.Closable rows id) (b.get rows getter index) := fun _ h t ht => h t (.get getter index ht)

/-- Reading a record keeps what the getters keep. -/
theorem stable_recordOf {I : σ → Prop} (hget : ∀ getter index, Stable I (b.get rows getter index))
    (r : Record) (columns : List (Field × ColumnHandle)) :
    Stable I (b.recordOf rows slots r columns) := by
  induction columns generalizing r with
  | nil => exact stable_pure r
  | cons p rest ih =>
    rw [recordOf]
    cases slots.index? p.2 with
    | none => exact ih r
    | some index => exact (stable_readCell index hget p.2.field.kind).bind fun v => ih (r.set p.1 v)

/-- A row that cannot be read says so. -/
theorem reads_recordOf (r : Record) (columns : List (Field × ColumnHandle)) :
    Reads (b.recordOf rows slots r columns) := by
  induction columns generalizing r with
  | nil => exact failsWith_pure r
  | cons p rest ih =>
    rw [recordOf]
    cases slots.index? p.2 with
    | none => exact ih r
    | some index => exact (b.reads_readCell rows index p.2.field.kind).bind fun v => ih (r.set p.1 v)

/-- No more is yielded than up to the end. -/
theorem Yields.length_le {columns : List (Field × ColumnHandle)} {s t t' : σ} {rs rs' : List Record}
    (h : b.Yields rows slots columns s rs t) (hend : (b.next rows t).1 = .ok false)
    (h' : b.Yields rows slots columns s rs' t') : rs'.length ≤ rs.length := by
  induction h generalizing rs' with
  | nil s =>
    cases h' with
    | nil => exact Nat.le_refl _
    | cons hnext =>
      rw [hnext] at hend
      cases hend
  | cons hnext hread _ ih =>
    cases h' with
    | nil => exact Nat.zero_le _
    | cons hnext' hread' hrest' =>
      cases hnext.symm.trans hnext'
      cases hread.symm.trans hread'
      exact Nat.succ_le_succ (ih hend hrest')

/-- What moves and reads keep holds after any number of them. -/
theorem Uses.keeps {I : σ → Prop} {s t : σ} (h : b.Uses rows s t) (hnext : Stable I (b.next rows))
    (hget : ∀ getter index, Stable I (b.get rows getter index)) (hs : I s) : I t := by
  induction h with
  | refl s => exact hs
  | next _ ih => exact ih (hnext _ hs)
  | get getter index _ ih => exact ih (hget getter index _ hs)

end RowSet

end Backend

/-- A watched backend closes what it has handed out if the backend closes it, as long as something holds
that moves and reads keep. -/
theorem Recorded.closable {I : σ → Prop} {b : Backend σ} {late : Late} {rows own : RowSetId}
    {id ownId : StatementId} {rowCalls : List RowCall} {calls : List StatementCall} {s : Recorded σ}
    (hrows : s.rowSets[rows.number]? = some (own, rowCalls))
    (hid : s.statements[id.number]? = some (ownId, calls)) (hnext : Stable I (b.next own))
    (hget : ∀ getter index, Stable I (b.get own getter index))
    (hcloseRows : ∀ t, I t → (b.closeRows own t).1 = .ok () ∧ I (b.closeRows own t).2)
    (hclose : ∀ t, I t → (b.close ownId t).1 = .ok ()) (hs : I s.inner) :
    (b.recorded late).Closable rows id s := by
  let K (t : Recorded σ) : Prop :=
    I t.inner ∧ (∃ calls, t.rowSets[rows.number]? = some (own, calls)) ∧
      t.statements[id.number]? = some (ownId, calls)
  have hcall {α : Type} (call : RowCall) (f : RowSetId → Call σ α) (t : Recorded σ) (ht : K t)
      (hf : I (f own t.inner).2) :
      (toRows rows call f t).1 = (f own t.inner).1 ∧ K (toRows rows call f t).2 := by
    obtain ⟨-, ⟨calls, hown⟩, hstatement⟩ := ht
    rw [toRows, hown]
    refine ⟨rfl, hf, ⟨calls ++ [call], ?_⟩, hstatement⟩
    rw [Ledger.note, Array.getElem?_modify, if_pos rfl, hown]
    rfl
  intro t huses
  have ht : K t := by
    refine huses.keeps (fun u hu => ?_) (fun getter index u hu => ?_) ⟨hs, ⟨rowCalls, hrows⟩, hid⟩
    · exact (hcall .next b.next u hu (hnext _ hu.1)).2
    · exact (hcall (.get getter index) (b.get · getter index) u hu (hget getter index _ hu.1)).2
  obtain ⟨hclosed, hkept⟩ := hcloseRows t.inner ht.1
  obtain ⟨hanswer, hafter⟩ := hcall .close b.closeRows t ht hkept
  refine ⟨hanswer.trans hclosed, ?_⟩
  change (toStatement id .close b.close (toRows rows .close b.closeRows t).2).1 = _
  rw [toStatement, hafter.2.2]
  exact hclose _ hafter.1

/-! ## Cursors on a row set -/

namespace Session

variable {session : Session σ} {store : Store σ} {id : CursorId} {c : Cursor} {rows : RowSetId}
  (hc : cursor? id store = some c) (hrows : c.rows = some rows)
include hc hrows

/-- Handles that are attached to a cursor on a row read the record of the row set. -/
theorem recordFrom_of_row (hphase : c.phase = .onRow) {columns : List (Field × ColumnHandle)}
    (hattached : ∀ p ∈ columns, (store.slots.index? p.2).isSome → store.slots.cursor? p.2 = some id)
    (r : Record) :
    session.recordFrom r columns store =
      ((session.backend.recordOf rows store.slots r columns store.backend).1,
        { store with
          backend := (session.backend.recordOf rows store.slots r columns store.backend).2 }) := by
  induction columns generalizing r store with
  | nil => rfl
  | cons p rest ih =>
    have hstore : (get : Step σ (Store σ)) store = (.ok store, store) := rfl
    rw [recordFrom, bind_of_ok hstore]
    cases hindex : store.slots.index? p.2 with
    | none =>
      rw [Backend.recordOf, hindex]
      exact ih hc (fun q hq => hattached q (List.mem_cons_of_mem _ hq)) r
    | some index =>
      have hcursor := hattached p List.mem_cons_self (by rw [hindex]; rfl)
      have hread : session.readHandle p.2 store =
          ((session.backend.readCell rows index p.2.field.kind store.backend).1,
            { store with
              backend := (session.backend.readCell rows index p.2.field.kind store.backend).2 }) := by
        rw [readHandle, bind_of_ok hstore, hindex, hcursor]
        exact readCursor_of_row session index p.2.field hc hrows hphase
      have hrecord : session.backend.recordOf rows store.slots r (p :: rest) =
          session.backend.readCell rows index p.2.field.kind >>= fun v =>
            session.backend.recordOf rows store.slots (r.set p.1 v) rest := by
        rw [Backend.recordOf, hindex]
      rw [if_neg (by simp), hrecord]
      rcases hcell : session.backend.readCell rows index p.2.field.kind store.backend with ⟨e | v, m⟩
      · rw [hcell] at hread
        rw [bind_of_error hread, bind_of_error hcell]
      · rw [hcell] at hread
        rw [bind_of_ok hread, bind_of_ok hcell]
        refine ih ?_ ?_ (r.set p.1 v)
        · exact hc
        · exact fun q hq => hattached q (List.mem_cons_of_mem _ hq)

theorem record_of_row (hphase : c.phase = .onRow)
    (hattached : ∀ p ∈ c.columns, (store.slots.index? p.2).isSome →
      store.slots.cursor? p.2 = some id) :
    session.record id store =
      ((session.backend.recordOf rows store.slots .empty c.columns store.backend).1,
        { store with
          backend := (session.backend.recordOf rows store.slots .empty c.columns store.backend).2 }) := by
  have hcolumns : columns id store = c.columns := by
    rw [columns, hc]
    rfl
  have hstore : (get : Step σ (Store σ)) store = (.ok store, store) := rfl
  rw [record, bind_of_ok hstore, hcolumns]
  exact recordFrom_of_row hc hrows hphase hattached .empty

/-- A cursor can be closed if its row set can, and its statement behind it. -/
theorem closeCursor_ok (hopen : c.phase ≠ .closed)
    (hclose : (session.backend.closeRows rows store.backend).1 = .ok ())
    (hstatement : ∀ sid, open? c.statement store = some sid →
      (session.backend.close sid (session.backend.closeRows rows store.backend).2).1 = .ok ()) :
    (session.closeCursor id store).1 = .ok () := by
  let shut : Store σ :=
    { store.withCursor id { c with rows := none, phase := .closed } with
      backend := (session.backend.closeRows rows store.backend).2 }
  have hlast : (session.closeStatement c.statement c.sql shut).1 = .ok () := by
    rw [closeStatement_apply]
    cases hheld : open? c.statement shut with
    | none => rfl
    | some sid =>
      change (Except.mapError _ (session.backend.close sid shut.backend).1) = _
      rw [hstatement sid hheld]
      rfl
  rw [closeCursor_of_open hc hrows hopen, hclose, bind_of_ok (Step.attempt_apply _ _)]
  split
  · exact hlast
  · rfl

end Session

/-! ## Queries that run -/

namespace Session

variable {session : Session σ} {store opened : Store σ} {q : Query} {id : CursorId}

/-- A query that runs had an open statement. Its cursor is the last one, and the handles of its columns
are attached to it. -/
theorem execute_eq_ok (h : session.execute q store = (.ok id, opened)) :
    (∃ sid, open? q.statement store = some sid) ∧ opened.cursors.size = id.number + 1 ∧
      ∀ p ∈ q.columns, (opened.slots.index? p.2).isSome → opened.slots.cursor? p.2 = some id := by
  obtain ⟨sid, s₁, hopened, h⟩ := bind_eq_ok h
  obtain ⟨n, s₂, -, h⟩ := bind_eq_ok h
  obtain ⟨rows, bound, -, h⟩ := bind_eq_ok h
  rw [opened_eq] at hopened
  cases h
  refine ⟨?_, Array.size_push _, fun p hp hindex => ?_⟩
  · cases hheld : open? q.statement store with
    | none =>
      rw [hheld] at hopened
      cases hopened
    | some sid => exact ⟨sid, rfl⟩
  · change ((bound.slots.attachAll _ q.columns).index? p.2).isSome at hindex
    rw [Slots.index?_attachAll] at hindex
    obtain ⟨index, hindex⟩ := Option.isSome_iff_exists.1 hindex
    obtain ⟨slot, hslot, -⟩ := Option.bind_eq_some_iff.1 hindex
    exact Slots.cursor?_attachAll hp (Array.getElem?_eq_some_iff.1 hslot).1

/-- Work with the cursor of a query ends with the close of the cursor, whatever it comes to. -/
theorem withCursor_apply {α : Type} (h : session.execute q store = (.ok id, opened))
    (work : CursorId → Step σ α) :
    session.withCursor q work store =
      ((work id opened).1, (session.closeCursor id (work id opened).2).2) := by
  have hworked : session.withCursor q work store = _ :=
    (bind_of_ok h).trans (bind_of_ok (Step.attempt_apply (work id) opened))
  have hdropped : session.dropCursor id (work id opened).2 =
      (.ok (), (session.closeCursor id (work id opened).2).2) := bind_of_ok (Step.attempt_apply _ _)
  rw [hworked, bind_of_ok hdropped]
  rfl

end Session

end EntityQuery
