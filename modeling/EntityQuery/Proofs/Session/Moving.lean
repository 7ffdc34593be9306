import EntityQuery.Proofs.Request.Handles
import EntityQuery.Proofs.Session.Running

/-!
# Moving cursors

On the backend in memory, an open cursor stands before or on a row of its row set.

* `Store.OpenOn` is an open cursor with its row set. A move steps to the next row (`Session.next_row`),
  or closes the cursor behind the last one (`Session.next_end`); nothing else is touched, but for the
  statement of an auto-closing query.
* `Slots.recordOf` is the record of a row, and what reading the columns of a cursor gives
  (`Store.recordFrom_eq_recordOf`).
* `Session.recordsUpTo_eq`: a cursor whose handles are its own yields the records of its rows.
-/

namespace EntityQuery

open Sql

/-! ## Exchanging cursors and row sets -/

/-- The store with another cursor of a name. -/
def Store.withCursor {σ : Type} (store : Store σ) (id : CursorId) (c : Cursor) : Store σ :=
  { store with cursors := store.cursors.setIfInBounds id.number c }

/-- The store with another row set of a name. -/
def Store.withRows (store : Store Memory) (r : RowSetId) (rs : RowSet) : Store Memory :=
  { store with
    backend := { store.backend with rowSets := store.backend.rowSets.setIfInBounds r.number rs } }

/-- The store without its statements. -/
def Store.unstated (store : Store Memory) : Store Memory :=
  { store with statements := #[], backend := { store.backend with statements := #[] } }

/-- A cursor that is open, and the row set that it moves over. -/
structure Store.OpenOn (store : Store Memory) (id : CursorId) (c : Cursor) (r : RowSetId)
    (rs : RowSet) : Prop where
  /-- the cursor of the name -/
  cursor : store.cursors[id.number]? = some c
  /-- it moves over the row set -/
  rows : c.rows = some r
  /-- the row set of the name -/
  rowSet : store.backend.rowSets[r.number]? = some rs
  /-- the cursor is open -/
  opened : c.phase ≠ .closed
  /-- the row set is open -/
  unclosed : rs.closed = false

namespace Store.OpenOn

variable {store store' : Store Memory} {id : CursorId} {c : Cursor} {r : RowSetId} {rs : RowSet}
  (h : store.OpenOn id c r rs)
include h

/-- An open cursor on another state of its row set. -/
theorem withRows (rs' : RowSet) (hopen : rs'.closed = false) :
    (store.withRows r rs').OpenOn id c r rs' :=
  ⟨h.cursor, h.rows, Array.getElem?_setIfInBounds_self_of_lt (Array.getElem?_eq_some_iff.1 h.rowSet).1,
    h.opened, hopen⟩

/-- An open cursor in another phase. -/
theorem withCursor (c' : Cursor) (hrows : c'.rows = some r) (hopen : c'.phase ≠ .closed) :
    (store.withCursor id c').OpenOn id c' r rs :=
  ⟨Array.getElem?_setIfInBounds_self_of_lt (Array.getElem?_eq_some_iff.1 h.cursor).1, hrows, h.rowSet,
    hopen, h.unclosed⟩

/-- Reading leaves an open cursor open, on the same rows. -/
theorem of_unprobed (hsame : store'.unprobed = store.unprobed) :
    ∃ rs', rs'.unprobed = rs.unprobed ∧ store'.OpenOn id c r rs' := by
  have hcursors : store'.cursors = store.cursors := (congrArg (·.cursors) hsame :)
  have hsets := congrArg (fun store : Store Memory => store.backend.rowSets[r.number]?) hsame
  simp only [Store.unprobed, Memory.unprobed, Array.getElem?_map, h.rowSet, Option.map_some] at hsets
  obtain ⟨rs', hrs', hprobe⟩ := Option.map_eq_some_iff.1 hsets
  exact ⟨rs', hprobe, hcursors ▸ h.cursor, h.rows, hrs', h.opened,
    (congrArg RowSet.closed hprobe).trans h.unclosed⟩

end Store.OpenOn

theorem Step.attempt_apply {σ α : Type} (step : Step σ α) (store : Store σ) :
    attempt step store = (.ok (step store).1, (step store).2) := rfl

theorem Memory.onRowSet_eq {α : Type} {m : Memory} {id : RowSetId} {r : RowSet}
    (h : m.rowSets[id.number]? = some r) (step : RowSet → Except BackendError α × RowSet) :
    onRowSet id step m =
      ((step r).1, { m with rowSets := m.rowSets.setIfInBounds id.number (step r).2 }) := by
  rw [onRowSet, h]

namespace Session

/-! ## Looking up what to close and to move -/

section Lookup

variable {σ : Type} (session : Session σ) (store : Store σ)

theorem closeStatement_apply (ref : StatementRef) (sql : String) :
    session.closeStatement ref sql store =
      (match open? ref store with
        | none => return
        | some id => do
          modify fun store =>
            { store with statements := store.statements.setIfInBounds ref.number none }
          (Step.ofCall (session.backend.close id)).adapt (.execution sql) : Step σ Unit) store :=
  rfl

theorem closeCursor_apply (id : CursorId) :
    session.closeCursor id store =
      (match cursor? id store with
        | none => return
        | some c => do
          if c.phase = .closed then return
          setCursor id { c with rows := none, phase := .closed }
          let ofRows ← Step.attempt do
            match c.rows with
            | some rows => (Step.ofCall (session.backend.closeRows rows)).adapt (.execution c.sql)
            | none => return
          let ofStatement ← Step.attempt do
            if c.autoClose then session.closeStatement c.statement c.sql
          Step.ofExcept ofRows
          Step.ofExcept ofStatement : Step σ Unit) store := rfl

theorem next_apply (id : CursorId) :
    session.next id store =
      (match cursor? id store with
        | some { rows := some rows, phase, rowId, columns, statement, autoClose, sql } => do
          if phase = .closed then throw .cursorClosed
          match ← Step.attempt ((Step.ofCall (session.backend.next rows)).adapt (.execution sql)) with
          | .ok true =>
            setCursor id ⟨some rows, .onRow, rowId + 1, columns, statement, autoClose, sql⟩
            return true
          | .ok false =>
            session.closeCursor id
            return false
          | .error e =>
            Step.ignore (session.closeCursor id)
            throw e
        | _ => throw .cursorClosed : Step σ Bool) store := rfl

variable {id : CursorId}

/-- A cursor that is closed, or not there, does not move. -/
theorem next_of_closed (h : ∀ c, cursor? id store = some c → c.phase = .closed) :
    session.next id store = (.error .cursorClosed, store) := by
  rw [next_apply]
  rcases hc : cursor? id store with _ | ⟨_ | rows, phase, rowId, columns, statement, autoClose, sql⟩
  · rfl
  · rfl
  · obtain rfl : phase = .closed := h _ hc
    rfl

/-- Closing a cursor that is closed, or not there, does nothing. -/
theorem closeCursor_of_closed (h : ∀ c, cursor? id store = some c → c.phase = .closed) :
    session.closeCursor id store = (.ok (), store) := by
  rw [closeCursor_apply]
  cases hc : cursor? id store with
  | none => rfl
  | some c =>
    dsimp only
    rw [if_pos (h c hc)]
    rfl

section Open

variable {session store} {c : Cursor} {r : RowSetId} (hc : cursor? id store = some c)
  (hrows : c.rows = some r) (hopen : c.phase ≠ .closed)
include hc hrows hopen

/-- What a move does with the answer of the row set. -/
theorem next_of_open :
    session.next id store =
      (match (session.backend.next r store.backend).1 with
        | .ok true => do
          setCursor id { c with phase := .onRow, rowId := c.rowId + 1 }
          return true
        | .ok false => do
          session.closeCursor id
          return false
        | .error e => do
          Step.ignore (session.closeCursor id)
          throw (.execution c.sql e) : Step σ Bool)
        { store with backend := (session.backend.next r store.backend).2 } := by
  have hmove : ((Step.ofCall (session.backend.next r)).adapt (QueryError.execution c.sql)) store =
      ((session.backend.next r store.backend).1.mapError (QueryError.execution c.sql),
        { store with backend := (session.backend.next r store.backend).2 }) := adapt_apply _ _ _
  obtain ⟨rows, phase, rowId, columns, statement, autoClose, sql⟩ := c
  obtain rfl : rows = some r := hrows
  rw [next_apply, hc]
  dsimp only
  rw [if_neg hopen]
  refine (bind_of_ok (Step.attempt_apply _ _)).trans ?_
  rw [hmove]
  rcases (session.backend.next r store.backend).1 with e | _ | _ <;> rfl

/-- Closing an open cursor closes its row set, and then the statement if it is asked to. Of two failures
the first is reported. -/
theorem closeCursor_of_open :
    session.closeCursor id store =
      (do
        let ofStatement ← Step.attempt do
          if c.autoClose then session.closeStatement c.statement c.sql
        Step.ofExcept ((session.backend.closeRows r store.backend).1.mapError (.execution c.sql))
        Step.ofExcept ofStatement : Step σ Unit)
        { store.withCursor id { c with rows := none, phase := .closed } with
          backend := (session.backend.closeRows r store.backend).2 } := by
  have hset : setCursor id { c with rows := none, phase := .closed } store =
      (.ok (), store.withCursor id { c with rows := none, phase := .closed }) := rfl
  have hcall : ((Step.ofCall (session.backend.closeRows r)).adapt (QueryError.execution c.sql))
      (store.withCursor id { c with rows := none, phase := .closed }) =
      ((session.backend.closeRows r store.backend).1.mapError (QueryError.execution c.sql),
        { store.withCursor id { c with rows := none, phase := .closed } with
          backend := (session.backend.closeRows r store.backend).2 }) := adapt_apply _ _ _
  rw [closeCursor_apply, hc]
  dsimp only
  rw [if_neg hopen, hrows]
  refine (bind_of_ok hset).trans ((bind_of_ok (Step.attempt_apply _ _)).trans ?_)
  dsimp only
  rw [hcall]

end Open

end Lookup

/-- There is no other cursor of the name. -/
theorem closed_of_cursor {σ : Type} {store : Store σ} {id : CursorId} {c : Cursor}
    (hc : cursor? id store = some c) (hclosed : c.phase = .closed) :
    ∀ c', cursor? id store = some c' → c'.phase = .closed := by
  intro c' hc'
  obtain rfl := Option.some.inj (hc.symm.trans hc')
  exact hclosed

variable {session : Session Memory} (hbackend : session.backend = Memory.backend)
include hbackend

/-! ## Closing -/

/-- Closing a statement touches no more than statements. -/
theorem keeps_closeStatement (ref : StatementRef) (sql : String) :
    Keeps Store.unstated (session.closeStatement ref sql) := by
  intro store
  have hclose (id : StatementId) (store : Store Memory) :
      (((Step.ofCall (session.backend.close id)).adapt (QueryError.execution sql)) store).2.unstated =
        store.unstated := by
    rw [adapt_apply, hbackend]
    change Store.unstated { store with
      backend := (Memory.onStatement id (fun db p => (.ok (), db, p.close)) store.backend).2 } = _
    rw [Memory.onStatement]
    cases store.backend.statements[id.number]? <;> rfl
  rw [closeStatement_apply]
  cases open? ref store with
  | none => rfl
  | some id =>
    exact hclose id { store with statements := store.statements.setIfInBounds ref.number none }

/-- A statement that the backend knows can be closed. -/
theorem closeStatement_ok {ref : StatementRef} {store : Store Memory}
    (hknown : ∀ id, open? ref store = some id → (store.backend.statements[id.number]?).isSome)
    (sql : String) : (session.closeStatement ref sql store).1 = .ok () := by
  rw [closeStatement_apply]
  cases hopen : open? ref store with
  | none => rfl
  | some id =>
    obtain ⟨p, hp⟩ := Option.isSome_iff_exists.1 (hknown id hopen)
    change (((Step.ofCall (session.backend.close id)).adapt (QueryError.execution sql))
      { store with statements := store.statements.setIfInBounds ref.number none }).1 = _
    rw [adapt_apply, hbackend]
    change (Memory.onStatement id (fun db p => (.ok (), db, p.close)) store.backend).1.mapError _ = _
    rw [Memory.onStatement, hp]
    rfl

section OpenOn

variable {id : CursorId} {c : Cursor} {r : RowSetId} {rs : RowSet} {store : Store Memory}
  (h : store.OpenOn id c r rs)
include h

/-- Closing an open cursor closes its row set, and then the statement if it is asked to. -/
theorem closeCursor_eq :
    session.closeCursor id store =
      (if c.autoClose then session.closeStatement c.statement c.sql else pure () : Step Memory Unit)
        ((store.withCursor id { c with rows := none, phase := .closed }).withRows r rs.close) := by
  have hclose : session.backend.closeRows r store.backend =
      (.ok (), (store.withRows r rs.close).backend) := by
    rw [hbackend]
    exact Memory.onRowSet_eq h.rowSet fun rs => (.ok (), rs.close)
  rw [closeCursor_of_open h.cursor h.rows h.opened, hclose]
  exact (bind_of_ok (Step.attempt_apply _ _)).trans rfl

/-- Closing an open cursor leaves it closed, and touches no other cursor or row set. -/
theorem unstated_closeCursor :
    (session.closeCursor id store).2.unstated =
      ((store.withCursor id { c with rows := none, phase := .closed }).withRows r
        rs.close).unstated := by
  rw [closeCursor_eq hbackend h]
  split
  · exact keeps_closeStatement hbackend _ _ _
  · rfl

/-! ## Moving -/

/-- A move asks the row set. -/
theorem next_eq :
    session.next id store =
      (match rs.next.1 with
        | .ok true => do
          setCursor id { c with phase := .onRow, rowId := c.rowId + 1 }
          return true
        | .ok false => do
          session.closeCursor id
          return false
        | .error e => do
          Step.ignore (session.closeCursor id)
          throw (.execution c.sql e) : Step Memory Bool) (store.withRows r rs.next.2) := by
  have hnext : session.backend.next r store.backend =
      (rs.next.1, (store.withRows r rs.next.2).backend) := by
    rw [hbackend]
    exact Memory.onRowSet_eq h.rowSet RowSet.next
  rw [next_of_open h.cursor h.rows h.opened, hnext]
  rfl

/-- A move to a row. -/
theorem next_row {row : Row} {rest : List Row} (hrest : rs.rest = row :: rest) :
    session.next id store = (.ok true,
      (store.withRows r { rs with current := some row, rest := rest }).withCursor id
        { c with phase := .onRow, rowId := c.rowId + 1 }) := by
  have hnext : rs.next = (.ok true, { rs with current := some row, rest := rest }) := by
    rw [RowSet.next, h.unclosed, hrest]
    rfl
  rw [next_eq hbackend h, hnext]
  rfl

/-- A move behind the last row closes the cursor. -/
theorem next_end (hrest : rs.rest = []) :
    session.next id store =
      (do session.closeCursor id; return false : Step Memory Bool)
        (store.withRows r { rs with current := none }) := by
  have hnext : rs.next = (.ok false, { rs with current := none }) := by
    rw [RowSet.next, h.unclosed, hrest]
    rfl
  rw [next_eq hbackend h, hnext]

/-- A move behind the last row touches no other cursor or row set. -/
theorem unstated_next_end (hrest : rs.rest = []) :
    (session.next id store).2.unstated =
      ((store.withCursor id { c with rows := none, phase := .closed }).withRows r
        rs.close).unstated := by
  have hopen := h.withRows { rs with current := none } h.unclosed
  have hclosed := unstated_closeCursor hbackend hopen
  have hstore : ∀ result : Except QueryError Unit × Store Memory,
      session.closeCursor id (store.withRows r { rs with current := none }) = result →
        (session.next id store).2 = result.2 := by
    rintro ⟨e | u, after⟩ hresult
    · rw [next_end hbackend h hrest]
      exact congrArg Prod.snd (bind_of_error hresult)
    · rw [next_end hbackend h hrest]
      exact congrArg Prod.snd (bind_of_ok hresult)
  rw [hstore _ rfl, hclosed]
  simp only [Store.unstated, Store.withCursor, Store.withRows, Array.setIfInBounds_setIfInBounds]
  rfl

end OpenOn

end Session

/-! ## Records of rows -/

/-- The name of a result column, or else its number. -/
def columnLabel (names : List String) (index : Nat) : String :=
  ((position? index).bind (names[·]?)).getD ("#" ++ toString index)

/-- The cell of a result column as a value of the kind of a field; there is none without a row. -/
def readRow (names : List String) (row : Option Row) (index : Nat) (f : Field) :
    Except QueryError Value :=
  match row with
  | none => .error (.noCurrentRow f.fullName)
  | some row =>
    match (position? index).bind (row[·]?) with
    | none => .error (.coercion (columnLabel names index) (.backend (.columnRange index row.length)))
    | some v => (f.kind.ofCell v).mapError (.coercion (columnLabel names index))

/-- The record of a row, each cell as a value of the kind of its field. A handle without a column is
passed over. -/
def Slots.recordOf (slots : Slots) (names : List String) (row : Option Row) (r : Record) :
    List (Field × ColumnHandle) → Except QueryError Record
  | [] => .ok r
  | (f, h) :: rest =>
    match slots.index? h with
    | none => slots.recordOf names row r rest
    | some index => do slots.recordOf names row (r.set f (← readRow names row index h.field)) rest

namespace Store

variable {store : Store Memory} {id : CursorId} {c : Cursor} {r : RowSetId} {rs : RowSet}

/-- A cursor on a row reads its cells. -/
theorem OpenOn.readingAt_eq (h : store.OpenOn id c r rs) (hphase : c.phase = .onRow) {row : Row}
    (hcurrent : rs.current = some row) (index : Nat) (f : Field) :
    store.readingAt id index f = readRow rs.columns (some row) index f := by
  have hcell : store.backend.cell r index = rs.cell index := by
    rw [Memory.cell, h.rowSet]
  have hlabel : Memory.backend.columnLabel r index store.backend = columnLabel rs.columns index := by
    change ((store.backend.rowSets[r.number]?).bind (·.columnName index)).getD _ = _
    rw [h.rowSet]
    rfl
  obtain ⟨rows, phase, rowId, columns, statement, autoClose, sql⟩ := c
  obtain rfl : rows = some r := h.rows
  obtain rfl : phase = .onRow := hphase
  rw [readingAt, show Session.cursor? id store = some _ from h.cursor]
  simp only [Memory.readAs, hcell, RowSet.cell, h.unclosed, hcurrent, hlabel, readRow]
  cases (position? index).bind (row[·]?) <;> rfl

/-- A cursor in any other phase has no row to read. -/
theorem readingAt_of_phase (hcursor : store.cursors[id.number]? = some c) (hphase : c.phase ≠ .onRow)
    (names : List String) (index : Nat) (f : Field) :
    store.readingAt id index f = readRow names none index f := by
  rw [readingAt, show Session.cursor? id store = some c from hcursor]
  obtain ⟨rows, phase, rowId, columns, statement, autoClose, sql⟩ := c
  split
  · next heq =>
    cases heq
    exact absurd rfl hphase
  · rfl

/-- Handles that are attached to one cursor read a record of its row. -/
theorem recordFrom_eq_recordOf {columns : List (Field × ColumnHandle)} {names : List String}
    {row : Option Row}
    (hattached : ∀ p ∈ columns, (store.slots.index? p.2).isSome → store.slots.cursor? p.2 = some id)
    (hreading : ∀ index f, store.readingAt id index f = readRow names row index f) (record : Record) :
    store.recordFrom record columns = store.slots.recordOf names row record columns := by
  induction columns generalizing record with
  | nil => rfl
  | cons p columns ih =>
    have hrest := ih fun q hq => hattached q (List.mem_cons_of_mem _ hq)
    rw [recordFrom, Slots.recordOf]
    cases hindex : store.slots.index? p.2 with
    | none => exact hrest record
    | some index =>
      have hcursor := hattached p List.mem_cons_self (by rw [hindex]; rfl)
      have hread : store.readingOf p.2 = readRow names row index p.2.field := by
        rw [readingOf, hindex, hcursor]
        exact hreading index p.2.field
      rw [hread]
      simp only [hrest]
      rfl

end Store

/-- A move behind the last row succeeds if the statement can be closed. -/
theorem Session.next_end_ok {session : Session Memory} (hbackend : session.backend = Memory.backend)
    {store : Store Memory} {id : CursorId} {c : Cursor} {r : RowSetId} {rs : RowSet}
    (h : store.OpenOn id c r rs) (hrest : rs.rest = [])
    (hknown : ∀ sid, open? c.statement store = some sid →
      (store.backend.statements[sid.number]?).isSome) :
    (session.next id store).1 = .ok false := by
  have hopen := h.withRows { rs with current := none } h.unclosed
  have hclose : (session.closeCursor id (store.withRows r { rs with current := none })).1 = .ok () := by
    rw [closeCursor_eq hbackend hopen]
    split
    · refine closeStatement_ok hbackend (fun sid hsid => ?_) c.sql
      exact hknown sid hsid
    · rfl
  rw [next_end hbackend h hrest]
  rcases hresult : session.closeCursor id (store.withRows r { rs with current := none })
    with ⟨result, after⟩
  rw [hresult] at hclose
  obtain rfl : result = .ok () := hclose
  exact congrArg Prod.fst (bind_of_ok hresult)

/-- Handles that are attached to a cursor on a row read its record. -/
theorem Session.record_eq {session : Session Memory} (hbackend : session.backend = Memory.backend)
    {store : Store Memory} {id : CursorId} {c : Cursor} {r : RowSetId} {rs : RowSet} {row : Row}
    (h : store.OpenOn id c r rs) (hphase : c.phase = .onRow) (hcurrent : rs.current = some row)
    (hattached : ∀ p ∈ c.columns, (store.slots.index? p.2).isSome →
      store.slots.cursor? p.2 = some id) :
    ∃ after, session.record id store =
        (store.slots.recordOf rs.columns (some row) .empty c.columns, after) ∧
      after.unprobed = store.unprobed := by
  have hcolumns : columns id store = c.columns := by
    rw [columns, show cursor? id store = some c from h.cursor]
    rfl
  obtain ⟨after, hread, hsame⟩ := recordFrom_eq hbackend .empty (columns id store) store
  rw [hcolumns, Store.recordFrom_eq_recordOf hattached (h.readingAt_eq hphase hcurrent),
    ← hcolumns] at hread
  exact ⟨after, hcolumns ▸ hread, hsame⟩

/-- A cursor whose handles are its own yields the records of the rows to come. -/
theorem Session.recordsUpTo_eq {session : Session Memory} (hbackend : session.backend = Memory.backend)
    {store : Store Memory} {id : CursorId} {c : Cursor} {r : RowSetId} {rs : RowSet}
    (h : store.OpenOn id c r rs)
    (hattached : ∀ p ∈ c.columns, (store.slots.index? p.2).isSome →
      store.slots.cursor? p.2 = some id)
    (hknown : ∀ sid, open? c.statement store = some sid →
      (store.backend.statements[sid.number]?).isSome)
    {records : List Record}
    (hrecords : rs.rest.mapM (fun row => store.slots.recordOf rs.columns (some row) .empty c.columns) =
      .ok records) {limit : Nat} (hlimit : rs.rest.length < limit) :
    ∃ after, session.recordsUpTo id limit store = (.ok records, after) := by
  induction hrows : rs.rest generalizing store c rs records limit with
  | nil =>
    obtain ⟨limit, rfl⟩ : ∃ n, limit = n + 1 := ⟨limit - 1, by omega⟩
    rw [hrows] at hrecords
    cases hrecords
    have hnext : session.next id store = (.ok false, (session.next id store).2) :=
      Prod.ext (next_end_ok hbackend h hrows hknown) rfl
    exact ⟨_, bind_of_ok hnext⟩
  | cons row rest ih =>
    obtain ⟨limit, rfl⟩ : ∃ n, limit = n + 1 := ⟨limit - 1, by omega⟩
    rw [hrows, List.length_cons] at hlimit
    rw [hrows, List.mapM_cons] at hrecords
    obtain ⟨record, hrecord, hrecords⟩ := ok_of_bind hrecords
    obtain ⟨others, hothers, hrecords⟩ := ok_of_bind hrecords
    obtain rfl : record :: others = records := Except.ok.inj hrecords
    -- the cursor moves, its row is read, and the others are read behind it
    have hnext := next_row hbackend h hrows
    have hstepped := h.withRows { rs with current := some row, rest := rest } h.unclosed
    have hmoved := hstepped.withCursor { c with phase := .onRow, rowId := c.rowId + 1 } h.rows (by simp)
    obtain ⟨read, hread, hsame⟩ := record_eq hbackend hmoved rfl rfl hattached
    obtain ⟨rs', hprobe, hopen⟩ := hmoved.of_unprobed hsame
    have hslots : read.slots = store.slots := (congrArg (·.slots) hsame :)
    have hcolumns : rs'.columns = rs.columns := (congrArg RowSet.columns hprobe :)
    have hrest : rs'.rest = rest := (congrArg RowSet.rest hprobe :)
    obtain ⟨after, hafter⟩ := ih hopen (hslots ▸ hattached)
      (fun sid hsid => by
        have hopened : open? c.statement read = open? c.statement store := by
          rw [open?, open?, show read.statements = store.statements from (congrArg (·.statements) hsame :)]
        have hstatements : read.backend.statements = store.backend.statements :=
          (congrArg (·.backend.statements) hsame :)
        rw [hstatements]
        exact hknown sid (hopened ▸ hsid))
      (by rw [hrest, hcolumns, hslots]; exact hothers)
      (show rs'.rest.length < limit by rw [hrest]; omega) hrest
    have hread := hread.trans (congrArg (·, read) hrecord)
    exact ⟨after, (bind_of_ok hnext).trans ((bind_of_ok hread).trans (bind_of_ok hafter))⟩

end EntityQuery
