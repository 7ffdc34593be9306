import EntityQuery.Backend.Memory
import EntityQuery.Proofs.Stateful
import EntityQuery.Session.Cursor

/-!
# What accessors read

On the backend in memory, the value of an accessor can be said without running anything:
`Store.reading` looks it up in the fed cells, or in the current row of the cursor that a handle is
attached to, where `Kind.ofCell` makes the cell a value of the field's kind.

Reading leaves a trace all the same, since a row set remembers whether the cell read last was absent.
`Store.unprobed` is the store without these flags. It is what reading leaves alone
(`Session.readAccessor_eq`), and reading looks at nothing else (`Store.reading_unprobed`).
-/

namespace EntityQuery

/-! ## Cells -/

/-- The value of a field behind a cell. -/
def Kind.ofCell : Kind → Value → Except CoercionCause Value
  | .integer, v => integerOfCell v
  | .long, v => longOfCell v
  | .double, v => doubleOfCell v
  | .boolean, v =>
    match v with
    | .null => .ok .null
    | .boolean b => .ok (.boolean b)
    | v => .error (.backend (.conversion "boolean" v.typeName))
  | .string, v => stringOfCell v
  | .blob, v =>
    match v with
    | .null => .ok .null
    | .blob b => .ok (.blob b)
    | v => .error (.backend (.conversion "blob" v.typeName))

/-- The cell of a column in the current row of a row set. -/
def Memory.cell (m : Memory) (id : RowSetId) (index : Nat) : Except BackendError Value :=
  match m.rowSets[id.number]? with
  | none => .error .closed
  | some r => r.cell index

/-- A cell of the current row of a row set as a value of the kind. -/
def Memory.readAs (m : Memory) (id : RowSetId) (index : Nat) (kind : Kind) :
    Except QueryError Value :=
  match m.cell id index with
  | .error e => .error (.coercion (backend.columnLabel id index m) (.backend e))
  | .ok v => (kind.ofCell v).mapError (.coercion (backend.columnLabel id index m))

/-- A cell in stored form is read as it is. -/
theorem Kind.ofCell_of_holds {kind : Kind} {v : Value} (h : (ColumnType.ofKind kind).holds v = true) :
    kind.ofCell v = .ok v := by
  cases kind with
  | integer | long =>
    cases v <;> first | rfl | cases h
    all_goals simp [ofCell, integerOfCell, longOfCell, wholeCell, bind, Except.bind]
    all_goals rfl
  | double | boolean | string | blob => cases v <;> first | rfl | cases h

/-! ## Traces of reading -/

/-- A row set that does not know which cell was read last. -/
def RowSet.unprobed (r : RowSet) : RowSet := { r with wasNull := false }

/-- The memory without the traces of reading. -/
def Memory.unprobed (m : Memory) : Memory := { m with rowSets := m.rowSets.map RowSet.unprobed }

/-- The store without the traces of reading. -/
def Store.unprobed (store : Store Memory) : Store Memory :=
  { store with backend := store.backend.unprobed }

/-- An array with an item in the place of one that looks the same. -/
theorem map_setIfInBounds_of_eq {α β : Type} {f : α → β} {xs : Array α} {i : Nat} {x y : α}
    (h : xs[i]? = some x) (hf : f y = f x) : (xs.setIfInBounds i y).map f = xs.map f := by
  apply Array.ext_getElem?
  intro j
  rw [Array.getElem?_map, Array.getElem?_map, Array.getElem?_setIfInBounds]
  split
  · next hj =>
    subst hj
    rw [h, if_pos (Array.getElem?_eq_some_iff.1 h).1]
    exact congrArg some hf
  · rfl

namespace Memory

variable (m : Memory) (id : RowSetId) (index : Nat)

theorem cell_unprobed : m.unprobed.cell id index = m.cell id index := by
  rw [cell, cell, unprobed, Array.getElem?_map]
  cases m.rowSets[id.number]? <;> rfl

theorem columnLabel_unprobed :
    backend.columnLabel id index m.unprobed = backend.columnLabel id index m := by
  have hname : backend.columnName id index m.unprobed = backend.columnName id index m := by
    change ((m.rowSets.map RowSet.unprobed)[id.number]?).bind (·.columnName index) =
      (m.rowSets[id.number]?).bind (·.columnName index)
    rw [Array.getElem?_map]
    cases m.rowSets[id.number]? <;> rfl
  rw [Backend.columnLabel, Backend.columnLabel, hname]

theorem readAs_unprobed (kind : Kind) : m.unprobed.readAs id index kind = m.readAs id index kind := by
  rw [readAs, readAs, cell_unprobed, columnLabel_unprobed]

/-- The memory after a cell was asked for. -/
def probed : Memory := (backend.get id .object index m).2

/-- Asking for a cell hands it over in the form that is asked for, and leaves a flag behind. -/
theorem get_eq (getter : Getter) :
    backend.get id getter index m =
      ((m.cell id index).bind (RowSet.convert getter), m.probed id index) := by
  change onRowSet id (·.get getter index) m = (_, (onRowSet id (·.get .object index) m).2)
  rw [onRowSet, onRowSet, cell]
  cases m.rowSets[id.number]? with
  | none => rfl
  | some r =>
    simp only [RowSet.get]
    cases r.cell index <;> rfl

theorem unprobed_probed : (m.probed id index).unprobed = m.unprobed := by
  change (onRowSet id (·.get .object index) m).2.unprobed = m.unprobed
  rw [onRowSet]
  cases hr : m.rowSets[id.number]? with
  | none => rfl
  | some r =>
    have hsame : (r.get .object index).2.unprobed = r.unprobed := by
      rw [RowSet.get]
      cases r.cell index <;> rfl
    simp only [unprobed, map_setIfInBounds_of_eq hr hsame]

/-- The flag says whether the cell is absent. -/
theorem wasNull_probed {v : Value} (h : m.cell id index = .ok v) :
    backend.wasNull id (m.probed id index) = v.isNull := by
  change ((onRowSet id (·.get .object index) m).2.rowSets[id.number]?).any (·.wasNull) = v.isNull
  rw [cell] at h
  rw [onRowSet]
  cases hr : m.rowSets[id.number]? with
  | none =>
    rw [hr] at h
    cases h
  | some r =>
    rw [hr] at h
    have hcell : r.cell index = .ok v := h
    have hlt := (Array.getElem?_eq_some_iff.1 hr).1
    simp only [RowSet.get, hcell]
    rw [Array.getElem?_setIfInBounds_self_of_lt hlt]
    rfl

theorem cell_probed : (m.probed id index).cell id index = m.cell id index := by
  rw [← cell_unprobed, unprobed_probed, cell_unprobed]

theorem columnLabel_probed :
    backend.columnLabel id index (m.probed id index) = backend.columnLabel id index m := by
  rw [← columnLabel_unprobed, unprobed_probed, columnLabel_unprobed]

/-! ## Reading a cell -/

theorem fetch_eq (getter : Getter) :
    backend.fetch id getter index m =
      (.ok ((m.cell id index).bind (RowSet.convert getter)), m.probed id index) := by
  change (Except.ok (backend.get id getter index m).1, (backend.get id getter index m).2) = _
  rw [get_eq]

/-- A cell that cannot be had refuses its column, in the memory that is left behind. -/
theorem refuse_probed {α : Type} (cause : CoercionCause) :
    (backend.refuse id index cause : ExceptT QueryError (StateM Memory) α) (m.probed id index) =
      (.error (.coercion (backend.columnLabel id index m) cause), m.probed id index) := by
  rw [← columnLabel_probed m id index]
  rfl

theorem fetched_eq (getter : Getter) :
    backend.fetched id getter index m =
      (((m.cell id index).bind (RowSet.convert getter)).mapError fun e =>
        .coercion (backend.columnLabel id index m) (.backend e), m.probed id index) := by
  refine (bind_of_ok (m.fetch_eq id index getter)).trans ?_
  cases (m.cell id index).bind (RowSet.convert getter) with
  | ok v => rfl
  | error e => exact m.refuse_probed id index _

theorem converted_eq (convert : Value → Except CoercionCause Value) :
    backend.converted id index convert m =
      (match m.cell id index with
        | .error e => .error (.coercion (backend.columnLabel id index m) (.backend e))
        | .ok v => (convert v).mapError (.coercion (backend.columnLabel id index m)),
      m.probed id index) := by
  have hfetched := m.fetched_eq id index .object
  cases hcell : m.cell id index with
  | error e =>
    rw [hcell] at hfetched
    exact bind_of_error hfetched
  | ok v =>
    rw [hcell] at hfetched
    refine (bind_of_ok hfetched).trans ?_
    dsimp only
    cases convert v with
    | ok w => rfl
    | error cause => exact m.refuse_probed id index cause

/-- Reading a cell gives its value as the kind says, and leaves nothing but a flag behind. -/
theorem readCell_eq (kind : Kind) :
    ∃ m', backend.readCell id index kind m = (m.readAs id index kind, m') ∧
      m'.unprobed = m.unprobed := by
  cases kind with
  | integer | long | string =>
    exact ⟨_, m.converted_eq id index _, m.unprobed_probed id index⟩
  | blob =>
    refine ⟨_, (m.fetched_eq id index .bytes).trans ?_, m.unprobed_probed id index⟩
    rw [readAs]
    cases m.cell id index with
    | error e => rfl
    | ok v => cases v <;> rfl
  | boolean =>
    have hfetched := m.fetched_eq id index .boolean
    cases hcell : m.cell id index with
    | error e =>
      rw [hcell] at hfetched
      refine ⟨_, (bind_of_error hfetched).trans ?_, m.unprobed_probed id index⟩
      rw [readAs, hcell]
    | ok v =>
      rw [hcell] at hfetched
      have hnull := m.wasNull_probed id index hcell
      refine ⟨m.probed id index, ?_, m.unprobed_probed id index⟩
      rw [readAs, hcell]
      -- an absent cell arrives as `false`, and the flag tells that it is absent
      cases v with
      | null | boolean b =>
        refine (bind_of_ok hfetched).trans ?_
        change (Except.ok (if backend.wasNull id (m.probed id index) then _ else _), _) = _
        rw [hnull]
        rfl
      | _ => exact bind_of_error hfetched
  | double =>
    have hfetch := m.fetch_eq id index .double
    -- a backend that has no double there is asked again, for the cell as it is
    have hagain := (m.probed id index).converted_eq id index doubleOfCell
    rw [cell_probed, columnLabel_probed] at hagain
    have hsame := m.unprobed_probed id index
    cases hcell : m.cell id index with
    | error e =>
      rw [hcell] at hfetch hagain
      rw [readAs, hcell]
      cases e with
      | conversion wanted found =>
        exact ⟨_, (bind_of_ok hfetch).trans hagain,
          ((m.probed id index).unprobed_probed id index).trans hsame⟩
      | _ => exact ⟨_, (bind_of_ok hfetch).trans (m.refuse_probed id index _), hsame⟩
    | ok v =>
      rw [hcell] at hfetch hagain
      rw [readAs, hcell]
      have hnull := m.wasNull_probed id index hcell
      cases v with
      | null | integer i | long i | double d =>
        refine ⟨m.probed id index, (bind_of_ok hfetch).trans ?_, hsame⟩
        change (Except.ok (if _ && backend.wasNull id (m.probed id index) then _ else _), _) = _
        rw [hnull]
        simp only [Value.isNull, Bool.and_false, Bool.and_true]
        rfl
      | _ =>
        exact ⟨_, (bind_of_ok hfetch).trans hagain,
          ((m.probed id index).unprobed_probed id index).trans hsame⟩

end Memory

/-! ## Reading an accessor -/

namespace Store

/-- What a column of a cursor's current row is read as. -/
def readingAt (store : Store Memory) (id : CursorId) (index : Nat) (f : Field) :
    Except QueryError Value :=
  match Session.cursor? id store with
  | some { rows := some rows, phase := .onRow, .. } => store.backend.readAs rows index f.kind
  | _ => .error (.noCurrentRow f.fullName)

/-- What a handle reads. -/
def readingOf (store : Store Memory) (h : ColumnHandle) : Except QueryError Value :=
  match store.slots.index? h with
  | none => .error (.unboundAccessor h.field.fullName)
  | some index =>
    match store.slots.cursor? h with
    | none => .error (.noCurrentRow h.field.fullName)
    | some id => store.readingAt id index h.field

/-- What an accessor reads. -/
def reading (store : Store Memory) : Accessor → Except QueryError Value
  | .literal v => .ok v
  | .fed cell => .ok (store.cell cell)
  | .column h => store.readingOf h

/-- The record of some columns, from `r` on. -/
def recordFrom (store : Store Memory) (r : Record) :
    List (Field × ColumnHandle) → Except QueryError Record
  | [] => .ok r
  | (f, h) :: rest =>
    if (store.slots.index? h).isNone then store.recordFrom r rest
    else do store.recordFrom (r.set f (← store.readingOf h)) rest

theorem readingAt_unprobed (store : Store Memory) (id : CursorId) (index : Nat) (f : Field) :
    store.unprobed.readingAt id index f = store.readingAt id index f := by
  rw [readingAt, readingAt]
  change (match Session.cursor? id store with
    | some { rows := some rows, phase := .onRow, .. } => store.backend.unprobed.readAs rows index f.kind
    | _ => .error (.noCurrentRow f.fullName)) = _
  split
  · exact store.backend.readAs_unprobed _ index f.kind
  · rfl

theorem readingOf_unprobed (store : Store Memory) (h : ColumnHandle) :
    store.unprobed.readingOf h = store.readingOf h := by
  rw [readingOf, readingOf]
  simp only [readingAt_unprobed]
  rfl

theorem reading_unprobed (store : Store Memory) : store.unprobed.reading = store.reading := by
  funext a
  cases a with
  | literal v | fed cell => rfl
  | column handle => exact store.readingOf_unprobed handle

theorem recordFrom_unprobed (store : Store Memory) (r : Record)
    (columns : List (Field × ColumnHandle)) :
    store.unprobed.recordFrom r columns = store.recordFrom r columns := by
  induction columns generalizing r with
  | nil => rfl
  | cons column rest ih =>
    rcases column with ⟨f, h⟩
    rw [recordFrom, recordFrom, readingOf_unprobed, ih]
    simp only [ih]
    rfl

variable {store store' : Store Memory}

theorem recordFrom_congr (h : store'.unprobed = store.unprobed) (r : Record)
    (columns : List (Field × ColumnHandle)) :
    store'.recordFrom r columns = store.recordFrom r columns := by
  rw [← recordFrom_unprobed store', h, recordFrom_unprobed store]

end Store

namespace Session

variable {session : Session Memory} (hbackend : session.backend = Memory.backend)
include hbackend

theorem readCursor_eq (id : CursorId) (index : Nat) (f : Field) (store : Store Memory) :
    ∃ store', session.readCursor id index f store = (store.readingAt id index f, store') ∧
      store'.unprobed = store.unprobed := by
  rw [Store.readingAt]
  change ∃ store', (match cursor? id store with
    | some { rows := some rows, phase := .onRow, .. } => do
      let store ← get
      let (result, backend) := (session.backend.readCell rows index f.kind).run store.backend
      set { store with backend := backend }
      Step.ofExcept result
    | _ => throw (.noCurrentRow f.fullName) : Step Memory Value) store = _ ∧ _
  cases cursor? id store with
  | none => exact ⟨store, rfl, rfl⟩
  | some c =>
    rcases c with ⟨_ | rows, phase, _, _, _, _, _⟩
    · exact ⟨store, rfl, rfl⟩
    · cases phase with
      | unopened | closed => exact ⟨store, rfl, rfl⟩
      | onRow =>
        obtain ⟨m, hread, hsame⟩ := store.backend.readCell_eq rows index f.kind
        refine ⟨{ store with backend := m }, ?_, by rw [Store.unprobed, Store.unprobed, hsame]⟩
        change ((session.backend.readCell rows index f.kind store.backend).1,
          { store with
            backend := (session.backend.readCell rows index f.kind store.backend).2 }) = _
        rw [hbackend, hread]

theorem readHandle_eq (h : ColumnHandle) (store : Store Memory) :
    ∃ store', session.readHandle h store = (store.readingOf h, store') ∧
      store'.unprobed = store.unprobed := by
  rw [Store.readingOf]
  change ∃ store', (match store.slots.index? h with
    | none => throw (.unboundAccessor h.field.fullName)
    | some index =>
      match store.slots.cursor? h with
      | none => throw (.noCurrentRow h.field.fullName)
      | some id => session.readCursor id index h.field : Step Memory Value) store = _ ∧ _
  cases store.slots.index? h with
  | none => exact ⟨store, rfl, rfl⟩
  | some index =>
    cases store.slots.cursor? h with
    | none => exact ⟨store, rfl, rfl⟩
    | some id => exact readCursor_eq hbackend id index h.field store

/-- Reading an accessor gives its value and leaves no more than traces. -/
theorem readAccessor_eq (a : Accessor) (store : Store Memory) :
    ∃ store', session.readAccessor a store = (store.reading a, store') ∧
      store'.unprobed = store.unprobed := by
  cases a with
  | literal v | fed cell => exact ⟨store, rfl, rfl⟩
  | column h => exact readHandle_eq hbackend h store

/-- Reading columns gives their record and leaves no more than traces. -/
theorem recordFrom_eq (r : Record) (columns : List (Field × ColumnHandle)) (store : Store Memory) :
    ∃ store', session.recordFrom r columns store = (store.recordFrom r columns, store') ∧
      store'.unprobed = store.unprobed := by
  induction columns generalizing r store with
  | nil => exact ⟨store, rfl, rfl⟩
  | cons column rest ih =>
    rcases column with ⟨f, h⟩
    rw [Store.recordFrom]
    change ∃ store', (if (store.slots.index? h).isNone then session.recordFrom r rest
      else do session.recordFrom (r.set f (← session.readHandle h)) rest : Step Memory Record) store =
        _ ∧ _
    split
    · exact ih r store
    · obtain ⟨store₁, hread, hsame₁⟩ := readHandle_eq hbackend h store
      cases hvalue : store.readingOf h with
      | error e =>
        rw [hvalue] at hread
        exact ⟨store₁, bind_of_error hread, hsame₁⟩
      | ok v =>
        rw [hvalue] at hread
        obtain ⟨store₂, hrest, hsame₂⟩ := ih (r.set f v) store₁
        rw [Store.recordFrom_congr hsame₁] at hrest
        exact ⟨store₂, (bind_of_ok hread).trans hrest, hsame₂.trans hsame₁⟩

end Session

end EntityQuery
