import EntityQuery.Proofs.Session.BoundColumns
import EntityQuery.Proofs.Session.Interleaving
import EntityQuery.Proofs.Session.Repeating
import EntityQuery.Proofs.Session.RowSets

/-!
# Reading bound columns

The handles of a query are bound to result columns when the query is made, and the rows that they read come
about when it is executed. As long as the tables keep their columns, the two fit: the rows are as long as
the list of the columns, so no handle asks for a column that is not there.

* `Session.execute_selects`: an execution opens a cursor on the result of the statement that was parsed.
* `CursorId.History` is any history of a cursor: its moves and its end, and all that leaves it alone, as
  reading does (`CursorId.left_of_unprobed`). `Store.Holds` is what it keeps (`CursorId.History.holds`): the
  rows of an open cursor are as long as the list of its columns.
* `bound_columns_are_read` puts this together.
-/

namespace EntityQuery

open Sql

/-! ## Execution -/

section Execute

variable {session : Session Memory} (hbackend : session.backend = Memory.backend)
  {q : Query} {start opened : Store Memory} {id : CursorId} {parsed : Parsed}
include hbackend

/-- An execution opens a cursor on what the parsed statement selects from the tables. -/
theorem Session.execute_selects (hclean : q.statement.Clean q.sql (conditionCount q.constraint) start)
    (hparse : parse q.sql = .ok parsed) (h : session.execute q start = (.ok id, opened)) :
    ∃ (bound : Store Memory) (s : Select) (parameters : List Value) (result : ResultSet),
      parsed.statement = .select s ∧ start.backend.database.select parameters s = .ok result ∧
      id = ⟨bound.cursors.size⟩ ∧ opened = bound.opening q result := by
  cases hopened : open? q.statement start with
  | none =>
    rw [execute_of_closed hopened] at h
    cases h
  | some sid =>
    obtain ⟨p, parsed', hp, hparse', hstatement, hopen, -⟩ := hclean sid hopened
    obtain rfl := Except.ok.inj (hparse.symm.trans hparse')
    obtain ⟨count, bound, -, vs, hbind, -, hfilled, -⟩ :=
      bind_lockstep hbackend hp hp hopen hopen rfl rfl q.sql [] q.constraint q.parameterCount
    cases count with
    | error e =>
      rw [execute_of_unbound hopened hbind] at h
      cases h
    | ok n =>
      rw [execute_of_bind hbackend hopened hbind, Memory.selected, hfilled.prepared,
        Store.database_of_outline hfilled.outline] at h
      simp only [Prepared.select, hopen, hstatement] at h
      cases hselect : parsed.statement with
      | select s =>
        rw [hselect] at h
        dsimp only at h
        split at h
        · cases h
        · next result hresult =>
          cases h
          obtain ⟨parameters, -, hresult⟩ := ok_of_bind hresult
          exact ⟨bound, s, parameters, result, rfl, hresult, rfl, rfl⟩
      | _ =>
        rw [hselect] at h
        cases h

/-- An execution while the tables have the columns that they had before gives rows that are as long as the
list of the columns that were announced then. -/
theorem Session.execute_widths {announced : Database} {names : List String}
    (hclean : q.statement.Clean q.sql (conditionCount q.constraint) start)
    (hparse : parse q.sql = .ok parsed)
    (hnames : announced.resultColumns parsed.statement = .ok names)
    (htyped : start.backend.database.WellTyped)
    (hcolumns : ∀ s, parsed.statement = .select s → ∀ name ∈ s.tables,
      start.backend.database.columnNames name = announced.columnNames name)
    (h : session.execute q start = (.ok id, opened)) :
    ∃ (bound : Store Memory) (rows : List Row), id = ⟨bound.cursors.size⟩ ∧
      opened = bound.opening q ⟨names, rows⟩ ∧ ∀ row ∈ rows, row.length = names.length := by
  obtain ⟨bound, s, parameters, result, hselect, hresult, hid, hopened⟩ :=
    execute_selects hbackend hclean hparse h
  obtain ⟨hfound, hrows⟩ := Database.select_widths htyped hresult
  rw [hselect] at hnames
  obtain rfl : result.columns = names := by
    rw [hfound, Select.columnNames_congr (hcolumns s hselect), Database.eq_of_resultColumns hnames]
  exact ⟨bound, result.rows, hid, hopened, hrows⟩

end Execute

/-! ## Histories of a cursor -/

/-- What leaves a cursor alone: it stays as it is, and its row set too, but for the traces of reading. -/
structure CursorId.Left (id : CursorId) (store after : Store Memory) : Prop where
  /-- the cursor stays -/
  cursor : after.cursors[id.number]? = store.cursors[id.number]?
  /-- its row set stays -/
  rows : ∀ c r, store.cursors[id.number]? = some c → c.rows = some r →
    (after.backend.rowSets[r.number]?).map RowSet.unprobed =
      (store.backend.rowSets[r.number]?).map RowSet.unprobed

/-- Reading leaves all cursors alone. -/
theorem CursorId.left_of_unprobed {store after : Store Memory} (id : CursorId)
    (h : after.unprobed = store.unprobed) : id.Left store after where
  cursor := (congrArg (·.cursors[id.number]?) h :)
  rows _ r _ _ := by
    have hsets := congrArg (·.backend.rowSets[r.number]?) h
    simpa only [Store.unprobed, Memory.unprobed, Array.getElem?_map] using hsets

/-- Any history of a cursor: it moves, or it is closed, and all else leaves it alone. -/
inductive CursorId.History (id : CursorId) (session : Session Memory) (start : Store Memory) :
    Store Memory → Prop where
  /-- nothing has happened -/
  | start : id.History session start start
  /-- the cursor moves -/
  | next {store : Store Memory} (h : id.History session start store) :
    id.History session start (session.next id store).2
  /-- the cursor is closed -/
  | close {store : Store Memory} (h : id.History session start store) :
    id.History session start (session.closeCursor id store).2
  /-- something else happens -/
  | other {store after : Store Memory} (h : id.History session start store)
    (hleft : id.Left store after) : id.History session start after

/-- A row set with these columns, whose rows are all as long as the list of them. -/
structure RowSet.Fits (rs : RowSet) (names : List String) : Prop where
  /-- it has these columns -/
  columns : rs.columns = names
  /-- so it is with the current row -/
  current : ∀ row, rs.current = some row → row.length = names.length
  /-- so it is with the rows to come -/
  rest : ∀ row ∈ rs.rest, row.length = names.length

/-- A cursor that is closed, or open on a row set with these columns. -/
def Store.Holds (store : Store Memory) (id : CursorId) (r : RowSetId) (names : List String) : Prop :=
  ∃ c, store.cursors[id.number]? = some c ∧
    (c.phase = .closed ∨ ∃ rs, store.OpenOn id c r rs ∧ rs.Fits names)

namespace Store.Holds

variable {store after : Store Memory} {id : CursorId} {r : RowSetId} {names : List String}
  (h : store.Holds id r names)
include h

/-- Nothing changes for a cursor that is left alone. -/
theorem left (hleft : id.Left store after) : after.Holds id r names := by
  obtain ⟨c, hc, hstands⟩ := h
  refine ⟨c, hleft.cursor.trans hc, hstands.imp_right ?_⟩
  rintro ⟨rs, hopen, hfits⟩
  have hsets := hleft.rows c r hc hopen.rows
  rw [hopen.rowSet, Option.map_some] at hsets
  obtain ⟨rs', hrs', hsame⟩ := Option.map_eq_some_iff.1 hsets
  have hcolumns : rs'.columns = rs.columns := (congrArg RowSet.columns hsame :)
  have hcurrent : rs'.current = rs.current := (congrArg RowSet.current hsame :)
  have hrest : rs'.rest = rs.rest := (congrArg RowSet.rest hsame :)
  refine ⟨rs', ⟨hleft.cursor.trans hc, hopen.rows, hrs', hopen.opened,
    (congrArg RowSet.closed hsame).trans hopen.unclosed⟩, hcolumns.trans hfits.columns, ?_, ?_⟩
  · rw [hcurrent]
    exact hfits.current
  · rw [hrest]
    exact hfits.rest

omit h in
/-- A cursor that has been closed is closed. -/
theorem of_closed {c : Cursor} {rs : RowSet} (hc : store.cursors[id.number]? = some c)
    (hsame : after.unstated =
      ((store.withCursor id { c with rows := none, phase := .closed }).withRows r rs).unstated) :
    after.Holds id r names := by
  have hcursors : after.cursors = store.cursors.setIfInBounds id.number
      { c with rows := none, phase := .closed } := (congrArg (·.cursors) hsame :)
  refine ⟨{ c with rows := none, phase := .closed }, ?_, .inl rfl⟩
  rw [hcursors]
  exact Array.getElem?_setIfInBounds_self_of_lt (Array.getElem?_eq_some_iff.1 hc).1

variable {session : Session Memory} (hbackend : session.backend = Memory.backend)
include hbackend

theorem closeCursor : (session.closeCursor id store).2.Holds id r names := by
  obtain ⟨c, hc, hclosed | ⟨rs, hopen, -⟩⟩ := h
  · rw [session.closeCursor_of_closed store (Session.closed_of_cursor hc hclosed)]
    exact ⟨c, hc, .inl hclosed⟩
  · exact of_closed hc (Session.unstated_closeCursor hbackend hopen)

/-- A move goes to the first of the rows to come, or it closes the cursor. -/
theorem next : (session.next id store).2.Holds id r names := by
  obtain ⟨c, hc, hclosed | ⟨rs, hopen, hfits⟩⟩ := h
  · rw [session.next_of_closed store (Session.closed_of_cursor hc hclosed)]
    exact ⟨c, hc, .inl hclosed⟩
  · cases hrest : rs.rest with
    | nil => exact of_closed hc (Session.unstated_next_end hbackend hopen hrest)
    | cons row rest =>
      rw [Session.next_row hbackend hopen hrest]
      obtain ⟨hrow, hbehind⟩ := List.forall_mem_cons.1 (hrest ▸ hfits.rest)
      have hmoved : ({ rs with current := some row, rest := rest } : RowSet).Fits names := by
        refine ⟨hfits.columns, fun row' hrow' => ?_, hbehind⟩
        obtain rfl := Option.some.inj hrow'
        exact hrow
      have hstepped := (hopen.withRows { rs with current := some row, rest := rest }
        hopen.unclosed).withCursor { c with phase := .onRow, rowId := c.rowId + 1 } hopen.rows
          (by simp)
      exact ⟨_, hstepped.cursor, .inr ⟨_, hstepped, hmoved⟩⟩

end Store.Holds

/-- A cursor keeps its columns, and rows that are as long, for as long as it is open. -/
theorem CursorId.History.holds {session : Session Memory} (hbackend : session.backend = Memory.backend)
    {id : CursorId} {start later : Store Memory} (h : id.History session start later) {r : RowSetId}
    {names : List String} (hstart : start.Holds id r names) : later.Holds id r names := by
  induction h with
  | start => exact hstart
  | next _ ih => exact ih.next hbackend
  | close _ ih => exact ih.closeCursor hbackend
  | other _ hleft ih => exact ih.left hleft

/-! ## Reading -/

/-- Whether a column was asked for that the row does not have. -/
def BackendError.isColumnRange : BackendError → Bool
  | .columnRange _ _ => true
  | _ => false

/-- Whether a cell could not be had because the row does not have its column. -/
def CoercionCause.isColumnRange : CoercionCause → Bool
  | .backend cause => cause.isColumnRange
  | _ => false

/-- Whether a request failed because a row does not have a column. -/
def QueryError.isColumnRange : QueryError → Bool
  | .coercion _ cause => cause.isColumnRange
  | _ => false

/-- A number that stands in a cell, or a refusal of another kind. -/
theorem errorsIn_wholeCell (v : Value) : ErrorsIn (·.isColumnRange = false) (wholeCell v) := by
  unfold wholeCell
  split
  · exact .ok _
  · exact .ok _
  · exact .ok _
  · split
    · exact .ok _
    · exact .error rfl
  · exact .error rfl

/-- A cell that is there is not refused for its column. -/
theorem Kind.errorsIn_ofCell (kind : Kind) (v : Value) :
    ErrorsIn (·.isColumnRange = false) (kind.ofCell v) := by
  cases kind with
  | integer =>
    rw [ofCell]
    unfold integerOfCell
    split
    · exact .ok _
    · refine (errorsIn_wholeCell v).bind fun wide => ?_
      split
      · exact .ok _
      · exact .error rfl
  | long =>
    rw [ofCell]
    unfold longOfCell
    split
    · exact .ok _
    · exact (errorsIn_wholeCell v).bind fun wide => .ok _
  | double =>
    rw [ofCell]
    unfold doubleOfCell
    split
    · exact .ok _
    · split
      · exact .ok _
      · exact .error rfl
  | string =>
    rw [ofCell]
    unfold stringOfCell
    split
    · exact .ok _
    · exact .ok _
    · exact .error rfl
  | boolean | blob =>
    cases v with
    | null | boolean | blob => first | exact .ok _ | exact .error rfl
    | _ => exact .error rfl

/-- A row set whose rows are long enough has the column. -/
theorem RowSet.Fits.errorsIn_cell {rs : RowSet} {names : List String} (h : rs.Fits names) {i : Nat}
    (hpos : 1 ≤ i) (hle : i ≤ names.length) : ErrorsIn (·.isColumnRange = false) (rs.cell i) := by
  obtain ⟨k, rfl⟩ := Nat.exists_eq_add_of_le' hpos
  rw [cell]
  split
  · exact .error rfl
  · split
    · exact .error rfl
    · next row hrow =>
      have hlt : k < row.length := by
        rw [h.current row hrow]
        exact hle
      rw [position?, Option.bind_some, List.getElem?_eq_getElem hlt]
      exact .ok _

namespace Store.Holds

variable {store : Store Memory} {id : CursorId} {r : RowSetId} {names : List String}
  (h : store.Holds id r names)
include h

/-- A cursor reads the columns that its row set has. -/
theorem errorsIn_readingAt {i : Nat} (hpos : 1 ≤ i) (hle : i ≤ names.length) (f : Field) :
    ErrorsIn (·.isColumnRange = false) (store.readingAt id i f) := by
  obtain ⟨c, hc, hstands⟩ := h
  rw [Store.readingAt, show Session.cursor? id store = some c from hc]
  split
  · next rows _ _ _ _ _ heq =>
    obtain rfl := Option.some.inj heq
    rcases hstands with hclosed | ⟨rs, hopen, hfits⟩
    · cases hclosed
    · obtain rfl : rows = r := Option.some.inj hopen.rows
      have hcell : ErrorsIn (·.isColumnRange = false) (store.backend.cell rows i) := by
        rw [Memory.cell, hopen.rowSet]
        exact hfits.errorsIn_cell hpos hle
      rw [Memory.readAs]
      cases hresult : store.backend.cell rows i with
      | error e => exact .error (hcell e hresult)
      | ok v => exact (f.kind.errorsIn_ofCell v).mapError fun _ h => h
  · exact .error rfl

/-- The names of the columns of an open cursor. -/
theorem columnName_eq (hphase : Session.phase id store ≠ .closed) {i : Nat} (hpos : 1 ≤ i) :
    Memory.backend.columnName r i store.backend = names[i - 1]? := by
  obtain ⟨k, rfl⟩ := Nat.exists_eq_add_of_le' hpos
  obtain ⟨c, hc, hclosed | ⟨rs, hopen, hfits⟩⟩ := h
  · rw [Session.phase, show Session.cursor? id store = some c from hc] at hphase
    exact absurd hclosed hphase
  · change (store.backend.rowSets[r.number]?).bind (·.columnName (k + 1)) = _
    rw [hopen.rowSet, ← hfits.columns]
    rfl

end Store.Holds

/-- A cursor that is opened on rows of the width of its columns holds them. -/
theorem Store.holds_opening (bound : Store Memory) (q : Query) {names : List String} {rows : List Row}
    (hrows : ∀ row ∈ rows, row.length = names.length) :
    ∃ c, (bound.opening q ⟨names, rows⟩).OpenOn ⟨bound.cursors.size⟩ c ⟨bound.backend.rowSets.size⟩
        (.ofResult ⟨names, rows⟩) ∧
      (bound.opening q ⟨names, rows⟩).Holds ⟨bound.cursors.size⟩ ⟨bound.backend.rowSets.size⟩ names := by
  have hopen : (bound.opening q ⟨names, rows⟩).OpenOn ⟨bound.cursors.size⟩
      ⟨some ⟨bound.backend.rowSets.size⟩, .unopened, 0, q.columns, q.statement, q.autoClose, q.sql⟩
      ⟨bound.backend.rowSets.size⟩ (.ofResult ⟨names, rows⟩) := by
    refine ⟨Array.getElem?_push_size, rfl, Array.getElem?_push_size, by simp, rfl⟩
  exact ⟨_, hopen, _, hopen.cursor, .inr ⟨_, hopen, rfl, (fun row hrow => nomatch hrow), hrows⟩⟩

/-- Handles that are bound to result columns read them.

A query, compiled or of a given text, binds each of its handles to the number of a result column that has
the name of the field's column. Take any execution while the tables still have the columns that they had
when the query was made. Its cursor moves over rows that are as long as the list of the columns, and as long
as it is open, its columns have these names, and no handle that reads from it fails for a column that is not
there. -/
theorem bound_columns_are_read {session : Session Memory} (hbackend : session.backend = Memory.backend)
    {b : SelectBuilder} {autoClose : Bool} {q : Query} {before built : Store Memory}
    (hmade : session.buildQuery b autoClose before = (.ok q, built))
    (hbounded : ∀ p ∈ b.selection.fields, p.2.slot < before.slots.size)
    (hnames : ∀ e, b.source = .entity e →
      session.naming.Readable b.selection.fieldsNamed ∧ ∀ n ∈ b.selection.top, n < UInt64.size) :
    ∃ parsed names, parse q.sql = .ok parsed ∧
      before.backend.database.resultColumns parsed.statement = .ok names ∧
      (∀ p ∈ q.columns, ∃ i column, built.slots.index? p.2 = some i ∧
        session.naming.columnName p.1 = some column ∧ PointsAt names i (b.resultName column)) ∧
      ∀ start opened id, q.statement.History (session.Executes q) built start →
        start.backend.database.WellTyped →
        (∀ s, parsed.statement = .select s → ∀ t ∈ s.tables,
          start.backend.database.columnNames t = before.backend.database.columnNames t) →
        session.execute q start = (.ok id, opened) →
        ∃ c r rows, opened.OpenOn id c r (.ofResult ⟨names, rows⟩) ∧
          (∀ row ∈ rows, row.length = names.length) ∧
          (∀ p ∈ q.columns, (opened.slots.index? p.2).isSome → opened.slots.cursor? p.2 = some id) ∧
          ∀ later, id.History session opened later → Session.phase id later ≠ .closed →
            (∀ i, 1 ≤ i → Memory.backend.columnName r i later.backend = names[i - 1]?) ∧
            ∀ p ∈ q.columns, later.slots.index? p.2 = built.slots.index? p.2 →
              later.slots.cursor? p.2 = some id →
              ErrorsIn (·.isColumnRange = false) (session.readHandle p.2 later).1 := by
  obtain ⟨parsed, names, hparse, hresult, hpoints⟩ :=
    Session.points_of_buildQuery hbackend hmade hbounded hnames
  refine ⟨parsed, names, hparse, hresult, hpoints, ?_⟩
  intro start opened id hhistory htyped hcolumns hrun
  have hclean := hhistory.clean (fun _ _ hclean hrun => hrun.clean hbackend hclean)
    (StatementRef.clean_buildQuery hbackend hmade)
  obtain ⟨-, -, hattached⟩ := Session.execute_eq_ok hrun
  obtain ⟨bound, rows, rfl, rfl, hrows⟩ :=
    Session.execute_widths hbackend hclean hparse hresult htyped hcolumns hrun
  obtain ⟨c, hopen, hholds⟩ := bound.holds_opening q hrows
  refine ⟨c, _, rows, hopen, hrows, hattached, fun later hlater hphase => ?_⟩
  have hholds := hlater.holds hbackend hholds
  refine ⟨fun i hpos => hholds.columnName_eq hphase hpos, fun p hp hindex hcursor => ?_⟩
  obtain ⟨i, column, hi, -, hpoint⟩ := hpoints p hp
  obtain ⟨_, hread, -⟩ := Session.readHandle_eq hbackend p.2 later
  rw [hread, Store.readingOf, hindex, hi, hcursor]
  exact hholds.errorsIn_readingAt hpoint.pos hpoint.le p.2.field

/-! ## Pairs of persons, and a quoted name -/

/-- A number, and the columns of two persons. -/
def SelectBuilder.pairs : SelectBuilder :=
  ⟨.sql "SELECT 1, * FROM person, person", SelectBuilder.people.selection⟩

/-- The query of the pairs. -/
def Query.pairs : Query :=
  ⟨"SELECT 1, * FROM person, person", ⟨0⟩, SelectBuilder.people.selection.fields, none, 0, false⟩

/-- The statement of the pairs. -/
def Sql.Select.pairs : Select :=
  ⟨false, [.expr (constant 1), .allColumns], ["person", "person"], none, [], none⟩

/-- The store with the query of the pairs. -/
def Store.pairsQuery : Store Memory :=
  ⟨⟨Store.twoPeople.backend.database, #[⟨.select .pairs, [], false⟩], #[]⟩,
    #[], #[⟨some 2, none⟩, ⟨some 3, none⟩], #[some ⟨0⟩], #[]⟩

theorem wellTyped_twoPeople : Store.twoPeople.backend.database.WellTyped := by
  unfold Database.WellTyped
  decide

/-- The query is made, and it is executed. -/
theorem buildQuery_pairs :
    Session.plain.buildQuery .pairs false .twoPeople = (.ok .pairs, .pairsQuery) ∧
      ∃ opened, Session.plain.execute .pairs .pairsQuery = (.ok ⟨0⟩, opened) ∧
        Session.phase ⟨0⟩ (Session.plain.next ⟨0⟩ opened).2 = .onRow ∧
        (Session.plain.next ⟨0⟩ opened).2.slots = #[⟨some 2, some ⟨0⟩⟩, ⟨some 3, some ⟨0⟩⟩] :=
  ⟨by cbv, _, Prod.ext (by cbv) rfl, by cbv, by cbv⟩

/-- The handles are bound to the first columns of their names, behind the number, and on the first row they
read these. -/
theorem bound_columns_are_read_pairs :
    ∃ opened names, Session.plain.execute .pairs .pairsQuery = (.ok ⟨0⟩, opened) ∧
      Store.twoPeople.backend.database.resultColumns (.select .pairs) = .ok names ∧
      (∀ p ∈ Query.pairs.columns, ∃ i column, Store.pairsQuery.slots.index? p.2 = some i ∧
        Naming.plain.columnName p.1 = some column ∧ PointsAt names i column) ∧
      ∀ p ∈ Query.pairs.columns, ErrorsIn (·.isColumnRange = false)
        (Session.plain.readHandle p.2 (Session.plain.next ⟨0⟩ opened).2).1 := by
  obtain ⟨hmade, opened, hrun, hphase, hslots⟩ := buildQuery_pairs
  have hparse : parse Query.pairs.sql = .ok ⟨.select .pairs, 0⟩ := by cbv
  have hbackend : Session.plain.backend = Memory.backend := rfl
  obtain ⟨parsed, names, hparsed, hnames, hpoints, hexecuted⟩ :=
    bound_columns_are_read hbackend hmade (by decide) (by simp [SelectBuilder.pairs])
  obtain rfl := Except.ok.inj (hparse.symm.trans hparsed)
  obtain ⟨-, r, -, -, -, -, hread⟩ :=
    hexecuted .pairsQuery opened ⟨0⟩ .start wellTyped_twoPeople (fun _ _ _ _ => rfl) hrun
  obtain ⟨-, hcells⟩ := hread _ (.next .start) (by rw [hphase]; simp)
  refine ⟨opened, names, hrun, hnames, hpoints, fun p hp => hcells p hp ?_ ?_⟩
  · rw [hslots]
    revert p
    decide
  · rw [hslots]
    revert p
    decide

/-- The entity's own name as table, and the field's own name between quotes as column. -/
def Naming.quoting : Naming := ⟨(·.name), fun f => some ("\"" ++ f.name ++ "\"")⟩

/-- A session with quoted columns. -/
def Session.quoting : Session Memory := ⟨Memory.backend, .quoting, {}⟩

/-- The query of all persons with quoted columns. -/
def Query.quoted : Query :=
  { Query.people with sql := "SELECT person.\"id\", person.\"name\" FROM person" }

/-- The names of the persons can be read with quotes around their columns. -/
theorem readable_quoting : Naming.quoting.Readable SelectBuilder.people.selection.fieldsNamed := by
  have hperson : IsName "person" := (isName_of_tokenize (by cbv)).1
  have hid : IsName "\"id\"" := ⟨⟨"id", by cbv⟩, by cbv⟩
  have hname : IsName "\"name\"" := ⟨⟨"name", by cbv⟩, by cbv⟩
  intro f hf
  have hf : f = .personId ∨ f = .personName := by
    simpa [SelectBuilder.people, Selection.fieldsNamed, conditionFields] using hf
  rcases hf with rfl | rfl
  · exact ⟨hperson, fun _ h => Option.some.inj h ▸ hid⟩
  · exact ⟨hperson, fun _ h => Option.some.inj h ▸ hname⟩

/-- The query with quoted columns is made like the one without quotes, and it is executed. -/
theorem buildQuery_quoting :
    Session.quoting.buildQuery .people false .twoPeople = (.ok .quoted, .peopleQuery) ∧
      ∃ opened, Session.quoting.execute .quoted .peopleQuery = (.ok ⟨0⟩, opened) ∧
        ∃ c, opened.OpenOn ⟨0⟩ c ⟨0⟩
          (.ofResult ⟨["id", "name"], [[.integer 1, .string "Ada"], [.integer 2, .string "Bea"]]⟩) := by
  refine ⟨by cbv, _, Prod.ext (by cbv) rfl, ?_⟩
  exact ⟨⟨some ⟨0⟩, .unopened, 0, Query.people.columns, ⟨0⟩, false, Query.quoted.sql⟩,
    by cbv, rfl, by cbv, by simp, rfl⟩

/-- The result column that is bound to a quoted column has the name without the quotes. -/
theorem quoted_columns_lose_quotes :
    ¬ ∀ (naming : Naming) (config : Config) (b : SelectBuilder) (autoClose : Bool) (q : Query)
      (before built opened : Store Memory) (id : CursorId) (c : Cursor) (r : RowSetId) (rs : RowSet),
      let session : Session Memory := ⟨Memory.backend, naming, config⟩
      session.buildQuery b autoClose before = (.ok q, built) →
      (∀ p ∈ b.selection.fields, p.2.slot < before.slots.size) →
      (∀ e, b.source = .entity e →
        naming.Readable b.selection.fieldsNamed ∧ ∀ n ∈ b.selection.top, n < UInt64.size) →
      before.backend.database.WellTyped →
      session.execute q built = (.ok id, opened) → opened.OpenOn id c r rs →
      ∀ p ∈ q.columns, ∀ column, naming.columnName p.1 = some column →
        ∃ i name, built.slots.index? p.2 = some i ∧
          Memory.backend.columnName r i opened.backend = some name ∧
          Text.sameName name column = true := by
  intro h
  obtain ⟨hmade, opened, hrun, c, hopen⟩ := buildQuery_quoting
  obtain ⟨i, name, hi, hname, hsame⟩ := h .quoting {} .people false .quoted .twoPeople .peopleQuery opened
    ⟨0⟩ c ⟨0⟩ _ hmade (by decide) (fun _ _ => ⟨readable_quoting, by decide⟩) wellTyped_twoPeople hrun hopen
    _ List.mem_cons_self _ rfl
  obtain rfl : 1 = i := Option.some.inj hi
  have hfound : Memory.backend.columnName ⟨0⟩ 1 opened.backend = some "id" := by
    change (opened.backend.rowSets[0]?).bind (·.columnName 1) = _
    rw [hopen.rowSet]
    rfl
  obtain rfl : "id" = name := Option.some.inj (hfound.symm.trans hname)
  exact absurd hsame (by decide)

end EntityQuery
