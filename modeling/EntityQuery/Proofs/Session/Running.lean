import EntityQuery.Proofs.Request.ReadBack
import EntityQuery.Proofs.Session.Binding
import EntityQuery.Session.Request

/-!
# Running prepared statements

On the backend in memory, a request that runs comes down to its statement on the database:

* `StatementRef.Stands` says that the statement of a request is open, and what it does. Preparing brings
  it about (`Store.stands_preparing`), and whatever leaves no more than traces keeps it.
* `Session.execute_eq`: a query whose values can be had opens a cursor on the rows that its statement
  selects, or fails with the error of the statement.
* `Session.runWith_eq`: a mutation whose values can be had does what its statement does.
* A request whose values cannot be had fails before anything is looked at in the tables
  (`Session.execute_of_none`, `Session.runWith_of_unbound`).
-/

namespace EntityQuery

open Sql

/-! ## Open statements -/

/-- The statement behind a name is open, does this, and has so many parameters. -/
structure StatementRef.Stands (ref : StatementRef) (id : StatementId) (statement : Statement)
    (count : Nat) (store : Store Memory) : Prop where
  /-- the name is not given up -/
  opened : Session.open? ref store = some id
  /-- the backend has the statement -/
  prepared : ∃ p, store.backend.statements[id.number]? = some p ∧ p.closed = false ∧
    p.statement = statement ∧ p.parameters.length = count

theorem StatementRef.Stands.of_outline {ref : StatementRef} {id : StatementId}
    {statement : Statement} {count : Nat} {store store' : Store Memory}
    (h : ref.Stands id statement count store) (houtline : store'.outline = store.outline) :
    ref.Stands id statement count store' := by
  obtain ⟨p, hp, hopen, hstatement, hcount⟩ := h.prepared
  have hrefs := congrArg (fun store : Store Memory => store.statements) houtline
  have hblanks := congrArg (fun store : Store Memory => store.backend.statements) houtline
  have hblank := congrArg (·[id.number]?) hblanks
  simp only [Store.outline, Memory.outline, Array.getElem?_map, hp, Option.map_some] at hblank
  obtain ⟨p', hp', hsame⟩ := Option.map_eq_some_iff.1 hblank
  refine ⟨?_, p', hp', ?_, ?_, ?_⟩
  · have hopened := h.opened
    rw [Session.open?] at hopened ⊢
    exact hrefs ▸ hopened
  · exact (congrArg Prepared.closed hsame).trans hopen
  · exact (congrArg Prepared.statement hsame).trans hstatement
  · have hlength := congrArg (·.parameters.length) hsame
    simp only [Prepared.blank, List.length_map] at hlength
    exact hlength.trans hcount

theorem Session.opened_eq {σ : Type} (ref : StatementRef) (sql : String) (store : Store σ) :
    Session.opened ref sql store =
      (match open? ref store with
        | some id => .ok id
        | none => .error (.queryClosed sql), store) := by
  change (match open? ref store with
    | some id => pure id
    | none => throw (.queryClosed sql) : Step σ StatementId) store = _
  cases open? ref store <;> rfl

/-- What is not closed is open. -/
theorem Session.isSome_of_isClosed_eq {σ : Type} {ref : StatementRef} {store : Store σ}
    (h : isClosed ref store = false) : (open? ref store).isSome := by
  rw [isClosed] at h
  cases hopened : open? ref store with
  | none =>
    rw [hopened] at h
    cases h
  | some id => rfl

/-! ## Preparing -/

/-- The store with another prepared statement. -/
def Store.preparing (store : Store Memory) (p : Prepared) : Store Memory :=
  { store with
    backend := { store.backend with statements := store.backend.statements.push p }
    statements := store.statements.push (some ⟨store.backend.statements.size⟩) }

/-- Reading does not look at statements. -/
theorem Store.reading_preparing (store : Store Memory) (p : Prepared) :
    (store.preparing p).reading = store.reading := by
  funext a
  cases a <;> rfl

section Prepare

variable {session : Session Memory} (hbackend : session.backend = Memory.backend)
include hbackend

theorem Session.prepare_eq (sql : String) (store : Store Memory) :
    session.prepare sql store =
      match store.backend.database.prepare sql with
      | .error e => (.error (.prepare sql e), store)
      | .ok p => (.ok ⟨store.statements.size⟩, store.preparing p) := by
  have hcall : Step.ofCall (session.backend.prepare sql) store =
      match store.backend.database.prepare sql with
      | .error e => (.error e, store)
      | .ok p => (.ok ⟨store.backend.statements.size⟩,
        { store with
          backend := { store.backend with statements := store.backend.statements.push p } }) := by
    rw [hbackend]
    change ((Memory.prepare sql store.backend).1,
      { store with backend := (Memory.prepare sql store.backend).2 }) = _
    rw [Memory.prepare]
    cases store.backend.database.prepare sql <;> rfl
  have hadapt : ((Step.ofCall (session.backend.prepare sql)).adapt (QueryError.prepare sql)) store =
      _ := adapt_apply _ _ store
  rw [hcall] at hadapt
  cases hprepare : store.backend.database.prepare sql with
  | error e =>
    rw [hprepare] at hadapt
    exact bind_of_error hadapt
  | ok p =>
    rw [hprepare] at hadapt
    exact bind_of_ok hadapt

/-- What was prepared is what its text is parsed as, with no parameter set. -/
theorem Session.prepare_eq_ok {sql : String} {store made : Store Memory} {ref : StatementRef}
    (h : session.prepare sql store = (.ok ref, made)) :
    ∃ parsed, parse sql = .ok parsed ∧ ref = ⟨store.statements.size⟩ ∧
      made = store.preparing ⟨parsed.statement, List.replicate parsed.parameters none, false⟩ := by
  rw [prepare_eq hbackend] at h
  split at h
  · cases h
  · next p hp =>
    obtain ⟨parsed, hparsed, hp⟩ := ok_of_bind hp
    obtain ⟨-, -, hp⟩ := ok_of_bind hp
    obtain rfl := Except.ok.inj hp
    obtain ⟨href, rfl⟩ := Prod.mk.inj h
    exact ⟨parsed, ok_of_mapError hparsed, (Except.ok.inj href).symm, rfl⟩

end Prepare

/-- A statement that was prepared last stands. -/
theorem Store.stands_preparing (store : Store Memory) {p : Prepared} (hopen : p.closed = false) :
    StatementRef.Stands ⟨store.statements.size⟩ ⟨store.backend.statements.size⟩ p.statement
      p.parameters.length (store.preparing p) := by
  refine ⟨?_, p, Array.getElem?_push_size, hopen, rfl, rfl⟩
  change ((store.statements.push (some _))[store.statements.size]?).join = _
  rw [Array.getElem?_push_size]
  rfl

/-! ## Running a query -/

/-- A cell of an array in its own place. -/
theorem setIfInBounds_of_getElem? {α : Type} {xs : Array α} {i : Nat} {x : α} (h : xs[i]? = some x) :
    xs.setIfInBounds i x = xs := by
  apply Array.ext_getElem?
  intro j
  rw [Array.getElem?_setIfInBounds]
  split
  · next hj =>
    subst hj
    rw [h, if_pos (Array.getElem?_eq_some_iff.1 h).1]
  · rfl

/-- Looking at a statement changes nothing. -/
theorem Memory.onStatement_look {α : Type} (id : StatementId)
    (look : Database → Prepared → Except BackendError α) (m : Memory) :
    (onStatement id (fun db p => (look db p, db, p)) m).2 = m := by
  rw [onStatement]
  cases hp : m.statements[id.number]? with
  | none => rfl
  | some p => simp only [setIfInBounds_of_getElem? hp]

/-- What a statement selects. -/
def Memory.selected (m : Memory) (id : StatementId) : Except BackendError ResultSet :=
  match m.statements[id.number]? with
  | none => .error .closed
  | some p => p.select m.database

theorem Memory.query_eq (m : Memory) (id : StatementId) :
    Memory.query id m =
      match m.selected id with
      | .error e => (.error e, m)
      | .ok r => (.ok ⟨m.rowSets.size⟩, { m with rowSets := m.rowSets.push (.ofResult r) }) := by
  have hstatement : onStatement id (fun db p => (p.select db, db, p)) m = (m.selected id, m) := by
    refine Prod.ext ?_ (onStatement_look id (fun db p => p.select db) m)
    rw [onStatement, selected]
    cases m.statements[id.number]? <;> rfl
  cases hselected : m.selected id with
  | error e =>
    rw [hselected] at hstatement
    exact bind_of_error hstatement
  | ok r =>
    rw [hselected] at hstatement
    exact bind_of_ok hstatement

/-- The store with a cursor before the first row of a query. -/
def Store.opening (store : Store Memory) (q : Query) (r : ResultSet) : Store Memory :=
  { store with
    backend := { store.backend with rowSets := store.backend.rowSets.push (.ofResult r) }
    cursors := store.cursors.push ⟨some ⟨store.backend.rowSets.size⟩, .unopened, 0, q.columns,
      q.statement, q.autoClose, q.sql⟩
    slots := q.columns.foldl (fun slots (_, h) => slots.attach ⟨store.cursors.size⟩ h) store.slots }

namespace Session

section Failing

variable {σ : Type} {session : Session σ} {q : Query} {store : Store σ}

/-- A query whose statement is closed does not run. -/
theorem execute_of_closed (hclosed : open? q.statement store = none) :
    session.execute q store = (.error (.queryClosed q.sql), store) := by
  have hid : opened q.statement q.sql store = (.error (.queryClosed q.sql), store) := by
    rw [opened_eq, hclosed]
  exact bind_of_error hid

/-- A query whose values cannot be bound fails like their binding. -/
theorem execute_of_unbound {bound : Store σ} {id : StatementId} {e : QueryError}
    (hopened : open? q.statement store = some id)
    (hbind : (session.binder q.sql id).bind [] q.constraint q.parameterCount store = (.error e, bound)) :
    session.execute q store = (.error e, bound) := by
  have hid : opened q.statement q.sql store = (.ok id, store) := by rw [opened_eq, hopened]
  exact (bind_of_ok hid).trans (bind_of_error hbind)

end Failing

variable {session : Session Memory} (hbackend : session.backend = Memory.backend)
include hbackend

/-- Behind the binding of its values, a query does what its statement does. -/
theorem execute_of_bind {q : Query} {store bound : Store Memory} {id : StatementId} {n : Nat}
    (hopened : open? q.statement store = some id)
    (hbind : (session.binder q.sql id).bind [] q.constraint q.parameterCount store = (.ok n, bound)) :
    session.execute q store =
      match bound.backend.selected id with
      | .error e => (.error (.execution q.sql e), bound)
      | .ok r => (.ok ⟨bound.cursors.size⟩, bound.opening q r) := by
  have hid : opened q.statement q.sql store = (.ok id, store) := by rw [opened_eq, hopened]
  have hcall : ((Step.ofCall (session.backend.query id)).adapt (QueryError.execution q.sql)) bound =
      match bound.backend.selected id with
      | .error e => (.error (.execution q.sql e), bound)
      | .ok r => (.ok ⟨bound.backend.rowSets.size⟩, { bound with
          backend := { bound.backend with rowSets := bound.backend.rowSets.push (.ofResult r) } }) := by
    rw [adapt_apply, hbackend]
    change ((Memory.query id bound.backend).1.mapError _,
      { bound with backend := (Memory.query id bound.backend).2 }) = _
    rw [Memory.query_eq]
    cases bound.backend.selected id <;> rfl
  refine (bind_of_ok hid).trans ((bind_of_ok hbind).trans ?_)
  cases hselected : bound.backend.selected id with
  | error e =>
    rw [hselected] at hcall
    exact bind_of_error hcall
  | ok r =>
    rw [hselected] at hcall
    exact bind_of_ok hcall

/-- Running a query leaves no more than traces, or opens a cursor. -/
theorem execute_cases (q : Query) (store : Store Memory) :
    ∃ bound, bound.outline = store.outline ∧
      ((∃ e, session.execute q store = (.error e, bound)) ∨
        ∃ r, session.execute q store = (.ok ⟨store.cursors.size⟩, bound.opening q r)) := by
  cases hopened : open? q.statement store with
  | none => exact ⟨store, rfl, .inl ⟨_, execute_of_closed hopened⟩⟩
  | some id =>
    have hkeeps := Binder.keeps_bind q.sql id hbackend [] q.constraint
      q.parameterCount store
    rcases hbind : (session.binder q.sql id).bind [] q.constraint q.parameterCount store
      with ⟨e | n, bound⟩
    · rw [hbind] at hkeeps
      exact ⟨bound, hkeeps, .inl ⟨e, execute_of_unbound hopened hbind⟩⟩
    · rw [hbind] at hkeeps
      have hcursors : bound.cursors = store.cursors := congrArg (·.cursors) hkeeps
      have hrun := execute_of_bind hbackend hopened hbind
      refine ⟨bound, hkeeps, ?_⟩
      cases hselected : bound.backend.selected id with
      | error e =>
        rw [hselected] at hrun
        exact .inl ⟨_, hrun⟩
      | ok r =>
        rw [hselected, hcursors] at hrun
        exact .inr ⟨r, hrun⟩

end Session

theorem mapM_parameters (vs : List Value) (k : Nat) :
    ((vs.map some).zipIdx k).mapM (fun (v, i) =>
      match v with
      | some v => (.ok v : Except BackendError Value)
      | none => .error (.parameterUnset (i + 1))) = .ok vs := by
  induction vs generalizing k with
  | nil => rfl
  | cons v vs ih =>
    rw [List.map_cons, List.zipIdx_cons, List.mapM_cons, ih]
    rfl

/-- Parameters that are all set are bound. -/
theorem Prepared.bound_eq (statement : Statement) (vs : List Value) (closed : Bool) :
    (⟨statement, vs.map some, closed⟩ : Prepared).bound = .ok vs := mapM_parameters vs 0

theorem requestHanded_nil (value : Accessor → Option Value) (condition : Option Constraint) :
    requestHanded value [] condition = conditionHanded value condition := by
  change (do return [] ++ (← conditionHanded value condition)) = _
  cases conditionHanded value condition <;> rfl

namespace Session

variable {session : Session Memory} (hbackend : session.backend = Memory.backend)
include hbackend

section Query

variable {q : Query} {id : StatementId} {s : Select} {store after : Store Memory}

/-- A query whose values can be had selects with them. -/
theorem execute_eq {vs : List Value}
    (hstands : q.statement.Stands id (.select s) (conditionCount q.constraint) store)
    (hcount : q.parameterCount = conditionCount q.constraint)
    (hvalues : conditionHanded store.valueOf q.constraint = some vs) :
    ∃ bound, bound.outline = store.outline ∧ session.execute q store =
      match store.backend.database.select vs s with
      | .error e => (.error (.execution q.sql e), bound)
      | .ok r => (.ok ⟨store.cursors.size⟩, bound.opening q r) := by
  obtain ⟨p, hp, hopen, hstatement, hlength⟩ := hstands.prepared
  obtain ⟨n, bound, hbind, houtline, hp'⟩ := Binder.bind_eq_ok q.sql
    hbackend [] hp hopen (hlength.trans (Nat.zero_add _).symm) ((requestHanded_nil _ _).trans hvalues)
  rw [List.length_nil, Nat.zero_add, ← hcount] at hbind
  have hcursors : bound.cursors = store.cursors := congrArg (·.cursors) houtline
  -- all parameters are set now, whatever an earlier execution left in them
  have hselected : bound.backend.selected id = store.backend.database.select vs s := by
    rw [Memory.selected, hp', ← Store.database_of_outline houtline]
    simp only [Prepared.select, Prepared.bound_eq, hopen, hstatement]
    rfl
  have hrun := execute_of_bind hbackend hstands.opened hbind
  rw [hselected, hcursors] at hrun
  exact ⟨bound, houtline, hrun⟩

/-- A query whose values cannot be had fails, and not because of an expression. -/
theorem execute_of_none (hvalues : conditionHanded store.valueOf q.constraint = none) :
    ∃ e bound, session.execute q store = (.error e, bound) ∧ e.isEvaluation = false := by
  cases hopened : open? q.statement store with
  | none => exact ⟨_, store, execute_of_closed hopened, rfl⟩
  | some id =>
    rcases hbind : (session.binder q.sql id).bind [] q.constraint q.parameterCount store
      with ⟨e | n, bound⟩
    · exact ⟨e, bound, execute_of_unbound hopened hbind,
        Binder.evaluatesNothing_bind hbackend _ _ _ store e bound hbind⟩
    · have hsome := Binder.isSome_of_bind hbackend hbind
      rw [requestHanded_nil, hvalues] at hsome
      cases hsome

/-- A query that was run has selected with its values. -/
theorem execute_ok {cursor : CursorId}
    (hstands : q.statement.Stands id (.select s) (conditionCount q.constraint) store)
    (hcount : q.parameterCount = conditionCount q.constraint)
    (h : session.execute q store = (.ok cursor, after)) :
    ∃ vs r, ∃ bound : Store Memory, conditionHanded store.valueOf q.constraint = some vs ∧
      store.backend.database.select vs s = .ok r ∧ bound.outline = store.outline ∧
      cursor = ⟨store.cursors.size⟩ ∧ after = bound.opening q r := by
  cases hvalues : conditionHanded store.valueOf q.constraint with
  | none =>
    obtain ⟨e, bound, hrun, -⟩ := execute_of_none hbackend hvalues
    cases hrun.symm.trans h
  | some vs =>
    obtain ⟨bound, houtline, hrun⟩ := execute_eq hbackend hstands hcount hvalues
    cases hselect : store.backend.database.select vs s with
    | error e =>
      rw [hselect] at hrun
      cases hrun.symm.trans h
    | ok r =>
      rw [hselect] at hrun
      cases hrun.symm.trans h
      exact ⟨vs, r, bound, rfl, hselect, houtline, rfl, rfl⟩

/-- A query that failed because of an expression had its values. -/
theorem execute_evaluation {sql : String} {cause : EvalError}
    (hstands : q.statement.Stands id (.select s) (conditionCount q.constraint) store)
    (hcount : q.parameterCount = conditionCount q.constraint)
    (h : session.execute q store = (.error (.execution sql (.evaluation cause)), after)) :
    ∃ vs, conditionHanded store.valueOf q.constraint = some vs ∧
      store.backend.database.select vs s = .error (.evaluation cause) := by
  cases hvalues : conditionHanded store.valueOf q.constraint with
  | none =>
    obtain ⟨e, bound, hrun, he⟩ := execute_of_none hbackend hvalues
    cases hrun.symm.trans h
    cases he
  | some vs =>
    obtain ⟨bound, houtline, hrun⟩ := execute_eq hbackend hstands hcount hvalues
    cases hselect : store.backend.database.select vs s with
    | error e =>
      rw [hselect] at hrun
      cases hrun.symm.trans h
      exact ⟨vs, rfl, hselect⟩
    | ok r =>
      rw [hselect] at hrun
      cases hrun.symm.trans h

end Query

end Session

/-! ## Queries of selections -/

/-- The store holds a query of a selection: its statement is open, says what the selection says, and
has a parameter for each placeholder. -/
structure Query.Held (q : Query) (naming : Naming) (s : Selection) (store : Store Memory) :
    Prop where
  /-- the condition is bound anew in each execution -/
  condition : q.constraint = s.constraint
  /-- as many values are expected as there are placeholders -/
  count : q.parameterCount = conditionCount s.constraint
  /-- the result columns are those of the selected fields -/
  columns : q.columns = s.fields
  /-- the statement is open and prepared -/
  prepared : ∃ id p, Session.open? q.statement store = some id ∧
    store.backend.statements[id.number]? = some p ∧ p.closed = false ∧
    p.statement = s.image naming ∧ p.parameters.length = conditionCount s.constraint

namespace Query.Held

variable {q : Query} {naming : Naming} {s : Selection} {store store' : Store Memory}

theorem stands (h : q.Held naming s store) :
    ∃ id, q.statement.Stands id (s.image naming) (conditionCount s.constraint) store := by
  obtain ⟨id, p, hopened, hp⟩ := h.prepared
  exact ⟨id, hopened, p, hp⟩

/-- A query stays held as long as its statement stands. -/
theorem of_stands (h : q.Held naming s store) {id : StatementId}
    (hstands : q.statement.Stands id (s.image naming) (conditionCount s.constraint) store') :
    q.Held naming s store' := by
  obtain ⟨p, hp⟩ := hstands.prepared
  exact ⟨h.condition, h.count, h.columns, id, p, hstands.opened, hp⟩

/-- Feeding a cell does not end a query. -/
theorem feed (h : q.Held naming s store) (cell : CellId) (v : Value) :
    q.Held naming s (store.feed cell v) :=
  ⟨h.condition, h.count, h.columns, h.prepared⟩

/-- Opening a cursor does not end a query. -/
theorem opening (h : q.Held naming s store) (houtline : store'.outline = store.outline)
    (r : ResultSet) : q.Held naming s (store'.opening q r) := by
  obtain ⟨id, hstands⟩ := h.stands
  have hstands' := hstands.of_outline houtline
  exact h.of_stands ⟨hstands'.opened, hstands'.prepared⟩

end Query.Held

/-- Tables and fed cells are the same in both stores. -/
structure Store.SameData (store store' : Store Memory) : Prop where
  /-- the tables have their rows -/
  database : store'.backend.database = store.backend.database
  /-- the cells have their values -/
  cells : store'.cells = store.cells

theorem Store.sameData_opening {store bound : Store Memory} (houtline : bound.outline = store.outline)
    (q : Query) (r : ResultSet) : store.SameData (bound.opening q r) := by
  have hdatabase := database_of_outline houtline
  exact ⟨hdatabase, (congrArg (·.cells) houtline :)⟩

/-- A cursor before its first row. It reads the rows to come under the handles of these columns. -/
def Store.Shows (store : Store Memory) (id : CursorId) (columns : List (Field × ColumnHandle))
    (rows : List Row) : Prop :=
  ∃ c r names, store.cursors[id.number]? = some c ∧ c.phase = .unopened ∧ c.columns = columns ∧
    c.rows = some r ∧ store.backend.rowSets[r.number]? = some ⟨names, none, rows, false, false⟩

theorem Store.shows_opening (store : Store Memory) (q : Query) (r : ResultSet) :
    (store.opening q r).Shows ⟨store.cursors.size⟩ q.columns r.rows :=
  ⟨_, _, r.columns, Array.getElem?_push_size, rfl, rfl, rfl, Array.getElem?_push_size⟩

/-- A cursor shows one list of rows. -/
theorem Store.Shows.rows_eq {store : Store Memory} {id : CursorId}
    {columns columns' : List (Field × ColumnHandle)} {rows rows' : List Row}
    (h : store.Shows id columns rows) (h' : store.Shows id columns' rows') : rows = rows' := by
  obtain ⟨c, r, names, hc, -, -, hr, hrows⟩ := h
  obtain ⟨c', r', names', hc', -, -, hr', hrows'⟩ := h'
  obtain rfl := Option.some.inj (hc.symm.trans hc')
  obtain rfl := Option.some.inj (hr.symm.trans hr')
  exact congrArg RowSet.rest (Option.some.inj (hrows.symm.trans hrows'))

/-! ## Running a mutation -/

/-- The store with another database. -/
def Store.withDatabase (store : Store Memory) (db : Database) : Store Memory :=
  { store with backend := { store.backend with database := db } }

theorem Memory.mutate_eq {m : Memory} {id : StatementId} {p : Prepared}
    (hp : m.statements[id.number]? = some p) :
    Memory.mutate id m = ((p.mutate m.database).1, { m with database := (p.mutate m.database).2 }) := by
  rw [mutate, onStatement, hp]
  simp only [setIfInBounds_of_getElem? hp]

namespace Session

section Mutation

variable {session : Session Memory} {r : MutationRequest} {values : Assignments} {id : StatementId}
  {store bound : Store Memory}

theorem runWith_of_closed (hclosed : open? r.statement store = none) :
    session.runWith r values store = (.error (.queryClosed r.compiled.sql), store) := by
  have hid : opened r.statement r.compiled.sql store = (.error (.queryClosed r.compiled.sql), store) := by
    rw [opened_eq, hclosed]
  exact bind_of_error hid

variable (hopened : open? r.statement store = some id)
include hopened

/-- A mutation whose values cannot be bound fails like their binding. -/
theorem runWith_of_unbound {e : QueryError}
    (hbind : (session.binder r.compiled.sql id).bind values r.compiled.constraint
      r.compiled.parameterCount store = (.error e, bound)) :
    session.runWith r values store = (.error e, bound) := by
  have hid : opened r.statement r.compiled.sql store = (.ok id, store) := by rw [opened_eq, hopened]
  exact (bind_of_ok hid).trans (bind_of_error hbind)

/-- Behind the binding of its values, a mutation does what its statement does. -/
theorem runWith_of_bind (hbackend : session.backend = Memory.backend) {n : Nat} {p : Prepared}
    (hbind : (session.binder r.compiled.sql id).bind values r.compiled.constraint
      r.compiled.parameterCount store = (.ok n, bound))
    (hp : bound.backend.statements[id.number]? = some p) :
    session.runWith r values store =
      ((p.mutate bound.backend.database).1.mapError (.execution r.compiled.sql),
        bound.withDatabase (p.mutate bound.backend.database).2) := by
  have hid : opened r.statement r.compiled.sql store = (.ok id, store) := by rw [opened_eq, hopened]
  refine (bind_of_ok hid).trans ((bind_of_ok hbind).trans ?_)
  rw [adapt_apply, hbackend]
  change ((Memory.mutate id bound.backend).1.mapError _,
    { bound with backend := (Memory.mutate id bound.backend).2 }) = _
  rw [Memory.mutate_eq hp]
  rfl

/-- A mutation whose statement the backend does not have fails behind the binding of its values. -/
theorem runWith_of_missing (hbackend : session.backend = Memory.backend) {n : Nat}
    (hbind : (session.binder r.compiled.sql id).bind values r.compiled.constraint
      r.compiled.parameterCount store = (.ok n, bound))
    (hp : bound.backend.statements[id.number]? = none) :
    session.runWith r values store = (.error (.execution r.compiled.sql .closed), bound) := by
  have hid : opened r.statement r.compiled.sql store = (.ok id, store) := by rw [opened_eq, hopened]
  refine (bind_of_ok hid).trans ((bind_of_ok hbind).trans ?_)
  have hmutate : Memory.mutate id bound.backend = (.error .closed, bound.backend) := by
    rw [Memory.mutate, Memory.onStatement, hp]
  rw [adapt_apply, hbackend]
  change ((Memory.mutate id bound.backend).1.mapError _,
    { bound with backend := (Memory.mutate id bound.backend).2 }) = _
  rw [hmutate]
  rfl

end Mutation

/-- A mutation whose values can be had does what its statement does with them. -/
theorem runWith_eq {session : Session Memory} (hbackend : session.backend = Memory.backend)
    {r : MutationRequest} (values : Assignments) {id : StatementId} {statement : Statement}
    {store : Store Memory} {vs : List Value}
    (hstands : r.statement.Stands id statement
      (values.length + conditionCount r.compiled.constraint) store)
    (hcount : r.compiled.parameterCount = values.length + conditionCount r.compiled.constraint)
    (hvalues : requestHanded store.valueOf values r.compiled.constraint = some vs) :
    ∃ bound : Store Memory, bound.outline = store.outline ∧ session.runWith r values store =
      ((store.backend.database.mutate vs statement).1.mapError (.execution r.compiled.sql),
        bound.withDatabase (store.backend.database.mutate vs statement).2) := by
  obtain ⟨p, hp, hopen, hstatement, hlength⟩ := hstands.prepared
  obtain ⟨n, bound, hbind, houtline, hp'⟩ :=
    Binder.bind_eq_ok r.compiled.sql hbackend values hp hopen hlength hvalues
  rw [← hcount] at hbind
  have hmutate : ({ p with parameters := vs.map some } : Prepared).mutate bound.backend.database =
      store.backend.database.mutate vs statement := by
    rw [← Store.database_of_outline houtline]
    simp only [Prepared.mutate, Prepared.bound_eq, hopen, hstatement]
    rfl
  exact ⟨bound, houtline, hmutate ▸ runWith_of_bind hstands.opened hbackend hbind hp'⟩

/-! ## Inserting a row -/

section Row

variable {σ : Type} {session : Session σ} {row : List (Field × Value)} {bulk : BulkRequest}
  {store : Store σ}

/-- Counting rows changes the count alone. -/
theorem countInserted_eq (step : BulkRequest → Step σ Nat) (bulk : BulkRequest) (store : Store σ) :
    ∃ k, countInserted step (bulk, store) =
      ((step bulk store).1, { bulk with inserted := k }, (step bulk store).2) := by
  rw [countInserted]
  rcases step bulk store with ⟨e | count, after⟩
  · exact ⟨bulk.inserted, rfl⟩
  · exact ⟨bulk.inserted + count, rfl⟩

/-- A row whose values do not fit is refused before anything else. -/
theorem insertRow_of_refused {e : QueryError}
    (h : overrideValues bulk.request.compiled.values row = .error e) :
    session.insertRow row (bulk, store) = (.error e, bulk, store) := by
  have hrefused : Step.ofExcept (overrideValues bulk.request.compiled.values row) store =
      (.error e, store) := congrArg (·, store) h
  have hstep : (do
      let values ← Step.ofExcept (overrideValues bulk.request.compiled.values row)
      session.runWith bulk.request values : Step σ Nat) store = (.error e, store) :=
    bind_of_error hrefused
  rw [insertRow, countInserted, hstep]

/-- A row whose values fit is inserted with them. -/
theorem insertRow_of_taken {values : Assignments}
    (h : overrideValues bulk.request.compiled.values row = .ok values) :
    session.insertRow row (bulk, store) =
      countInserted (fun bulk => session.runWith bulk.request values) (bulk, store) := by
  have htaken : Step.ofExcept (overrideValues bulk.request.compiled.values row) store =
      (.ok values, store) := congrArg (·, store) h
  have hstep : (do
      let values ← Step.ofExcept (overrideValues bulk.request.compiled.values row)
      session.runWith bulk.request values : Step σ Nat) store = session.runWith bulk.request values store :=
    bind_of_ok htaken
  rw [insertRow, countInserted, countInserted, hstep]

end Row

end Session

end EntityQuery
