import EntityQuery.Proofs.Session.Twins

/-!
# Requests that run again

What a statement keeps from earlier runs cannot be seen. A new statement is clean, and every run keeps it
clean, one that fails half-way too. So it is a twin of any statement of its text that is prepared later,
and both run alike.

* `StatementRef.Clean.twins`: a clean statement and a new one of its text are twins;
* `StatementRef.History` is any history of a request: its runs, and all that leaves its statement alone;
* `StatementRef.History.clean`: what its runs keep clean, is clean after any history;
* `prepared_requests_repeat`: after any history, a request does what a new one would do.
-/

namespace EntityQuery

open Sql

/-! ## New requests -/

section Preparing

variable {session : Session Memory} (hbackend : session.backend = Memory.backend)
  {sql : String} {n : Nat} {store made : Store Memory} {ref : StatementRef}
include hbackend

/-- A new statement is open and clean. -/
theorem StatementRef.clean_prepare (h : session.prepare sql store = (.ok ref, made)) :
    ref.Clean sql n made ∧ (Session.open? ref made).isSome := by
  obtain ⟨parsed, hparse, rfl, rfl⟩ := Session.prepare_eq_ok hbackend h
  have hopened := (store.stands_preparing
    (p := ⟨parsed.statement, List.replicate parsed.parameters none, false⟩) rfl).opened
  refine ⟨fun id hid => ?_, by rw [hopened]; rfl⟩
  obtain rfl := Option.some.inj (hopened.symm.trans hid)
  refine ⟨_, parsed, Array.getElem?_push_size, hparse, rfl, rfl, List.length_replicate, fun v hv => ?_⟩
  exact List.eq_of_mem_replicate (List.mem_of_mem_drop hv)

/-- A clean statement and a new one of its text are twins. -/
theorem StatementRef.Clean.twins (h : ref.Clean sql n store) (hopened : (Session.open? ref store).isSome)
    {fresh : StatementRef} (hprepare : session.prepare sql store = (.ok fresh, made)) :
    ref.Twins fresh sql n store made := by
  obtain ⟨hclean, hfresh⟩ := StatementRef.clean_prepare hbackend (n := n) hprepare
  obtain ⟨parsed, -, -, rfl⟩ := Session.prepare_eq_ok hbackend hprepare
  exact ⟨h, hclean, hopened, hfresh, rfl⟩

/-- Asking for the columns of a statement leaves it alone. -/
theorem Session.keeps_resultColumns (id : StatementId) (f : BackendError → QueryError) :
    Keeps Store.held ((Step.ofCall (session.backend.resultColumns id)).adapt f) := by
  refine Keeps.adapt (fun store => ?_) f
  rw [hbackend]
  change (store.statements, (Memory.onStatement id (fun db p => (db.resultColumns p.statement, db, p))
    store.backend).2.statements) = _
  rw [Memory.onStatement_look]
  rfl

/-- The statement of a new query is clean. -/
theorem StatementRef.clean_buildQuery {b : SelectBuilder} {autoClose : Bool} {q : Query}
    (h : session.buildQuery b autoClose store = (.ok q, made)) : q.statement.Clean q.sql n made := by
  rw [Session.buildQuery] at h
  cases hsource : b.source with
  | entity e =>
    rw [hsource] at h
    obtain ⟨compiled, compiledStore, -, h⟩ := bind_eq_ok h
    obtain ⟨ref, preparedStore, hprepare, h⟩ := bind_eq_ok h
    cases h
    exact (clean_prepare hbackend hprepare).1
  | sql text =>
    rw [hsource] at h
    dsimp only at h
    rw [Session.writtenQuery] at h
    split at h
    · cases h
    · dsimp only at h
      obtain ⟨ref, preparedStore, hprepare, h⟩ := bind_eq_ok h
      -- behind its preparation, the statement is only asked for its columns
      obtain ⟨id, s₁, hid, h⟩ := bind_eq_ok h
      obtain ⟨names, s₂, hnames, h⟩ := bind_eq_ok h
      obtain ⟨slots, s₃, hslots, h⟩ := bind_eq_ok h
      obtain ⟨columns, s₄, hmatched, h⟩ := bind_eq_ok h
      obtain ⟨u, s₅, hassign, h⟩ := bind_eq_ok h
      cases h
      have hopened : preparedStore = s₁ :=
        congrArg Prod.snd ((Session.opened_eq ref text preparedStore).symm.trans hid)
      have hcolumns : s₂.held = s₁.held := by
        have hkeeps := Session.keeps_resultColumns hbackend id (QueryError.prepare text) s₁
        rwa [hnames] at hkeeps
      have hget : s₂ = s₃ := congrArg Prod.snd hslots
      have hmatched : s₃ = s₄ := congrArg Prod.snd hmatched
      have hassigned : made.held = s₄.held :=
        (congrArg (fun ran : Except QueryError Unit × Store Memory => ran.2.held) hassign).symm
      have hheld : made.held = preparedStore.held := by
        rw [hassigned, ← hmatched, ← hget, hcolumns, hopened]
      exact (clean_prepare hbackend hprepare).1.left (left_of_held hheld)

end Preparing

/-! ## Histories -/

/-- Any history of a request: it runs, and the others leave its statement alone. -/
inductive StatementRef.History (ref : StatementRef) (runs : Store Memory → Store Memory → Prop)
    (start : Store Memory) : Store Memory → Prop where
  /-- nothing has happened -/
  | start : ref.History runs start start
  /-- the request runs -/
  | run {store after : Store Memory} (h : ref.History runs start store) (hrun : runs store after) :
    ref.History runs start after
  /-- something else happens -/
  | other {store after : Store Memory} (h : ref.History runs start store)
    (hleft : ref.Left store after) : ref.History runs start after

/-- A statement is clean after any history if the runs keep it clean. -/
theorem StatementRef.History.clean {ref : StatementRef} {runs : Store Memory → Store Memory → Prop}
    {sql : String} {n : Nat} {start store : Store Memory} (h : ref.History runs start store)
    (hruns : ∀ store after, ref.Clean sql n store → runs store after → ref.Clean sql n after)
    (hstart : ref.Clean sql n start) : ref.Clean sql n store := by
  induction h with
  | start => exact hstart
  | run _ hrun ih => exact hruns _ _ ih hrun
  | other _ hleft ih => exact ih.left hleft

namespace Session

/-- A query is run: it opens a cursor, or fails. -/
def Executes (session : Session Memory) (q : Query) (store after : Store Memory) : Prop :=
  after = (session.execute q store).2

/-- A mutation is run, by itself or in a bulk request. -/
inductive Runs (session : Session Memory) (r : MutationRequest) : Store Memory → Store Memory → Prop where
  /-- it runs with its own values -/
  | run (store : Store Memory) : Runs session r store (session.run r store).2
  /-- a row of the defaults is inserted -/
  | bulk (k : Nat) (store : Store Memory) : Runs session r store (session.runBulk (⟨r, k⟩, store)).2.2
  /-- a row with values of its own is inserted -/
  | row (values : List (Field × Value)) (k : Nat) (store : Store Memory) :
    Runs session r store (session.insertRow values (⟨r, k⟩, store)).2.2
  /-- rows are inserted up to the first that fails -/
  | rows (rows : List (List (Field × Value))) (k : Nat) (store : Store Memory) :
    Runs session r store (session.insertRows rows (⟨r, k⟩, store)).2.2

end Session

section Histories

variable {session : Session Memory} (hbackend : session.backend = Memory.backend)
  {store after : Store Memory}
include hbackend

/-- A query stays clean, however it runs. -/
theorem Session.Executes.clean {q : Query}
    (hclean : q.statement.Clean q.sql (conditionCount q.constraint) store)
    (h : session.Executes q store after) :
    q.statement.Clean q.sql (conditionCount q.constraint) after := by
  rw [h]
  cases hopened : open? q.statement store with
  | none =>
    rw [execute_of_closed hopened]
    exact hclean
  | some id =>
    obtain ⟨_, after, _, hrun, -, htwins, -⟩ :=
      (StatementRef.Twins.refl hclean (by rw [hopened]; rfl)).execute hbackend
    rw [hrun]
    exact htwins.clean

/-- The statement of a mutation, clean up to the values that it sets. -/
abbrev MutationRequest.Clean (r : MutationRequest) (store : Store Memory) : Prop :=
  r.statement.Clean r.compiled.sql (r.compiled.values.length + conditionCount r.compiled.constraint) store

namespace MutationRequest.Clean

variable {r : MutationRequest} (hclean : r.Clean store)
include hclean

theorem runWith {values : Assignments} (hlength : values.length = r.compiled.values.length) :
    r.Clean (session.runWith r values store).2 := by
  cases hopened : Session.open? r.statement store with
  | none =>
    rw [Session.runWith_of_closed hopened]
    exact hclean
  | some id =>
    rw [MutationRequest.Clean, ← hlength] at hclean
    obtain ⟨_, after, _, hrun, -, htwins⟩ :=
      (StatementRef.Twins.refl hclean (by rw [hopened]; rfl)).runWith hbackend
    rw [hrun, MutationRequest.Clean, ← hlength]
    exact htwins.clean

theorem runBulk (k : Nat) :
    ∃ result k' after, session.runBulk (⟨r, k⟩, store) = (result, ⟨r, k'⟩, after) ∧ r.Clean after := by
  obtain ⟨k', hcount⟩ :=
    Session.countInserted_eq (fun bulk => session.run bulk.request) ⟨r, k⟩ store
  exact ⟨_, k', _, hcount, hclean.runWith hbackend rfl⟩

theorem insertRow (row : List (Field × Value)) (k : Nat) :
    ∃ result k' after, session.insertRow row (⟨r, k⟩, store) = (result, ⟨r, k'⟩, after) ∧
      r.Clean after := by
  cases hvalues : overrideValues r.compiled.values row with
  | error e => exact ⟨_, k, store, Session.insertRow_of_refused hvalues, hclean⟩
  | ok values =>
    have hlength := length_of_overrideValues hvalues
    obtain ⟨k', hcount⟩ :=
      Session.countInserted_eq (fun bulk => session.runWith bulk.request values) ⟨r, k⟩ store
    exact ⟨_, k', _, (Session.insertRow_of_taken hvalues).trans hcount,
      hclean.runWith hbackend hlength⟩

omit hclean in
theorem insertRows (hclean : r.Clean store) (rows : List (List (Field × Value))) (k : Nat) :
    ∃ result k' after, session.insertRows rows (⟨r, k⟩, store) = (result, ⟨r, k'⟩, after) ∧
      r.Clean after := by
  induction rows generalizing store k with
  | nil => exact ⟨_, k, store, rfl, hclean⟩
  | cons row rows ih =>
    obtain ⟨result, k₁, after, hrow, hafter⟩ := hclean.insertRow hbackend row k
    cases result with
    | error e => exact ⟨_, k₁, after, bind_of_error hrow, hafter⟩
    | ok count =>
      obtain ⟨result, k₂, done, hrows, hdone⟩ := ih hafter k₁
      cases result with
      | error e => exact ⟨_, k₂, done, (bind_of_ok hrow).trans (bind_of_error hrows), hdone⟩
      | ok others => exact ⟨_, k₂, done, (bind_of_ok hrow).trans (bind_of_ok hrows), hdone⟩

end MutationRequest.Clean

omit hbackend in
/-- A mutation is prepared as a statement of its text. -/
theorem Session.prepareMutation_eq_ok {m : CompiledMutation} {r : MutationRequest}
    (h : session.prepareMutation m store = (.ok r, after)) :
    r.compiled = m ∧ session.prepare m.sql store = (.ok r.statement, after) := by
  obtain ⟨ref, made, hprepare, h⟩ := bind_eq_ok h
  cases h
  exact ⟨rfl, hprepare⟩

/-- A mutation stays clean, however it runs. -/
theorem Session.Runs.clean {r : MutationRequest} (hclean : r.Clean store)
    (h : session.Runs r store after) : r.Clean after := by
  cases h with
  | run => exact hclean.runWith hbackend rfl
  | bulk k =>
    obtain ⟨_, _, _, hrun, hafter⟩ := hclean.runBulk hbackend k
    rw [hrun]
    exact hafter
  | row values k =>
    obtain ⟨_, _, _, hrun, hafter⟩ := hclean.insertRow hbackend values k
    rw [hrun]
    exact hafter
  | rows rows k =>
    obtain ⟨_, _, _, hrun, hafter⟩ := hclean.insertRows hbackend rows k
    rw [hrun]
    exact hafter

/-- A prepared mutation is clean after any history. -/
theorem MutationRequest.clean_of_history {r : MutationRequest} {before start : Store Memory}
    (hmade : session.prepareMutation r.compiled before = (.ok r, start))
    (hhistory : r.statement.History (session.Runs r) start store) : r.Clean store :=
  hhistory.clean (fun _ _ hclean hrun => hrun.clean hbackend hclean)
    (StatementRef.clean_prepare hbackend (Session.prepareMutation_eq_ok hmade).2).1

end Histories

/-! ## Requests that run again -/

/-- What was prepared does the same as what is prepared now.

Take a query or a mutation that was made, any history of it, and another request of its text that is
prepared behind this history. As long as the first is open, a run of either has the same result, a run
of a bulk request counts the same rows, and behind the run the stores look the same: their tables, cells,
and handles, and the cursors with their rows. -/
theorem prepared_requests_repeat {session : Session Memory} (hbackend : session.backend = Memory.backend)
    {before start store prepared : Store Memory} :
    (∀ b autoClose q ref, session.buildQuery b autoClose before = (.ok q, start) →
      q.statement.History (session.Executes q) start store →
      Session.isClosed q.statement store = false →
      session.prepare q.sql store = (.ok ref, prepared) →
      ∃ result after after', session.execute q store = (result, after) ∧
        session.execute { q with statement := ref } prepared = (result, after') ∧
        after'.visible = after.visible ∧
        ∀ id, result = .ok id →
          ∃ rows, after.Shows id q.columns rows ∧ after'.Shows id q.columns rows) ∧
    (∀ m r fresh, session.prepareMutation m before = (.ok r, start) →
      r.statement.History (session.Runs r) start store →
      Session.isClosed r.statement store = false →
      session.prepareMutation m store = (.ok fresh, prepared) →
      (∃ result after after', session.run r store = (result, after) ∧
        session.run fresh prepared = (result, after') ∧ after'.visible = after.visible) ∧
      ∀ k, (∃ result k' after after', session.runBulk (⟨r, k⟩, store) = (result, ⟨r, k'⟩, after) ∧
          session.runBulk (⟨fresh, k⟩, prepared) = (result, ⟨fresh, k'⟩, after') ∧
          after'.visible = after.visible) ∧
        (∀ row, ∃ result k' after after',
          session.insertRow row (⟨r, k⟩, store) = (result, ⟨r, k'⟩, after) ∧
          session.insertRow row (⟨fresh, k⟩, prepared) = (result, ⟨fresh, k'⟩, after') ∧
          after'.visible = after.visible) ∧
        ∀ rows, ∃ result k' after after',
          session.insertRows rows (⟨r, k⟩, store) = (result, ⟨r, k'⟩, after) ∧
          session.insertRows rows (⟨fresh, k⟩, prepared) = (result, ⟨fresh, k'⟩, after') ∧
          after'.visible = after.visible) := by
  refine ⟨fun b autoClose q ref hmade hhistory hopen hprepare => ?_,
    fun m r fresh hmade hhistory hopen hprepare => ?_⟩
  · have hclean := hhistory.clean (fun _ _ hclean hrun => hrun.clean hbackend hclean)
      (StatementRef.clean_buildQuery hbackend hmade)
    obtain ⟨result, after, after', hrun, hrun', htwins, hrows⟩ :=
      (hclean.twins hbackend (Session.isSome_of_isClosed_eq hopen) hprepare).execute hbackend
    exact ⟨result, after, after', hrun, hrun', htwins.visible, hrows⟩
  · obtain ⟨rfl, -⟩ := Session.prepareMutation_eq_ok hmade
    have hclean := MutationRequest.clean_of_history hbackend hmade hhistory
    obtain ⟨compiled, ref⟩ := fresh
    obtain ⟨rfl, hprepare⟩ := Session.prepareMutation_eq_ok hprepare
    have htwins : r.Twins ref store prepared :=
      hclean.twins hbackend (Session.isSome_of_isClosed_eq hopen) hprepare
    refine ⟨?_, fun k => ⟨?_, fun row => ?_, fun rows => ?_⟩⟩
    · obtain ⟨result, after, after', hrun, hrun', halike⟩ := StatementRef.Twins.runWith hbackend htwins
      exact ⟨result, after, after', hrun, hrun', halike.visible⟩
    · exact (htwins.runBulk hbackend k).visible
    · exact (htwins.insertRow hbackend k row).visible
    · exact (MutationRequest.Twins.insertRows hbackend k htwins rows).visible

/-! ## A person that is given by and by -/

/-- A person of a number and a name, both of them fed. -/
def Constraint.given : Constraint :=
  .and (.compare .equal (.field .personId) (.accessor .personId (.fed ⟨0⟩)))
    (.compare .equal (.field .personName) (.accessor .personName (.fed ⟨1⟩)))

/-- The same as an expression. -/
def Sql.Expr.given : Expr :=
  .and (.compare .equal (.qualified "person" "id") (.parameter 1))
    (.compare .equal (.qualified "person" "name") (.parameter 2))

/-- The person that is given. -/
def SelectBuilder.given : SelectBuilder :=
  { SelectBuilder.people with selection.constraint := some .given }

/-- The query of the person that is given. -/
def Query.given : Query :=
  ⟨"SELECT person.id, person.name FROM person WHERE (person.id = ? AND person.name = ?)", ⟨0⟩,
    SelectBuilder.people.selection.fields, some .given, 2, false⟩

/-- The removal of the person that is given. -/
def MutationRequest.given : MutationRequest := ⟨deleteWritten .plain .person (some .given), ⟨0⟩⟩

/-- A session with plain names. -/
def Session.plain : Session Memory := ⟨Memory.backend, .plain, {}⟩

/-- Two persons, a statement, a number that was fed, and a name. -/
def Store.giving (statement : Statement) (parameters : List (Option Value)) (slots : Slots) (name : Value) :
    Store Memory :=
  ⟨⟨Store.twoPeople.backend.database, #[⟨statement, parameters, false⟩], #[]⟩, #[.integer 1, name], slots,
    #[some ⟨0⟩], #[]⟩

/-- The store with the query, and the parameters that are set. -/
def Store.givingQuery (parameters : List (Option Value)) (name : Value) : Store Memory :=
  .giving (.select ⟨false, [.expr (.qualified "person" "id"), .expr (.qualified "person" "name")],
    ["person"], some .given, [], none⟩) parameters #[⟨some 1, none⟩, ⟨some 2, none⟩] name

/-- The store with the removal, and the parameters that are set. -/
def Store.givingRemoval (parameters : List (Option Value)) (name : Value) : Store Memory :=
  .giving (.delete ⟨"person", some .given⟩) parameters Store.twoPeople.slots name

/-- The query is made, and its text can be prepared again. -/
theorem buildQuery_given :
    Session.plain.buildQuery .given false { Store.twoPeople with cells := #[.integer 1, .null] } =
        (.ok .given, .givingQuery [none, none] .null) ∧
      ∃ prepared, Session.plain.prepare Query.given.sql
        (.givingQuery [some (.integer 1), none] (.string "Ada")) = (.ok ⟨1⟩, prepared) :=
  ⟨by cbv, _, Prod.ext (by cbv) rfl⟩

/-- The removal is prepared, and can be prepared again. -/
theorem prepareMutation_given :
    Session.plain.prepareMutation MutationRequest.given.compiled
        { Store.twoPeople with cells := #[.integer 1, .null] } =
        (.ok .given, .givingRemoval [none, none] .null) ∧
      ∃ prepared, Session.plain.prepareMutation MutationRequest.given.compiled
        (.givingRemoval [some (.integer 1), none] (.string "Ada")) =
          (.ok { MutationRequest.given with statement := ⟨1⟩ }, prepared) :=
  ⟨by cbv, _, Prod.ext (by cbv) rfl⟩

/-- Both fail behind the number, as the name is not given, and do what new ones do when it is. -/
theorem prepared_requests_repeat_given :
    (Session.plain.execute .given (.givingQuery [none, none] .null) =
        (.error (.nullLiteral "person.name"), .givingQuery [some (.integer 1), none] .null) ∧
      ∃ prepared after after',
        Session.plain.prepare Query.given.sql (.givingQuery [some (.integer 1), none] (.string "Ada")) =
          (.ok ⟨1⟩, prepared) ∧
        Session.plain.execute .given (.givingQuery [some (.integer 1), none] (.string "Ada")) =
          (.ok ⟨0⟩, after) ∧
        Session.plain.execute { Query.given with statement := ⟨1⟩ } prepared = (.ok ⟨0⟩, after') ∧
        ∃ rows, after.Shows ⟨0⟩ Query.given.columns rows ∧ after'.Shows ⟨0⟩ Query.given.columns rows) ∧
    Session.plain.run .given (.givingRemoval [none, none] .null) =
        (.error (.nullLiteral "person.name"), .givingRemoval [some (.integer 1), none] .null) ∧
      ∃ prepared after after',
        Session.plain.prepareMutation MutationRequest.given.compiled
          (.givingRemoval [some (.integer 1), none] (.string "Ada")) =
            (.ok { MutationRequest.given with statement := ⟨1⟩ }, prepared) ∧
        Session.plain.run .given (.givingRemoval [some (.integer 1), none] (.string "Ada")) =
          (.ok 1, after) ∧
        Session.plain.run { MutationRequest.given with statement := ⟨1⟩ } prepared = (.ok 1, after') ∧
        after'.visible = after.visible := by
  have hbackend : Session.plain.backend = Memory.backend := rfl
  constructor
  · obtain ⟨hmade, prepared, hprepare⟩ := buildQuery_given
    have hfails : Session.plain.execute .given (.givingQuery [none, none] .null) =
        (.error (.nullLiteral "person.name"), .givingQuery [some (.integer 1), none] .null) := by rfl
    have hhistory : Query.given.statement.History (Session.plain.Executes .given)
        (.givingQuery [none, none] .null) (.givingQuery [some (.integer 1), none] (.string "Ada")) :=
      .other (.run .start (congrArg Prod.snd hfails).symm)
        (StatementRef.left_feed _ _ ⟨1⟩ (.string "Ada"))
    obtain ⟨result, after, after', hrun, hrun', -, hrows⟩ :=
      (prepared_requests_repeat hbackend).1 .given false .given ⟨1⟩ hmade hhistory rfl hprepare
    obtain rfl : result = .ok ⟨0⟩ := (congrArg Prod.fst hrun).symm.trans rfl
    exact ⟨hfails, prepared, after, after', hprepare, hrun, hrun', hrows ⟨0⟩ rfl⟩
  · obtain ⟨hmade, prepared, hprepare⟩ := prepareMutation_given
    have hfails : Session.plain.run .given (.givingRemoval [none, none] .null) =
        (.error (.nullLiteral "person.name"), .givingRemoval [some (.integer 1), none] .null) := by rfl
    have hhistory : MutationRequest.given.statement.History (Session.plain.Runs .given)
        (.givingRemoval [none, none] .null)
        (.givingRemoval [some (.integer 1), none] (.string "Ada")) := by
      have hruns : Session.plain.Runs .given (.givingRemoval [none, none] .null) _ := .run _
      rw [hfails] at hruns
      exact .other (.run .start hruns) (StatementRef.left_feed _ _ ⟨1⟩ (.string "Ada"))
    obtain ⟨⟨result, after, after', hrun, hrun', hvisible⟩, -⟩ :=
      (prepared_requests_repeat hbackend).2 _ .given _ hmade hhistory rfl hprepare
    obtain rfl : result = .ok 1 := (congrArg Prod.fst hrun).symm.trans rfl
    exact ⟨hfails, prepared, after, after', hprepare, hrun, hrun', hvisible⟩

end EntityQuery
