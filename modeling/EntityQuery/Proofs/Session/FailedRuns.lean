import EntityQuery.Proofs.Execution.Atomicity
import EntityQuery.Proofs.Session.Repeating

/-!
# Runs that fail

A mutation can fail before its statement runs: its request may be closed, a row may override a field
with a value that does not fit, and any of its values may be refused while they are bound, after others
have been set. None of this reaches a table, and a bulk request counts nothing. So all depends on the
statement with its values (`Session.BoundTo`), and the one statement that fails behind a change is an
`INSERT` that stores some of its rows (`Session.Splits`).

* `Session.runWith_error_iff`: whether a run that fails leaves the tables alone;
* `CompiledMutation.Readable.not_splits`: a mutation that compiles under names that can be read inserts
  one row at most, so it always does;
* `failed_request_keeps_iff`: both, for requests and bulk requests;
* `failed_request_changes_database`: a table name that cannot be read makes an insert of two rows.
-/

namespace EntityQuery

open Sql

/-! ## Statements with their values -/

namespace Session

variable {session : Session Memory} {r : MutationRequest} {values : Assignments}
  {store after : Store Memory} {e : QueryError}

/-- The statement of a request with these values bound to it. -/
def BoundTo (session : Session Memory) (r : MutationRequest) (values : Assignments)
    (store : Store Memory) (p : Prepared) : Prop :=
  ∃ id n, ∃ bound : Store Memory, open? r.statement store = some id ∧
    (session.binder r.compiled.sql id).bind values r.compiled.constraint r.compiled.parameterCount store =
      (.ok n, bound) ∧
    bound.backend.statements[id.number]? = some p

/-- The request runs into a row that cannot be stored, behind rows that are. -/
def Splits (session : Session Memory) (r : MutationRequest) (values : Assignments)
    (store : Store Memory) : Prop :=
  ∃ p t stored, session.BoundTo r values store p ∧ p.SplitsAt store.backend.database t stored ∧
    stored ≠ []

theorem BoundTo.unique {p p' : Prepared} (h : session.BoundTo r values store p)
    (h' : session.BoundTo r values store p') : p = p' := by
  obtain ⟨id, n, bound, hopened, hbind, hp⟩ := h
  obtain ⟨id', n', bound', hopened', hbind', hp'⟩ := h'
  obtain rfl := Option.some.inj (hopened.symm.trans hopened')
  obtain ⟨-, rfl⟩ := Prod.mk.inj (hbind.symm.trans hbind')
  exact Option.some.inj (hp.symm.trans hp')

variable (hbackend : session.backend = Memory.backend)
include hbackend

/-- A statement with its values is the statement of the request otherwise. -/
theorem BoundTo.blank_eq {p : Prepared} (h : session.BoundTo r values store p) :
    ∃ id p₀, open? r.statement store = some id ∧ store.backend.statements[id.number]? = some p₀ ∧
      p.blank = p₀.blank := by
  obtain ⟨id, n, bound, hopened, hbind, hp⟩ := h
  have hkeeps := Binder.keeps_bind r.compiled.sql id hbackend values r.compiled.constraint
    r.compiled.parameterCount store
  rw [hbind] at hkeeps
  have hblank := congrArg (fun store : Store Memory => store.backend.statements[id.number]?) hkeeps
  simp only [Store.outline, Memory.outline, Array.getElem?_map, hp, Option.map_some] at hblank
  obtain ⟨p₀, hp₀, hsame⟩ := Option.map_eq_some_iff.1 hblank.symm
  exact ⟨id, p₀, hopened, hp₀, hsame.symm⟩

variable (r values store) in
/-- A run fails before it looks at a table, or it is that of the statement with its values. -/
theorem runWith_cases :
    ∃ bound : Store Memory, bound.outline = store.outline ∧
      ((∃ e, session.runWith r values store = (.error e, bound) ∧
          ∀ p, ¬ session.BoundTo r values store p) ∨
        ∃ p, session.BoundTo r values store p ∧ session.runWith r values store =
          ((p.mutate store.backend.database).1.mapError (.execution r.compiled.sql),
            bound.withDatabase (p.mutate store.backend.database).2)) := by
  cases hopened : open? r.statement store with
  | none =>
    refine ⟨store, rfl, .inl ⟨_, runWith_of_closed hopened, ?_⟩⟩
    rintro p ⟨id, n, bound, hid, -⟩
    cases hopened.symm.trans hid
  | some id =>
    have hkeeps := Binder.keeps_bind r.compiled.sql id hbackend values r.compiled.constraint
      r.compiled.parameterCount store
    rcases hbind : (session.binder r.compiled.sql id).bind values r.compiled.constraint
      r.compiled.parameterCount store with ⟨e | n, bound⟩
    · rw [hbind] at hkeeps
      refine ⟨bound, hkeeps, .inl ⟨e, runWith_of_unbound hopened hbind, ?_⟩⟩
      rintro p ⟨id', n, bound', hid, hbind', -⟩
      obtain rfl := Option.some.inj (hopened.symm.trans hid)
      cases hbind.symm.trans hbind'
    · rw [hbind] at hkeeps
      refine ⟨bound, hkeeps, ?_⟩
      cases hp : bound.backend.statements[id.number]? with
      | none =>
        refine .inl ⟨_, runWith_of_missing hopened hbackend hbind hp, ?_⟩
        rintro p ⟨id', n', bound', hid, hbind', hp'⟩
        obtain rfl := Option.some.inj (hopened.symm.trans hid)
        obtain ⟨-, rfl⟩ := Prod.mk.inj (hbind.symm.trans hbind')
        cases hp.symm.trans hp'
      | some p =>
        have hrun := runWith_of_bind hopened hbackend hbind hp
        rw [Store.database_of_outline hkeeps] at hrun
        exact .inr ⟨p, ⟨id, n, bound, hopened, hbind, hp⟩, hrun⟩

/-! ## Whether a failed run leaves the tables alone -/

/-- A run that fails leaves the tables alone, unless it splits. -/
theorem runWith_error_iff (h : session.runWith r values store = (.error e, after)) :
    after.backend.database = store.backend.database ↔ ¬ session.Splits r values store := by
  obtain ⟨bound, houtline, ⟨e', hrun, hunbound⟩ | ⟨p, hbound, hrun⟩⟩ :=
    runWith_cases r values store hbackend
  · obtain ⟨-, rfl⟩ := Prod.mk.inj (h.symm.trans hrun)
    refine iff_of_true (Store.database_of_outline houtline) ?_
    rintro ⟨p, t, stored, hbound, -⟩
    exact hunbound p hbound
  · obtain ⟨hresult, rfl⟩ := Prod.mk.inj (h.symm.trans hrun)
    change (p.mutate store.backend.database).2 = store.backend.database ↔ _
    constructor
    · rintro hkeeps ⟨p', t, stored, hbound', hsplits, hne⟩
      obtain rfl := hbound.unique hbound'
      rw [hsplits.mutate_eq] at hkeeps
      exact hne ((Database.replace_append_eq_iff hsplits.mem stored).1 hkeeps)
    · intro hwhole
      rcases hmutate : p.mutate store.backend.database with ⟨cause | count, db⟩
      · rcases Prepared.splitsAt_of_error hmutate with hkeeps | ⟨t, stored, hsplits⟩
        · exact hkeeps
        · -- nothing was stored before the row that cannot be
          have hnil : stored = [] := by
            by_contra hne
            exact hwhole ⟨p, t, stored, hbound, hsplits, hne⟩
          have hdb := hsplits.mutate_eq
          rw [hmutate, hnil, List.append_nil] at hdb
          exact hdb.trans (Database.replace_of_mem hsplits.mem)
      · rw [hmutate] at hresult
        cases hresult

/-- A request that splits inserts several rows. -/
theorem Splits.several (h : session.Splits r values store) :
    ∃ id p s, open? r.statement store = some id ∧
      store.backend.statements[id.number]? = some p ∧ p.statement = .insert s ∧ 1 < s.rows.length := by
  obtain ⟨p, t, stored, hbound, ⟨-, parameters, s, rows, cause, -, hs, hplan, hrefusal, rfl⟩, hne⟩ := h
  obtain ⟨id, p₀, hopened, hp₀, hblank⟩ := hbound.blank_eq hbackend
  refine ⟨id, p₀, s, hopened, hp₀, (congrArg Prepared.statement hblank).symm.trans hs, ?_⟩
  rw [← Database.length_of_insertPlan hplan]
  exact Nat.lt_of_not_le fun hlength => hne (Table.storable_eq_nil hlength hrefusal)

end Session

/-! ## Mutations that insert one row -/

/-- A mutation that was compiled under names that can be read. -/
inductive CompiledMutation.Readable (naming : Naming) (strict : Bool) : CompiledMutation → Prop where
  /-- an insert -/
  | insert {e : Entity} {values : Assignments} {m : CompiledMutation}
      (h : compileInsert naming strict e values = .ok m) (htable : IsName (naming.tableName e))
      (hnames : naming.Readable (values.map Prod.fst)) : Readable naming strict m
  /-- an update -/
  | update {e : Entity} {values : Assignments} {condition : Option Constraint} {m : CompiledMutation}
      (h : compileUpdate naming strict e values condition = .ok m)
      (htable : IsName (naming.tableName e))
      (hnames : naming.Readable (values.map Prod.fst ++ conditionFields condition)) :
      Readable naming strict m
  /-- a delete -/
  | delete {e : Entity} {condition : Option Constraint} {m : CompiledMutation}
      (h : compileDelete naming e condition = .ok m) (htable : IsName (naming.tableName e))
      (hnames : naming.Readable (conditionFields condition)) : Readable naming strict m

/-- A readable mutation inserts one row at most. -/
theorem CompiledMutation.Readable.rows_le {naming : Naming} {strict : Bool} {m : CompiledMutation}
    (h : m.Readable naming strict) {s : Insert} {n : Nat} (hparse : parse m.sql = .ok ⟨.insert s, n⟩) :
    s.rows.length ≤ 1 := by
  cases h with
  | insert h htable hnames =>
    obtain ⟨hne, rfl⟩ := compileInsert_eq_ok h
    cases hparse.symm.trans (parse_insertWritten htable hne hnames)
    exact Nat.le_refl 1
  | update h htable hnames =>
    obtain ⟨hne, hmap, rfl⟩ := compileUpdate_eq_ok h
    cases hparse.symm.trans (parse_updateWritten htable hne hmap hnames)
  | delete h htable hnames =>
    obtain ⟨hmap, rfl⟩ := compileDelete_eq_ok h
    cases hparse.symm.trans (parse_deleteWritten htable hmap hnames)

/-- A request with a readable mutation does not split. -/
theorem CompiledMutation.Readable.not_splits {session : Session Memory} {naming : Naming}
    {strict : Bool} {r : MutationRequest} {values : Assignments} {store : Store Memory}
    (hbackend : session.backend = Memory.backend) (h : r.compiled.Readable naming strict)
    (hclean : r.Clean store) : ¬ session.Splits r values store := by
  intro hsplits
  obtain ⟨id, p, s, hopened, hp, hs, hseveral⟩ := hsplits.several hbackend
  obtain ⟨p', parsed, hp', hparse, hstatement, -⟩ := hclean id hopened
  obtain rfl := Option.some.inj (hp.symm.trans hp')
  obtain ⟨statement, n⟩ := parsed
  obtain rfl : statement = .insert s := hstatement.symm.trans hs
  exact absurd (h.rows_le hparse) (Nat.not_le_of_lt hseveral)

/-! ## Requests -/

section Requests

variable {σ : Type} {step : BulkRequest → Step σ Nat} {bulk bulk' : BulkRequest} {store after : Store σ}
  {e : QueryError}

/-- A row that fails is not counted, and the request stays as it is. -/
theorem Session.countInserted_error (h : countInserted step (bulk, store) = (.error e, bulk', after)) :
    bulk' = bulk ∧ step bulk store = (.error e, after) := by
  simp only [countInserted] at h
  split at h
  · cases h
  · next hstep =>
    cases h
    exact ⟨rfl, hstep⟩

end Requests

/-- When a request that fails leaves the tables as they were.

It does whatever fails, be it that the request is closed, a value of the row, an accessor, or the
statement; only an `INSERT` of several rows may end behind some of them. A request that was compiled
under names that can be read, and prepared, inserts one row, so it never does, whatever has happened to it
since. A bulk request is the same as before, with its values and its count. -/
theorem failed_request_keeps_iff {session : Session Memory} (hbackend : session.backend = Memory.backend)
    (bulk : BulkRequest) (store : Store Memory) :
    (∀ e after, session.run bulk.request store = (.error e, after) →
      (after.backend.database = store.backend.database ↔
        ¬ session.Splits bulk.request bulk.request.compiled.values store)) ∧
    (∀ e bulk' after, session.runBulk (bulk, store) = (.error e, bulk', after) → bulk' = bulk ∧
      (after.backend.database = store.backend.database ↔
        ¬ session.Splits bulk.request bulk.request.compiled.values store)) ∧
    (∀ row e bulk' after, session.insertRow row (bulk, store) = (.error e, bulk', after) →
      bulk' = bulk ∧ (after.backend.database = store.backend.database ↔
        ∀ values, overrideValues bulk.request.compiled.values row = .ok values →
          ¬ session.Splits bulk.request values store)) ∧
    (∀ values, session.Splits bulk.request values store →
      ∃ id p s, Session.open? bulk.request.statement store = some id ∧
        store.backend.statements[id.number]? = some p ∧ p.statement = .insert s ∧ 1 < s.rows.length) ∧
    (∀ naming strict before start, bulk.request.compiled.Readable naming strict →
      session.prepareMutation bulk.request.compiled before = (.ok bulk.request, start) →
      bulk.request.statement.History (session.Runs bulk.request) start store →
      ∀ values, ¬ session.Splits bulk.request values store) := by
  refine ⟨fun e after h => Session.runWith_error_iff hbackend h, fun e bulk' after h => ?_,
    fun row e bulk' after h => ?_, fun values h => h.several hbackend,
    fun naming strict before start hreadable hmade hhistory values =>
      hreadable.not_splits hbackend (MutationRequest.clean_of_history hbackend hmade hhistory)⟩
  · obtain ⟨hsame, hrun⟩ := Session.countInserted_error h
    exact ⟨hsame, Session.runWith_error_iff hbackend hrun⟩
  · cases hvalues : overrideValues bulk.request.compiled.values row with
    | error e' =>
      rw [Session.insertRow_of_refused hvalues] at h
      cases h
      exact ⟨rfl, iff_of_true rfl fun values h => (nomatch h)⟩
    | ok values =>
      rw [Session.insertRow_of_taken hvalues] at h
      obtain ⟨hsame, hrun⟩ := Session.countInserted_error h
      refine ⟨hsame, (Session.runWith_error_iff hbackend hrun).trans ⟨fun h values' heq => ?_, fun h => ?_⟩⟩
      · exact Except.ok.inj heq ▸ h
      · exact h values rfl

/-! ## A table name that cannot be read -/

/-- An entity whose table name goes on with the values of two rows. -/
def Entity.twoRows : Entity :=
  ⟨0, "t", some "T (A) VALUES (?), ('x') --", [⟨"a", .integer, false, none⟩]⟩

/-- An insert of one number. -/
def MutationBuilder.twoRows : MutationBuilder :=
  ⟨.twoRows, .insert, [(⟨.twoRows, 0, by decide⟩, .literal (.integer 1))]⟩

/-- A session with the usual names. -/
def Session.usual : Session Memory := ⟨Memory.backend, .byRules {} [], {}⟩

/-- A store with an empty table `T`. -/
def Store.oneColumn : Store Memory := .start ⟨.oneColumn, #[], #[]⟩

/-- The statement that is prepared. -/
def Prepared.twoRows : Prepared :=
  ⟨.insert ⟨"T", some ["A"], [[.parameter 1], [.literal (.string "x")]]⟩, [none], false⟩

/-- The request that is made. -/
def MutationRequest.twoRows : MutationRequest :=
  ⟨insertWritten (.byRules {} []) .twoRows MutationBuilder.twoRows.values, ⟨0⟩⟩

theorem mutation_twoRows : Session.usual.mutation .twoRows .oneColumn =
    (.ok .twoRows, Store.oneColumn.preparing .twoRows) := by
  have hcompile : Step.ofExcept (MutationBuilder.twoRows.compile (.byRules {} []) false)
      Store.oneColumn = (.ok MutationRequest.twoRows.compiled, .oneColumn) := by rfl
  have hsql : MutationRequest.twoRows.compiled.sql =
      "INSERT INTO T (A) VALUES (?), ('x') -- (A) VALUES (?)" := by rfl
  have hprepare : Database.oneColumn.prepare MutationRequest.twoRows.compiled.sql = .ok .twoRows := by
    rw [hsql]
    cbv
  have hbackend : Session.usual.backend = Memory.backend := rfl
  have hprepared := Session.prepare_eq hbackend MutationRequest.twoRows.compiled.sql .oneColumn
  rw [show Store.oneColumn.backend.database = .oneColumn from rfl, hprepare] at hprepared
  exact (bind_of_ok hcompile).trans (bind_of_ok hprepared)

/-- The run of the request fails at its second row. -/
theorem run_twoRows : ∃ after, Session.usual.run .twoRows (Store.oneColumn.preparing .twoRows) =
      (.error (.execution MutationRequest.twoRows.compiled.sql (.storage (.mismatch "string" .integer))),
        after) ∧
    after.backend.database.tables.map (·.rows) = [[[.integer 1]]] :=
  ⟨_, rfl, rfl⟩

/-- The request splits, and its first row stays. -/
theorem failed_request_keeps_iff_twoRows :
    Session.usual.Splits .twoRows MutationRequest.twoRows.compiled.values
        (Store.oneColumn.preparing .twoRows) ∧
      ∀ bulk' e after,
        Session.usual.runBulk (⟨.twoRows, 0⟩, Store.oneColumn.preparing .twoRows) =
          (.error e, bulk', after) →
        bulk' = ⟨.twoRows, 0⟩ ∧ after.backend.database ≠ .oneColumn := by
  have hsplits : Session.usual.Splits .twoRows MutationRequest.twoRows.compiled.values
      (Store.oneColumn.preparing .twoRows) :=
    ⟨{ Prepared.twoRows with parameters := [some (.integer 1)] }, ⟨"T", [⟨"A", .integer⟩], []⟩,
      [[.integer 1]], ⟨⟨0⟩, 1, _, rfl, rfl, rfl⟩, ⟨rfl, [.integer 1], _, _, _, rfl, rfl, rfl, rfl, rfl⟩,
      List.cons_ne_nil _ _⟩
  have hbackend : Session.usual.backend = Memory.backend := rfl
  refine ⟨hsplits, fun bulk' e after h => ?_⟩
  obtain ⟨hsame, hiff⟩ := (failed_request_keeps_iff hbackend ⟨.twoRows, 0⟩
    (Store.oneColumn.preparing .twoRows)).2.1 e bulk' after h
  exact ⟨hsame, fun hkeeps => hiff.1 hkeeps hsplits⟩

/-- So not every request that fails leaves the tables as they were. -/
theorem failed_request_changes_database :
    ¬ ∀ (session : Session Memory) (b : MutationBuilder) (r : MutationRequest)
        (start made after : Store Memory) (e : QueryError), session.backend = Memory.backend →
      session.mutation b start = (.ok r, made) → session.run r made = (.error e, after) →
        after.backend.database = made.backend.database := by
  intro h
  obtain ⟨after, hrun, hrows⟩ := run_twoRows
  have hsame := h .usual .twoRows .twoRows .oneColumn _ after _ rfl mutation_twoRows hrun
  rw [hsame] at hrows
  exact absurd hrows (by decide)

end EntityQuery
