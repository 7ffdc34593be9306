import EntityQuery.Proofs.Session.Inserting
import EntityQuery.Proofs.Session.SelectMeaning

/-!
# What bulk requests insert

A bulk request is called again and again, for one row or several, and its defaults are fed between the
calls. A call can fail before anything is bound, while values are bound, or behind some of its rows.

* `BulkRequest.History` is any history of a bulk request, and keeps that the rows that were inserted stand
  behind those of the table, and are counted (`BulkRequest.History.serves`);
* `bulk_inserts_account`: this, and what the next call does;
* `bulk_inserts_miss_column`: a column name that cannot be read puts a value elsewhere.
-/

namespace EntityQuery

open Sql

/-! ## Histories -/

/-- A call of a bulk request. -/
inductive BulkCall where
  /-- inserts a row of the defaults -/
  | run
  /-- inserts a row with values of its own -/
  | row (row : List (Field × Value))
  /-- inserts rows up to the first that fails -/
  | rows (rows : List (List (Field × Value)))

namespace BulkCall

/-- The rows that a call gives. -/
def given : BulkCall → List (List (Field × Value))
  | .run => [[]]
  | .row values => [values]
  | .rows all => all

/-- Performs a call; the number of rows inserted. -/
def perform (session : Session Memory) : BulkCall → Session.BulkStep Memory Nat
  | .run => session.runBulk
  | .row values => session.insertRow values
  | .rows all => session.insertRows all

theorem perform_eq (session : Session Memory) (call : BulkCall) (here : BulkRequest × Store Memory) :
    call.perform session here = session.insertRows call.given here := by
  cases call with
  | run => exact (session.runBulk_eq here).trans (session.insertRows_singleton [] here).symm
  | row values => exact (session.insertRows_singleton values here).symm
  | rows all => rfl

end BulkCall

/-- Any history of a bulk request, and the rows that were inserted in it: it is called, and the others
leave its statement and the tables alone. -/
inductive BulkRequest.History (session : Session Memory) (start : BulkRequest) (made : Store Memory) :
    List Insertion → BulkRequest → Store Memory → Prop where
  /-- nothing has happened -/
  | start : History session start made [] start made
  /-- the request is called -/
  | call {done : List Insertion} {bulk next : BulkRequest} {store after : Store Memory}
    {result : Except QueryError Nat} (h : History session start made done bulk store) (call : BulkCall)
    (hcall : call.perform session (bulk, store) = (result, next, after)) :
    History session start made (done ++ session.insertions call.given (bulk, store)) next after
  /-- something else happens, such as feeding a default -/
  | other {done : List Insertion} {bulk : BulkRequest} {store after : Store Memory}
    (h : History session start made done bulk store) (hleft : bulk.request.statement.Left store after)
    (htables : after.backend.database = store.backend.database) :
    History session start made done bulk after

namespace BulkRequest

variable {session : Session Memory} (hbackend : session.backend = Memory.backend) {e : Entity}
  {rows : List Row} {sources values : Assignments} {start bulk : BulkRequest}
  {before made store : Store Memory}
  (hstores : before.backend.database.Stores session.naming e rows)
  (hmade : session.bulk ⟨e, .insert, values⟩ before = (.ok start, made))
include hbackend hstores hmade

/-- A new bulk request serves the table of its entity, and has inserted nothing. -/
theorem serves_of_made : session.naming.columned values ≠ [] ∧ start.inserted = 0 ∧
    start.request.Serves session e values before.backend.database rows made := by
  obtain ⟨r, made', hmutation, h⟩ := bind_eq_ok hmade
  cases h
  obtain ⟨m, compiled, hcompile, hprepare⟩ := bind_eq_ok hmutation
  obtain ⟨hcompiles, rfl⟩ := Prod.mk.inj hcompile
  obtain ⟨hne, rfl⟩ := compileInsert_eq_ok hcompiles
  obtain ⟨hcompiled, hprepared⟩ := Session.prepareMutation_eq_ok hprepare
  obtain ⟨parsed, -, -, rfl⟩ := Session.prepare_eq_ok hbackend hprepared
  refine ⟨fun hnil => hne ?_, rfl, hcompiled, ?_, ?_, hstores.width⟩
  · rw [assignedOnes_eq, hnil]
    rfl
  · exact (StatementRef.clean_prepare hbackend (hcompiled ▸ hprepared)).1
  · exact (Database.replace_of_mem (List.mem_of_find?_eq_some hstores.found)).symm

variable (hspells : session.naming.Spells e) (hlast : Assignments.LastOf values sources)
  (hown : ∀ f ∈ sources.map Prod.fst, f.entity = e)
include hspells hlast hown

/-- A bulk request keeps serving the table, and counts the rows that it has inserted. -/
theorem History.serves {done : List Insertion} (h : History session start made done bulk store) :
    ∃ added, bulk.request.Serves session e values before.backend.database (rows ++ added) store ∧
      bulk.inserted = added.length ∧
      List.Forall₂ (Insertion.Fills session.naming e sources) done added := by
  obtain ⟨hne, hinserted, hserves⟩ := serves_of_made hbackend hstores hmade
  induction h with
  | start => exact ⟨[], (List.append_nil rows).symm ▸ hserves, hinserted, .nil⟩
  | call _ call hcall ih =>
    obtain ⟨added, hserves, hinserted, hadded⟩ := ih
    obtain ⟨result, new, after, hrows, hserves', hnew, -⟩ :=
      Session.insertRows_cases hbackend hlast hserves hspells hstores hown hne call.given
    cases hcall.symm.trans ((call.perform_eq session _).trans hrows)
    refine ⟨added ++ new, List.append_assoc rows added new ▸ hserves', ?_, List.rel_append hadded hnew⟩
    rw [List.length_append, ← hinserted]
  | other _ hleft htables ih =>
    obtain ⟨added, hserves, hinserted, hadded⟩ := ih
    exact ⟨added, ⟨hserves.compiled, hserves.clean.left hleft, htables.trans hserves.database,
      hserves.width⟩, hinserted, hadded⟩

end BulkRequest

/-- What a bulk request inserts, and counts.

Let the table and the columns of an entity have names that can be written, where columns differ in more
than case, and let a bulk request be made of a builder that was given defaults for fields of the entity.
After any history of calls, between which anything may happen that leaves the statement and the tables
alone, the request has counted the rows that it has added behind those of the table. Each holds, for a field
with a column that has a default, the last value that its call had for the field, or else what the default
was read as; the others are empty. So no value of a call stays for the next one.

A row is inserted if the request is open, all its values are for fields with a default that has a column and
are accepted by their kinds, and all values can be stored. Otherwise it fails, and changes neither a table
nor the request. Rows that are given together are added and counted in order, all of them or those before
the first that fails. -/
theorem bulk_inserts_account {session : Session Memory} (hbackend : session.backend = Memory.backend)
    {e : Entity} (hspells : session.naming.Spells e) {before made : Store Memory} {rows : List Row}
    (hstores : before.backend.database.Stores session.naming e rows) {sources : Assignments}
    (hown : ∀ f ∈ sources.map Prod.fst, f.entity = e) {start : BulkRequest}
    (hmade : session.bulk ((MutationBuilder.insert e).setSources sources) before = (.ok start, made))
    {done : List Insertion} {bulk : BulkRequest} {store : Store Memory}
    (hhistory : start.History session made done bulk store) :
    ∃ added, bulk.inserted = added.length ∧
      store.backend.database =
        before.backend.database.replace (session.naming.tableWith e (rows ++ added)) ∧
      List.Forall₂ (Insertion.Fills session.naming e sources) done added ∧
      (∀ row,
        ((session.insertRow row (bulk, store)).1 = .ok 1 ↔
          (Session.open? bulk.request.statement store).isSome ∧
            Insertion.Complete session.naming sources ⟨row, store⟩) ∧
        ((session.insertRow row (bulk, store)).1 ≠ .ok 1 →
          ∃ err after, session.insertRow row (bulk, store) = (.error err, bulk, after) ∧
            after.backend.database = store.backend.database)) ∧
      ∀ call : BulkCall,
        call.perform session (bulk, store) = session.insertRows call.given (bulk, store) ∧
        ∃ result new after,
          call.perform session (bulk, store) =
            (result, { bulk with inserted := bulk.inserted + new.length }, after) ∧
          after.backend.database =
            before.backend.database.replace (session.naming.tableWith e (rows ++ added ++ new)) ∧
          List.Forall₂ (Insertion.Fills session.naming e sources)
            (session.insertions call.given (bulk, store)) new ∧
          (session.insertions call.given (bulk, store)).map Insertion.row =
            call.given.take new.length ∧
          session.InsertsUpTo call.given (bulk, store) new.length := by
  obtain ⟨values, hset, hlast⟩ := MutationBuilder.insert_setSources e sources
  rw [hset] at hmade
  obtain ⟨hne, -⟩ := BulkRequest.serves_of_made hbackend hstores hmade
  obtain ⟨added, hserves, hinserted, hadded⟩ :=
    hhistory.serves hbackend hstores hmade hspells hlast hown
  refine ⟨added, hinserted, hserves.database, hadded, fun row => ?_, fun call => ?_⟩
  · by_cases hgoes : (Session.open? bulk.request.statement store).isSome ∧
        Insertion.Complete session.naming sources ⟨row, store⟩
    · obtain ⟨new, after, hrow, -⟩ := Session.insertRow_of_complete hbackend hlast hserves hspells hstores
        hown hne hgoes.1 hgoes.2
      have hok := congrArg Prod.fst hrow
      exact ⟨iff_of_true hok hgoes, fun hfails => absurd hok hfails⟩
    · obtain ⟨err, after, hrow, hserves'⟩ :=
        Session.insertRow_of_incomplete hbackend hlast hserves hgoes
      rw [hrow]
      exact ⟨iff_of_false nofun hgoes, fun _ =>
        ⟨err, after, rfl, hserves'.database.trans hserves.database.symm⟩⟩
  · obtain ⟨result, new, after, hrows, hserves', hnew, hgiven, hupTo⟩ :=
      Session.insertRows_cases hbackend hlast hserves hspells hstores hown hne call.given
    have hperform := call.perform_eq session (bulk, store)
    exact ⟨hperform, result, new, after, hperform.trans hrows, hserves'.database, hnew, hgiven, hupTo⟩

/-! ## New people -/

/-- A name that all new persons get, and a number that is fed. -/
def Assignments.newPeople : Assignments :=
  [(.personName, .literal (.string "new")), (.personId, .fed ⟨0⟩)]

/-- Two persons, and a number that was fed. -/
def Store.twoNumbered : Store Memory := { Store.twoPeople with cells := #[.integer 7] }

theorem stores_twoNumbered : Store.twoNumbered.backend.database.Stores .plain .person
    [[.integer 1, .string "Ada"], [.integer 2, .string "Bea"]] := ⟨by decide, by decide⟩

/-- The bulk request of new persons, which has inserted so many. -/
def BulkRequest.newPeople (inserted : Nat) : BulkRequest :=
  ⟨⟨insertWritten .plain .person .newPeople, ⟨0⟩⟩, inserted⟩

/-- Two persons and more, a number that was fed, and the insert with the values that are set. -/
def Store.newPeople (number : Value) (parameters : List (Option Value)) (rows : List Row) :
    Store Memory :=
  ⟨⟨Store.twoPeople.backend.database.replace (Naming.plain.tableWith .person
        ([[.integer 1, .string "Ada"], [.integer 2, .string "Bea"]] ++ rows)),
      #[⟨.insert ⟨"person", some ["name", "id"], [[.parameter 1, .parameter 2]]⟩, parameters, false⟩],
      #[]⟩,
    #[number], Store.twoPeople.slots, #[some ⟨0⟩], #[]⟩

/-- The request is made by a builder. -/
theorem bulk_newPeople :
    Session.plain.bulk ((MutationBuilder.insert .person).setSources Assignments.newPeople) .twoNumbered =
      (.ok (.newPeople 0), .newPeople (.integer 7) [none, none] []) := by
  have hspells : Naming.plain.Spells .person := Naming.plain_tells.spells List.mem_cons_self
  let statement : Statement := .insert ⟨"person", some ["name", "id"], [[.parameter 1, .parameter 2]]⟩
  have hreads : (insertWritten .plain .person .newPeople).Reads statement := by
    have himage : insertImage .plain .person .newPeople = statement := by cbv
    exact himage ▸ reads_insert hspells (by decide) (by decide)
  have htables : statement.requiredTables.mapM Store.twoNumbered.backend.database.table = .ok _ :=
    Database.tables_own stores_twoNumbered
  have hbackend : Session.plain.backend = Memory.backend := rfl
  have hcompile : MutationBuilder.compile .plain false ⟨.person, .insert, .newPeople⟩ =
      .ok (insertWritten .plain .person .newPeople) := by rfl
  have hmutation : Session.plain.mutation ⟨.person, .insert, .newPeople⟩ .twoNumbered = _ :=
    Session.mutation_eq hcompile _
  have hprepare : Session.plain.prepareMutation (insertWritten .plain .person .newPeople) .twoNumbered = _ :=
    Session.prepareMutation_eq hbackend hreads htables
  have hsame : Store.twoPeople.backend.database.replace (Naming.plain.tableWith .person
      ([[.integer 1, .string "Ada"], [.integer 2, .string "Bea"]] ++ [])) =
        Store.twoPeople.backend.database :=
    Database.replace_of_mem (List.mem_of_find?_eq_some stores_twoNumbered.found)
  rw [Store.newPeople, hsame]
  exact bind_of_ok (hmutation.trans hprepare)

/-- A person of the defaults is added, one with a name of its own after another number is fed, and one of
the defaults again, which has this number and not this name. -/
theorem bulk_inserts_account_newPeople :
    let batch := [[(Field.personName, Value.string "Eve")], [(.personName, .integer 3)], []]
    let made := Store.newPeople (.integer 7) [none, none] []
    let ran := Store.newPeople (.integer 7) [some (.string "new"), some (.integer 7)]
      [[.integer 7, .string "new"]]
    let batched := Store.newPeople (.integer 8) [some (.string "Eve"), some (.integer 8)]
      [[.integer 7, .string "new"], [.integer 8, .string "Eve"]]
    let again := Store.newPeople (.integer 8) [some (.string "new"), some (.integer 8)]
      [[.integer 7, .string "new"], [.integer 8, .string "Eve"], [.integer 8, .string "new"]]
    Session.plain.bulk ((MutationBuilder.insert .person).setSources Assignments.newPeople) .twoNumbered =
        (.ok (.newPeople 0), made) ∧
      Session.plain.runBulk (.newPeople 0, made) = (.ok 1, .newPeople 1, ran) ∧
      Session.plain.insertRows batch (.newPeople 1, ran.feed ⟨0⟩ (.integer 8)) =
        (.error (.kindMismatch "person.name" "string" "integer"), .newPeople 2, batched) ∧
      Session.plain.runBulk (.newPeople 2, batched) = (.ok 1, .newPeople 3, again) ∧
      ∃ added, 3 = added.length ∧
        again.backend.database = Store.twoPeople.backend.database.replace (Naming.plain.tableWith .person
          ([[.integer 1, .string "Ada"], [.integer 2, .string "Bea"]] ++ added)) ∧
        List.Forall₂ (Insertion.Fills .plain .person .newPeople)
          [⟨[], made⟩, ⟨[(.personName, .string "Eve")], ran.feed ⟨0⟩ (.integer 8)⟩, ⟨[], batched⟩] added := by
  intro batch made ran batched again
  have hran : Session.plain.runBulk (.newPeople 0, made) = (.ok 1, .newPeople 1, ran) := by rfl
  have hbatched : Session.plain.insertRows batch (.newPeople 1, ran.feed ⟨0⟩ (.integer 8)) =
      (.error (.kindMismatch "person.name" "string" "integer"), .newPeople 2, batched) := by rfl
  have hagain : Session.plain.runBulk (.newPeople 2, batched) = (.ok 1, .newPeople 3, again) := by rfl
  refine ⟨bulk_newPeople, hran, hbatched, hagain, ?_⟩
  have hhistory : (BulkRequest.newPeople 0).History Session.plain made
      [⟨[], made⟩, ⟨[(.personName, .string "Eve")], ran.feed ⟨0⟩ (.integer 8)⟩, ⟨[], batched⟩]
      (.newPeople 3) again := by
    have hfed := (BulkRequest.newPeople 1).request.statement.left_feed ran ⟨0⟩ (.integer 8)
    have hbefore : (BulkRequest.newPeople 0).History Session.plain made [⟨[], made⟩] (.newPeople 1)
        (ran.feed ⟨0⟩ (.integer 8)) := .other (.call .start .run hran) hfed rfl
    exact .call (.call hbefore (.rows batch) hbatched) .run hagain
  have hspells : Naming.plain.Spells .person := Naming.plain_tells.spells List.mem_cons_self
  have hbackend : Session.plain.backend = Memory.backend := rfl
  have hown : ∀ f ∈ Assignments.newPeople.map Prod.fst, f.entity = .person := by decide
  obtain ⟨added, hcount, hdatabase, hadded, -⟩ :=
    bulk_inserts_account hbackend hspells stores_twoNumbered hown bulk_newPeople hhistory
  exact ⟨added, hcount, hdatabase, hadded⟩

/-! ## A column that cannot be read -/

/-- An entity with a column whose name goes on with a value, and hides the rest. -/
def Entity.cut : Entity :=
  ⟨0, "t", none, [⟨"a", .integer, false, none⟩, ⟨"b", .integer, false, some "A) VALUES (?) --"⟩]⟩

/-- The field of this column. -/
def Field.cut : Field := ⟨.cut, 1, by decide⟩

/-- A store with the table of this entity. -/
def Store.cut : Store Memory :=
  .start ⟨⟨[⟨"T", [⟨"A", .integer⟩, ⟨"A) VALUES (?) --", .integer⟩], []⟩], by decide⟩, #[], #[]⟩

/-- The request that is made. -/
def BulkRequest.cut : BulkRequest :=
  ⟨⟨insertWritten (.byRules {} []) .cut [(.cut, .literal (.integer 1))], ⟨0⟩⟩, 0⟩

/-- The statement that is prepared. -/
def Prepared.cut : Prepared := ⟨.insert ⟨"T", some ["A"], [[.parameter 1]]⟩, [none], false⟩

theorem bulk_cut :
    Session.usual.bulk ((MutationBuilder.insert .cut).setSources [(.cut, .literal (.integer 1))]) .cut =
      (.ok .cut, Store.cut.preparing .cut) := by
  have hcompile : Step.ofExcept (MutationBuilder.compile (.byRules {} []) false
      ⟨.cut, .insert, [(.cut, .literal (.integer 1))]⟩) Store.cut =
        (.ok BulkRequest.cut.request.compiled, .cut) := by rfl
  have hsql : BulkRequest.cut.request.compiled.sql =
      "INSERT INTO T (A) VALUES (?) --) VALUES (?)" := by rfl
  have hprepare : Store.cut.backend.database.prepare BulkRequest.cut.request.compiled.sql =
      .ok .cut := by
    rw [hsql]
    cbv
  have hbackend : Session.usual.backend = Memory.backend := rfl
  have hprepared := Session.prepare_eq hbackend BulkRequest.cut.request.compiled.sql .cut
  rw [hprepare] at hprepared
  exact bind_of_ok ((bind_of_ok hcompile).trans (bind_of_ok hprepared))

/-- The value goes into the other column. -/
theorem runBulk_cut : ∃ after, Session.usual.runBulk (.cut, Store.cut.preparing .cut) =
      (.ok 1, { BulkRequest.cut with inserted := 1 }, after) ∧
    after.backend.database.tables.map (·.rows) = [[[.integer 1, .null]]] :=
  ⟨_, rfl, rfl⟩

/-- So it is not enough that columns are told apart. -/
theorem bulk_inserts_miss_column :
    ¬ ∀ (session : Session Memory) (e : Entity) (before made after : Store Memory) (rows : List Row)
        (sources : Assignments) (start bulk : BulkRequest), session.backend = Memory.backend →
      (∀ f g : Field, f.entity = e → g.entity = e → ∀ c d, session.naming.columnName f = some c →
        session.naming.columnName g = some d → Text.sameName c d = true → f = g) →
      before.backend.database.Stores session.naming e rows → (∀ f ∈ sources.map Prod.fst, f.entity = e) →
      session.bulk ((MutationBuilder.insert e).setSources sources) before = (.ok start, made) →
      session.runBulk (start, made) = (.ok 1, bulk, after) →
        ∃ row, after.backend.database =
            before.backend.database.replace (session.naming.tableWith e (rows ++ [row])) ∧
          Insertion.Fills session.naming e sources ⟨[], made⟩ row := by
  intro h
  obtain ⟨after, hrun, hrows⟩ := runBulk_cut
  have hdistinct : ∀ f ∈ Entity.cut.fields, ∀ g ∈ Entity.cut.fields,
      ∀ c ∈ (Naming.byRules {} []).columnName f, ∀ d ∈ (Naming.byRules {} []).columnName g,
        Text.sameName c d = true → f = g := by decide
  obtain ⟨row, hdatabase, -, hfills⟩ := h .usual .cut .cut _ after []
    [(.cut, .literal (.integer 1))] .cut _ rfl
    (fun f g hf hg c d hc hd =>
      hdistinct f (hf ▸ Entity.mem_fields f) g (hg ▸ Entity.mem_fields g) c hc d hd)
    ⟨by decide, by decide⟩ (by decide) bulk_cut hrun
  rw [hdatabase] at hrows
  obtain rfl : row = [.integer 1, .null] := by
    have hrow : [[row]] = [[[Value.integer 1, .null]]] := hrows
    simpa using hrow
  have hcell : some (Value.integer 1) = some .null := hfills .cut rfl (by decide)
  cases hcell

end EntityQuery
