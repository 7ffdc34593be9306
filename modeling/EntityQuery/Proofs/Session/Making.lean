import EntityQuery.Proofs.Request.Mutating
import EntityQuery.Proofs.Session.Moving
import EntityQuery.Session.Builder

/-!
# Making requests

A request is compiled and its text is prepared; then it can run. On the backend in memory:

* a query that was made is held (`Session.compiledQuery_held`). Making it changes no table and no fed
  cell, and whatever accessors could read before, they read still (`Session.valueOf_compiledQuery`), for
  the handles of the new query have no row yet;
* a mutation whose table exists is prepared, and does what its statement does
  (`Session.run_prepareMutation`, `Session.runOnce_prepareMutation`).
-/

namespace EntityQuery

open Sql

/-! ## What can be read -/

/-- Changes to handles that no cursor is attached to cannot be read. -/
theorem Store.valueOf_of_untouched {store : Store Memory} {slots : Slots}
    (h : store.slots.Untouched slots) : ({ store with slots := slots } : Store Memory).valueOf =
      store.valueOf := by
  funext a
  cases a with
  | literal v | fed cell => rfl
  | column handle =>
    obtain ⟨hcursor, hindex⟩ := h handle
    have hat : ∀ id index f, ({ store with slots := slots } : Store Memory).readingAt id index f =
        store.readingAt id index f := fun _ _ _ => rfl
    rw [valueOf, valueOf, reading, reading, readingOf, readingOf]
    dsimp only
    rw [hcursor]
    cases hc : store.slots.cursor? handle with
    | none => cases slots.index? handle <;> cases store.slots.index? handle <;> rfl
    | some id =>
      rw [hindex (by rw [hc]; rfl)]
      simp only [hat]

theorem Store.valueOf_preparing (store : Store Memory) (p : Prepared) :
    (store.preparing p).valueOf = store.valueOf := by
  funext a
  rw [valueOf, valueOf, reading_preparing]

/-! ## Queries -/

/-- A selection that compiles has its handles assigned. -/
theorem Selection.compile_slots {naming : Naming} {strict : Bool} {slots slots' : Slots}
    {s : Selection} {compiled : CompiledSelect}
    (h : s.compile naming strict slots = (.ok compiled, slots')) :
    slots' = (assignFrom 1 (s.written naming).columns slots).2 := by
  obtain ⟨-, -, rfl⟩ := compile_eq_ok h
  obtain ⟨compiled', slots₁, hplan, h⟩ := bind_eq_ok h
  obtain ⟨u, slots₂, hassign, h⟩ := bind_eq_ok h
  have hslots : slots = slots₁ := congrArg Prod.snd hplan
  cases h
  rw [hslots, hassign]

namespace Session

variable {session : Session Memory} (hbackend : session.backend = Memory.backend)
  {s : Selection} {store made : Store Memory} {q : Query} {autoClose : Bool}
include hbackend

/-- A query that was made was compiled and prepared. -/
theorem compiledQuery_eq_ok (h : session.compiledQuery s autoClose store = (.ok q, made)) :
    ∃ slots p, s.compile session.naming session.config.strict store.slots =
        (.ok (s.written session.naming), slots) ∧
      store.backend.database.prepare (s.written session.naming).sql = .ok p ∧
      made = ({ store with slots := slots } : Store Memory).preparing p ∧
      q = ⟨(s.written session.naming).sql, ⟨store.statements.size⟩,
        (s.written session.naming).columns, s.constraint,
        (s.written session.naming).placeholders.length, autoClose⟩ := by
  obtain ⟨compiled, compiledStore, hcompile, h⟩ := bind_eq_ok h
  obtain ⟨statement, preparedStore, hprepare, h⟩ := bind_eq_ok h
  cases h
  rw [Step.onSlots] at hcompile
  rcases hslots : s.compile session.naming session.config.strict store.slots with ⟨result, slots⟩
  rw [hslots] at hcompile
  obtain ⟨hresult, rfl⟩ := Prod.mk.inj hcompile
  obtain rfl : result = .ok compiled := hresult
  obtain ⟨-, -, rfl⟩ := Selection.compile_eq_ok hslots
  rw [prepare_eq hbackend] at hprepare
  cases hp : ({ store with slots := slots } : Store Memory).backend.database.prepare
      (s.written session.naming).sql with
  | error e =>
    rw [hp] at hprepare
    cases hprepare
  | ok p =>
    rw [hp] at hprepare
    cases hprepare
    exact ⟨slots, p, rfl, rfl, rfl, rfl⟩

/-- A selection that compiles, and whose text can be prepared, is made a query. -/
theorem compiledQuery_ok {slots : Slots} {p : Prepared}
    (hcompile : s.compile session.naming session.config.strict store.slots =
      (.ok (s.written session.naming), slots))
    (hprepare : store.backend.database.prepare (s.written session.naming).sql = .ok p)
    (autoClose : Bool) :
    session.compiledQuery s autoClose store =
      (.ok ⟨(s.written session.naming).sql, ⟨store.statements.size⟩,
        (s.written session.naming).columns, s.constraint,
        (s.written session.naming).placeholders.length, autoClose⟩,
        ({ store with slots := slots } : Store Memory).preparing p) := by
  have hcompiled : Step.onSlots (s.compile session.naming session.config.strict) store =
      (.ok (s.written session.naming), { store with slots := slots }) := by
    rw [Step.onSlots, hcompile]
  have hprepared := prepare_eq hbackend (s.written session.naming).sql { store with slots := slots }
  rw [show ({ store with slots := slots } : Store Memory).backend.database.prepare
    (s.written session.naming).sql = .ok p from hprepare] at hprepared
  exact (bind_of_ok hcompiled).trans (bind_of_ok hprepared)

/-- A query that was made is held by the store, which still has the same data. -/
theorem compiledQuery_held (h : session.compiledQuery s autoClose store = (.ok q, made))
    (htells : session.naming.Tells (s.trimmed session.naming).entities)
    (horders : ∀ key ∈ (s.trimmed session.naming).orders,
      key.1.entity ∈ (s.trimmed session.naming).entities)
    (htop : ∀ n ∈ s.top, n < UInt64.size) :
    (s.trimmed session.naming).Mapped session.naming ∧
      q.Held session.naming (s.trimmed session.naming) made ∧ store.SameData made := by
  obtain ⟨slots, p, hcompile, hprepare, rfl, rfl⟩ := compiledQuery_eq_ok hbackend h
  obtain ⟨hcondition, hne, -⟩ := Selection.compile_eq_ok hcompile
  have hmapped : (s.trimmed session.naming).Mapped session.naming :=
    Selection.mapped_trimmed hcondition hne
  have hwritten := s.written_trimmed session.naming
  have hparse := hmapped.parse_sql htells horders htop
  rw [hwritten] at hparse
  have hp : p = ⟨(s.trimmed session.naming).image session.naming,
      List.replicate (conditionCount s.constraint) none, false⟩ := by
    rw [Database.prepare, hparse] at hprepare
    obtain ⟨parsed, hparsed, hprepare⟩ := ok_of_bind hprepare
    obtain ⟨tables, -, hprepare⟩ := ok_of_bind hprepare
    cases hparsed
    exact (Except.ok.inj hprepare).symm
  have hcount : (s.written session.naming).placeholders.length = conditionCount s.constraint :=
    (length_numbered _ _).trans (length_conditionLeaves _)
  have hcolumns := hmapped.columns_written
  rw [hwritten] at hcolumns
  subst hp
  obtain ⟨hopened, p, hp, hopen, hstatement, hlength⟩ :=
    ({ store with slots := slots } : Store Memory).stands_preparing
      (p := ⟨(s.trimmed session.naming).image session.naming,
        List.replicate (conditionCount s.constraint) none, false⟩) rfl
  exact ⟨hmapped, ⟨rfl, hcount, hcolumns, _, p, hopened, hp, hopen, hstatement,
    hlength.trans List.length_replicate⟩, rfl, rfl⟩

/-- Making a query over new handles changes nothing that can be read. -/
theorem valueOf_compiledQuery (h : session.compiledQuery s autoClose store = (.ok q, made))
    (hfresh : store.slots.Fresh s.fields) : made.valueOf = store.valueOf := by
  obtain ⟨slots, p, hcompile, -, rfl, -⟩ := compiledQuery_eq_ok hbackend h
  have hcolumns : store.slots.Fresh (s.written session.naming).columns := by
    intro column hcolumn
    obtain ⟨c, hc, rfl⟩ := List.mem_map.1 hcolumn
    exact hfresh _ (mem_selectedColumns hc).1
  have huntouched := Selection.untouched_assignFrom hcolumns 1
  rw [← Selection.compile_slots hcompile] at huntouched
  rw [Store.valueOf_preparing, Store.valueOf_of_untouched huntouched]

end Session

/-! ## Mutations -/

namespace Session

variable {session : Session Memory} (hbackend : session.backend = Memory.backend)
  {m : CompiledMutation} {statement : Statement} (hreads : m.Reads statement)
  {store : Store Memory} {tables : List Table}
  (htables : statement.requiredTables.mapM store.backend.database.table = .ok tables)
include hbackend hreads htables

/-- A mutation whose tables exist is prepared. -/
theorem prepareMutation_eq :
    session.prepareMutation m store = (.ok ⟨m, ⟨store.statements.size⟩⟩,
      store.preparing ⟨statement, List.replicate m.parameterCount none, false⟩) := by
  have hprepare := prepare_eq hbackend m.sql store
  have hp : store.backend.database.prepare m.sql =
      .ok ⟨statement, List.replicate m.parameterCount none, false⟩ := by
    rw [Database.prepare, hreads.parsed]
    exact (except_bind_of_ok rfl).trans (except_bind_of_ok htables)
  rw [hp] at hprepare
  exact bind_of_ok hprepare

variable {vs : List Value} (hvalues : requestHanded store.valueOf m.values m.constraint = some vs)
include hvalues

/-- A prepared mutation whose values can be had does what its statement does. -/
theorem run_prepareMutation :
    ∃ r after, session.prepareMutation m store = (.ok r, after) ∧
      ∃ bound : Store Memory, bound.outline = after.outline ∧
        session.run r after =
          ((store.backend.database.mutate vs statement).1.mapError (.execution m.sql),
            bound.withDatabase (store.backend.database.mutate vs statement).2) ∧
        ∃ id, r.statement.Stands id statement m.parameterCount after := by
  have hprepare := prepareMutation_eq hbackend hreads htables
  have hstands := store.stands_preparing
    (p := ⟨statement, List.replicate m.parameterCount none, false⟩) rfl
  rw [List.length_replicate] at hstands
  have hhanded := hvalues
  rw [← Store.valueOf_preparing store
    ⟨statement, List.replicate m.parameterCount none, false⟩] at hhanded
  have hcounted := hstands
  rw [show StatementRef.Stands _ _ _ m.parameterCount = StatementRef.Stands _ _ _ _ from
    congrArg _ hreads.count] at hcounted
  obtain ⟨bound, houtline, hrun⟩ := runWith_eq hbackend (r := ⟨m, ⟨store.statements.size⟩⟩)
    m.values hcounted hreads.count hhanded
  exact ⟨_, _, hprepare, bound, houtline, hrun, _, hstands⟩

/-- So does one that is run once and then closed. -/
theorem runOnce_prepareMutation :
    ∃ after, (do session.runOnce (← session.prepareMutation m) : Step Memory Nat) store =
        ((store.backend.database.mutate vs statement).1.mapError (.execution m.sql), after) ∧
      after.backend.database = (store.backend.database.mutate vs statement).2 := by
  obtain ⟨r, prepared, hprepare, bound, houtline, hrun, id, hstands⟩ :=
    run_prepareMutation hbackend hreads htables hvalues
  cases hresult : (store.backend.database.mutate vs statement).1 with
  | error e =>
    rw [hresult] at hrun
    exact ⟨_, (bind_of_ok hprepare).trans (bind_of_error hrun), rfl⟩
  | ok count =>
    rw [hresult] at hrun
    have hstands' := hstands.of_outline houtline
    have hknown : ∀ id', open? r.statement
        (bound.withDatabase (store.backend.database.mutate vs statement).2) = some id' →
        (bound.backend.statements[id'.number]?).isSome := by
      intro id' hid'
      obtain rfl := Option.some.inj (hid'.symm.trans hstands'.opened)
      obtain ⟨p, hp, -⟩ := hstands'.prepared
      exact Option.isSome_iff_exists.2 ⟨p, hp⟩
    have hclosed := closeStatement_ok hbackend hknown r.compiled.sql
    have hkeeps := keeps_closeStatement hbackend r.statement r.compiled.sql
      (bound.withDatabase (store.backend.database.mutate vs statement).2)
    rcases hclose : session.closeStatement r.statement r.compiled.sql
      (bound.withDatabase (store.backend.database.mutate vs statement).2) with ⟨result, after⟩
    rw [hclose] at hclosed hkeeps
    obtain rfl : result = .ok () := hclosed
    refine ⟨after, (bind_of_ok hprepare).trans ((bind_of_ok hrun).trans (bind_of_ok hclose)), ?_⟩
    exact congrArg (fun store : Store Memory => store.backend.database) hkeeps

end Session

end EntityQuery
