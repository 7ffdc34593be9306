import EntityQuery.Proofs.Execution.Joining
import EntityQuery.Proofs.Request.Selecting
import EntityQuery.Proofs.Session.Making

/-!
# Queries keep the meaning of conditions

A bare selection goes a long way until its rows are there: it is written as text, the text is parsed
and prepared, values are bound to its parameters, and the statement runs over the joined rows of its
tables. On the backend in memory the rows at the end are those that the condition itself means.

* `Query.Held` says that a store holds the query of a selection: its statement is open, and is the
  image of the selection. Preparing brings it about (`Selection.Bare.held`), and no execution ends it.
* `Selection.Bare.select_eq`: running the statement gives `Naming.selected`.
* `selected_rows_have_meaning` is all of it together, for any number of executions.
-/

namespace EntityQuery

open Sql

/-! ## Running the statement -/

section Select

variable {naming : Naming} {s : Selection} {db : Database} {rows : Entity → List Row}

theorem Database.Stores.table {e : Entity} (h : db.Stores naming e (rows e)) :
    db.table (naming.tableName e) = .ok (naming.tableOf rows e) := by
  rw [Database.table, h.found]
  rfl

/-- The tables of stored entities. -/
theorem tables_of_stores {es : List Entity} (h : ∀ e ∈ es, db.Stores naming e (rows e)) :
    (es.map naming.tableName).mapM db.table = .ok (es.map (naming.tableOf rows)) := by
  induction es with
  | nil => rfl
  | cons e es ih =>
    have he := (h e List.mem_cons_self).table
    have hrest := ih fun e' he' => h e' (List.mem_cons_of_mem _ he')
    rw [List.map_cons, List.mapM_cons, he, hrest]
    rfl

/-- Where all tables exist, the result columns have names. -/
theorem resultColumns_of_stores {es : List Entity} (h : ∀ e ∈ es, db.Stores naming e (rows e))
    {q : Select} (htables : q.tables = es.map naming.tableName) :
    ∃ columns, db.resultColumns (.select q) = .ok columns :=
  ⟨_, Database.resultColumns_of_tables (htables ▸ tables_of_stores h)⟩

/-- Running a bare selection gives the selected cells of the combinations of which its condition is
true. -/
theorem Selection.Bare.select_eq (h : s.Bare naming) {fed : Array Value} {parameters : List Value}
    (htells : naming.Tells s.entities) (hstores : ∀ e ∈ s.entities, db.Stores naming e (rows e))
    (harguments : conditionArguments fed s.constraint = some parameters)
    (hmeaning : ∀ c ∈ combinations rows s.entities,
      (conditionMeaning (naming.cell c) fed s.constraint).isSome) :
    ∃ columns, db.select parameters (s.query naming) =
      .ok ⟨columns, naming.selected rows s.entities (s.fields.map Prod.fst) s.constraint fed⟩ := by
  have hrows : selectRows (s.entities.map (naming.tableOf rows)) parameters (s.query naming) = _ :=
    selectRows_eq htells (fun e he => (hstores e he).width) (nodup_eraseDups _)
      (fun f hf => ⟨h.mapped f hf, mem_entities hf⟩) harguments hmeaning
  obtain ⟨columns, hcolumns⟩ := resultColumns_of_stores hstores (rfl : (s.query naming).tables = _)
  have htables : (s.query naming).tables.mapM db.table = _ := tables_of_stores hstores
  refine ⟨columns, ?_⟩
  rw [Database.select, htables]
  simp only [bind, Except.bind, hrows, Except.mapError, hcolumns]
  rfl

end Select

/-! ## Preparing -/

section Prepare

variable {naming : Naming} {s : Selection} {session : Session Memory}

theorem Selection.Bare.prepare_eq (h : s.Bare naming) (htells : naming.Tells s.entities)
    {db : Database} {rows : Entity → List Row}
    (hstores : ∀ e ∈ s.entities, db.Stores naming e (rows e)) :
    db.prepare (s.written naming).sql =
      .ok ⟨s.image naming, List.replicate (conditionCount s.constraint) none, false⟩ := by
  have htables : (s.image naming).requiredTables = s.entities.map naming.tableName := by
    rw [h.image_eq htells]
    rfl
  rw [Database.prepare, h.parse_sql htells]
  simp only [bind, Except.bind, Except.mapError, htables, tables_of_stores hstores]
  rfl

/-- A query is made and held where its tables exist and its handles are free, if what has a column in
its selection is bare. Each handle gets the place of its field. -/
theorem Session.compiledQuery_bare (hbackend : session.backend = Memory.backend)
    (hstrict : session.config.strict = true →
      session.naming.Maps (s.fields.map Prod.fst) ∧ session.naming.Maps (s.orders.map Prod.fst))
    (hbare : (s.trimmed session.naming).Bare session.naming)
    (htells : session.naming.Tells (s.trimmed session.naming).entities) {store : Store Memory}
    (hfree : store.slots.Free s.fields) {rows : Entity → List Row}
    (hstores : ∀ e ∈ (s.trimmed session.naming).entities,
      store.backend.database.Stores session.naming e (rows e)) (autoClose : Bool) :
    ∃ q made, session.compiledQuery s autoClose store = (.ok q, made) ∧
      q.Held session.naming (s.trimmed session.naming) made ∧ store.SameData made ∧
      made.slots.size = store.slots.size ∧
      ∀ i p, (s.trimmed session.naming).fields[i]? = some p → made.slots.index? p.2 = some (i + 1) := by
  have hmapped := hbare.toMapped
  have hwritten := s.written_trimmed session.naming
  have hcolumns := hmapped.columns_written
  have hprepare := hbare.prepare_eq htells hstores
  rw [hwritten] at hcolumns hprepare
  have hfree' : store.slots.Free (s.written session.naming).columns :=
    hcolumns.symm ▸ hfree.sublist List.filter_sublist
  have hne := hmapped.selectedColumns_ne
  rw [selectedColumns_trimmed] at hne
  have hcompile := Selection.compile_ok hstrict hmapped.mapped_condition hne hfree'
  obtain ⟨slots, hassign, hnumbered⟩ := Selection.assignFrom_of_free hfree' 1
  rw [hassign] at hcompile
  have hmade := compiledQuery_ok hbackend hcompile hprepare autoClose
  obtain ⟨-, hheld, hsame⟩ := compiledQuery_held hbackend hmade htells
    (fun key hkey => by rw [hbare.unsorted] at hkey; cases hkey)
    (fun n hn => by rw [show s.top = none from hbare.unlimited] at hn; cases hn)
  refine ⟨_, _, hmade, hheld, hsame, hnumbered.size, fun i p hp => ?_⟩
  rw [← hcolumns] at hp
  exact (hnumbered.own i p hp).trans (congrArg some (Nat.add_comm 1 i))

/-- The query of a bare selection is made where its tables exist and its handles are free. -/
theorem Selection.Bare.held (h : s.Bare naming) (htells : naming.Tells s.entities)
    (hbackend : session.backend = Memory.backend) (hnaming : session.naming = naming)
    {store : Store Memory} {rows : Entity → List Row} (hfree : store.slots.Free s.fields)
    (hstores : ∀ e ∈ s.entities, store.backend.database.Stores naming e (rows e))
    (autoClose : Bool) :
    ∃ q store', session.compiledQuery s autoClose store = (.ok q, store') ∧
      q.Held naming s store' ∧ store.SameData store' := by
  subst hnaming
  have hmapped := h.toMapped
  have htrimmed := hmapped.trimmed_eq
  rw [← htrimmed] at h htells hstores
  obtain ⟨q, made, hmade, hheld, hsame, -⟩ := Session.compiledQuery_bare hbackend
    (fun _ => ⟨hmapped.mapped_fields, hmapped.mapped_orders⟩) h htells hfree hstores autoClose
  rw [htrimmed] at hheld
  exact ⟨q, made, hmade, hheld, hsame⟩

end Prepare

/-! ## Executing -/

/-- The values of literals and fed cells are handed over, whatever else can be read. -/
theorem conditionHanded_of_arguments {store : Store Memory} {condition : Option Constraint}
    {vs : List Value} (h : conditionArguments store.cells condition = some vs) :
    conditionHanded store.valueOf condition = some vs := by
  have hoperand (o : Operand) (ws : List Value) (ho : o.arguments store.cells = some ws) :
      o.handed store.valueOf = some ws := by
    cases o with
    | field f | value f v => exact ho
    | accessor f a =>
      cases a with
      | column handle => cases ho
      | literal v | fed cell => exact ho
  cases condition with
  | none => exact h
  | some c =>
    change c.arguments store.cells = some vs at h
    change c.handed store.valueOf = some vs
    induction c generalizing vs with
    | compare op left right =>
      obtain ⟨ls, rs, hl, hr, rfl⟩ := arguments_append h
      rw [Constraint.handed, hoperand left ls hl, hoperand right rs hr]
      rfl
    | and left right ihl ihr | or left right ihl ihr =>
      obtain ⟨ls, rs, hl, hr, rfl⟩ := arguments_append h
      rw [Constraint.handed, ihl hl, ihr hr]
      rfl
    | inList negated f values | isNull negated f | contains negated f text => exact h

/-- Every execution of a held query shows the rows that its condition means, and the query is held
again. -/
theorem Query.Held.execute_eq {naming : Naming} {s : Selection} {session : Session Memory}
    {q : Query} {store : Store Memory} {rows : Entity → List Row} {vs : List Value}
    (hheld : q.Held naming s store) (h : s.Bare naming) (htells : naming.Tells s.entities)
    (hbackend : session.backend = Memory.backend)
    (hstores : ∀ e ∈ s.entities, store.backend.database.Stores naming e (rows e))
    (harguments : conditionArguments store.cells s.constraint = some vs)
    (hmeaning : ∀ c ∈ combinations rows s.entities,
      (conditionMeaning (naming.cell c) store.cells s.constraint).isSome) :
    ∃ id store', session.execute q store = (.ok id, store') ∧
      store'.Shows id s.fields
        (naming.selected rows s.entities (s.fields.map Prod.fst) s.constraint store.cells) ∧
      q.Held naming s store' ∧ store.SameData store' := by
  obtain ⟨id, hstands⟩ := hheld.stands
  obtain ⟨names, hselect⟩ := h.select_eq htells hstores harguments hmeaning
  rw [h.image_eq htells, ← hheld.condition] at hstands
  have hcount := hheld.count
  have hvalues := conditionHanded_of_arguments harguments
  rw [← hheld.condition] at hcount hvalues
  obtain ⟨bound, houtline, hrun⟩ := Session.execute_eq hbackend hstands hcount hvalues
  rw [hselect] at hrun
  have hcursors : bound.cursors = store.cursors := (congrArg (·.cursors) houtline :)
  have hshows := bound.shows_opening q ⟨names,
    naming.selected rows s.entities (s.fields.map Prod.fst) s.constraint store.cells⟩
  rw [hcursors, hheld.columns] at hshows
  exact ⟨_, _, hrun, hshows, hheld.opening houtline _, Store.sameData_opening houtline q _⟩

/-! ## Two entities -/

/-- An entity whose rows belong to persons. -/
def Entity.pet : Entity :=
  ⟨1, "pet", none, [⟨"owner", .integer, false, none⟩, ⟨"name", .string, false, none⟩]⟩

/-- The owner of a pet. -/
def Field.petOwner : Field := ⟨.pet, 0, by decide⟩

/-- The name of a pet. -/
def Field.petName : Field := ⟨.pet, 1, by decide⟩

/-- The names of persons and pets are told apart. -/
theorem Naming.plain_tells : Naming.plain.Tells [.person, .pet] :=
  .of_words (by decide) (by decide) (by decide) (by decide)

/-! ## Meaning -/

/-- Queries keep the meaning of conditions.

Under a naming that tells some entities apart, let a selection ask for mapped fields of them under a
condition, with handles that are free, where the tables of the entities exist. Its query is made. As
long as it is held, it can be executed again and again, with other fed cells and other rows in the
tables. Each execution whose values bind shows, in the order of the combinations, the selected cells
of those combinations of one row of each entity of which the condition is true, if it has a meaning
on all of them. -/
theorem selected_rows_have_meaning (naming : Naming) (config : Config) (store : Store Memory)
    {es : List Entity} {s : Selection} {stored : Entity → List Row} (htells : naming.Tells es)
    (hbare : s.Bare naming) (hes : ∀ f ∈ s.fieldsRead, f.entity ∈ es)
    (hfree : store.slots.Free s.fields)
    (hstores : ∀ e ∈ es, store.backend.database.Stores naming e (stored e)) (autoClose : Bool) :
    let session : Session Memory := ⟨Memory.backend, naming, config⟩
    ∃ q made, session.compiledQuery s autoClose store = (.ok q, made) ∧ q.Held naming s made ∧
      store.SameData made ∧
      ∀ (now : Store Memory) (rows : Entity → List Row) (values : List Value),
        q.Held naming s now → (∀ e ∈ es, now.backend.database.Stores naming e (rows e)) →
        conditionArguments now.cells s.constraint = some values →
        (∀ c ∈ combinations rows s.entities,
          (conditionMeaning (naming.cell c) now.cells s.constraint).isSome) →
        ∃ id after, session.execute q now = (.ok id, after) ∧
          after.Shows id s.fields
            (naming.selected rows s.entities (s.fields.map Prod.fst) s.constraint now.cells) ∧
          q.Held naming s after ∧ now.SameData after := by
  intro session
  have hsub : ∀ e ∈ s.entities, e ∈ es := by
    intro e he
    obtain ⟨f, hf, rfl⟩ := List.mem_map.1 (List.mem_eraseDups.1 he)
    exact hes f hf
  have htells := htells.mono hsub
  obtain ⟨q, made, hcompiled, hheld, hsame⟩ : ∃ q made,
      session.compiledQuery s autoClose store = (.ok q, made) ∧ q.Held naming s made ∧
        store.SameData made :=
    hbare.held htells rfl rfl hfree (fun e he => hstores e (hsub e he)) autoClose
  refine ⟨q, made, hcompiled, hheld, hsame, fun now rows values hnow hrows hvalues hmeaning => ?_⟩
  exact hnow.execute_eq hbare htells rfl (fun e he => hrows e (hsub e he)) hvalues hmeaning

/-- Two entities, a condition over both with a fed cell, rows with absent cells: one combination is
left, and its first cell is absent. -/
theorem selected_rows_have_meaning_join :
    let condition : Constraint :=
      .and (.compare .equal (.field .personId) (.field .petOwner))
        (.and (.compare .less (.field .personId) (.accessor .personId (.fed ⟨0⟩)))
          (.or (.contains false .petName "o") (.inList true .personName [.string "Ada"])))
    let people : List Row :=
      [[.integer 1, .string "Ada"], [.integer 2, .null], [.integer 3, .string "Eve"]]
    let pets : List Row :=
      [[.integer 1, .string "Rex"], [.integer 2, .string "Odo"], [.null, .string "Bo"],
        [.integer 3, .string "Rocco"]]
    let session : Session Memory := ⟨Memory.backend, .plain, {}⟩
    let built := (SelectBuilder.start (.entity .person) (some condition)).selectFields #[]
      [.personName, .petName]
    ∃ db₁ db₂, Database.empty.createFor .plain .person = .ok db₁ ∧
      db₁.createFor .plain .pet = .ok db₂ ∧
      let db := (db₂.replace ⟨Database.key "person", Naming.plain.columnsOf .person, people⟩).replace
        ⟨Database.key "pet", Naming.plain.columnsOf .pet, pets⟩
      ∃ q made id after,
        session.compiledQuery built.1.selection false ⟨⟨db, #[], #[]⟩, #[.null], built.2, #[], #[]⟩ =
          (.ok q, made) ∧
        session.execute q (made.feed ⟨0⟩ (.integer 3)) = (.ok id, after) ∧
        after.Shows id built.1.selection.fields [[.null, .string "Odo"]] := by
  intro condition people pets session built
  obtain ⟨db₁, db₂, h₁, h₂⟩ : ∃ db₁ db₂, Database.empty.createFor .plain .person = .ok db₁ ∧
      db₁.createFor .plain .pet = .ok db₂ := ⟨_, _, rfl, rfl⟩
  refine ⟨db₁, db₂, h₁, h₂, ?_⟩
  intro db
  have hperson : db.Stores .plain .person people :=
    (((Database.stores_createFor h₁).createFor h₂).replace (by decide)).replace_of_ne (by decide)
  have hpet : db.Stores .plain .pet pets :=
    ((Database.stores_createFor h₂).replace_of_ne (by decide)).replace (by decide)
  let rows : Entity → List Row := fun e => if e = .person then people else pets
  have hstores : ∀ e ∈ [Entity.person, .pet], db.Stores .plain e (rows e) := by
    intro e he
    rcases List.mem_cons.1 he with rfl | he
    · exact hperson
    · exact List.mem_singleton.1 he ▸ hpet
  have hfree : built.2.Free built.1.selection.fields :=
    SelectBuilder.free_selectFields ⟨by decide, by decide, by decide⟩ _
  have hbare : built.1.selection.Bare .plain := ⟨by decide, fun _ _ => rfl, rfl, rfl, rfl⟩
  obtain ⟨q, made, hmade, hheld, hsame, hrun⟩ := selected_rows_have_meaning .plain {}
    ⟨⟨db, #[], #[]⟩, #[.null], built.2, #[], #[]⟩ Naming.plain_tells hbare (by decide) hfree hstores
    false
  have hcells : (made.feed ⟨0⟩ (.integer 3)).cells = #[.integer 3] := by
    rw [Store.feed, hsame.cells]
    rfl
  have hnow : ∀ e ∈ [Entity.person, .pet],
      (made.feed ⟨0⟩ (.integer 3)).backend.database.Stores .plain e (rows e) := by
    rw [Store.feed, hsame.database]
    exact hstores
  obtain ⟨id, after, hafter, hshows, -⟩ := hrun (made.feed ⟨0⟩ (.integer 3)) rows
    [.integer 3, .string "%o%", .string "Ada"] (hheld.feed _ _) hnow (by rw [hcells]; rfl)
    (by rw [hcells]; decide)
  rw [hcells] at hshows
  exact ⟨q, made, id, after, hmade, hafter, hshows⟩

end EntityQuery
