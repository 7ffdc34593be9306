import EntityQuery.Backend.Memory
import EntityQuery.Proofs.Execution.TypedRows
import EntityQuery.Proofs.Storage.EntityTables

/-!
# Databases that can be reached

A database in memory starts empty. Tables are created and removed, and statements are prepared, get
parameters and run, in any order and as often as wanted; many of these steps fail, some of them midway.

* `StorageStep` is one such step, and `Memory.reach` takes many of them. It keeps account of the tables
  that were created and not removed since (`Creation`).
* `Database.Sound` is what every step keeps: the tables are those of the account, and their rows are in
  stored form.
* `reachable_tables_sound`: so every table that is ever there has columns, rows of their types, and the
  upper-cased name that it was created with.
-/

namespace EntityQuery

open Sql

/-! ## Cells -/

/-- The type of the columns that store the value as it is. An absent value belongs to no type. -/
def Value.columnType? : Value → Option ColumnType
  | .null => none
  | .integer _ => some .integer
  | .long _ => some .bigint
  | .double _ => some .double
  | .boolean _ => some .boolean
  | .string _ => some .varchar
  | .blob _ => some .blob
  | .date _ => some .date

/-- What a column holds is absent, or of its type. -/
theorem ColumnType.holds_iff {type : ColumnType} {v : Value} :
    type.holds v = true ↔ v = .null ∨ v.columnType? = some type := by
  cases type <;> cases v <;> simp [holds, Value.columnType?]

/-! ## Accounts of tables -/

/-- What a table is created with. -/
structure Creation where
  /-- the name, as it was written -/
  name : String
  /-- the columns -/
  columns : List Column

/-- The name that a created table is filed under, and its columns. -/
def Creation.filed (c : Creation) : String × List Column := (Database.key c.name, c.columns)

/-- The table that a statement creates. -/
def Sql.Statement.creations : Statement → List Creation
  | .createTable s => [⟨s.table, s.columns.map fun (name, type) => ⟨name, type⟩⟩]
  | _ => []

/-- The account after a mutation: what it creates is entered if it succeeds. -/
def Creation.enter (made new : List Creation) : Except BackendError Nat → List Creation
  | .ok _ => made ++ new
  | .error _ => made

namespace Database

/-- The names of the tables with their columns. -/
def schemas (db : Database) : List (String × List Column) := db.tables.map fun t => (t.name, t.columns)

/-- The tables are those of an account, and their rows are in stored form. -/
structure Sound (db : Database) (made : List Creation) : Prop where
  /-- each table is filed under the upper-cased name that it was created with -/
  filed : db.schemas = made.map Creation.filed
  /-- no table was created without columns -/
  columns : ∀ c ∈ made, c.columns ≠ []
  /-- the rows are in stored form -/
  rows : db.WellTyped

variable {db db' : Database} {made : List Creation} {parameters : List Value}

theorem sound_empty : empty.Sound [] := ⟨rfl, fun _ hc => absurd hc List.not_mem_nil, wellTyped_empty⟩

/-- Other rows in one of the tables leave names and columns alone. -/
theorem schemas_replace {t : Table} (ht : t ∈ db.tables) (rows : List Row) :
    (db.replace { t with rows := rows }).schemas = db.schemas := by
  change (replaced db.tables { t with rows := rows }).map _ = _
  rw [replaced, List.map_map]
  refine List.map_congr_left fun old hold => ?_
  rw [Function.comp_apply]
  split
  · next hname => rw [eq_of_name_eq hold ht hname]
  · rfl

theorem schemas_insert (s : Insert) : (db.insert parameters s).2.schemas = db.schemas := by
  rw [insert]
  cases hplan : db.insertPlan parameters s with
  | error e => rfl
  | ok plan =>
    rcases plan with ⟨t, rows⟩
    have hrows := schemas_replace (mem_of_insertPlan hplan) (t.rows ++ t.storable rows)
    dsimp only
    rw [Table.insertRows_eq]
    cases t.refusal rows <;> exact hrows

theorem schemas_update (s : Update) : (db.update parameters s).2.schemas = db.schemas := by
  rw [update]
  cases hplan : db.updatePlan parameters s with
  | error e => rfl
  | ok plan =>
    rcases plan with ⟨t, rows⟩
    obtain ⟨t', ht', hplan⟩ := ok_of_bind hplan
    obtain ⟨assignments, -, hplan⟩ := ok_of_bind hplan
    obtain ⟨rows', -, hplan⟩ := ok_of_bind hplan
    cases hplan
    exact schemas_replace (table_eq_ok ht') _

theorem schemas_delete (s : Delete) : (db.delete parameters s).2.schemas = db.schemas := by
  rw [delete]
  cases hplan : db.deletePlan parameters s with
  | error e => rfl
  | ok plan =>
    rcases plan with ⟨t, rows⟩
    obtain ⟨t', ht', hplan⟩ := ok_of_bind hplan
    have ht : t = t' := by
      cases hfilter : s.filter with
      | none =>
        rw [hfilter] at hplan
        cases hplan
        rfl
      | some e =>
        rw [hfilter] at hplan
        obtain ⟨rows', -, hplan⟩ := ok_of_bind hplan
        cases hplan
        rfl
    exact schemas_replace (ht ▸ table_eq_ok ht') _

/-! ## What each step keeps -/

/-- A table that is created enters the account. -/
theorem Sound.create (h : db.Sound made) {name : String} {columns : List Column}
    (hcreate : db.create name columns = .ok db') : db'.Sound (made ++ [⟨name, columns⟩]) := by
  have hrows := h.rows.create hcreate
  rw [Database.create] at hcreate
  split at hcreate
  · cases hcreate
  · next hne =>
    split at hcreate
    · cases hcreate
    · cases hcreate
      refine ⟨?_, ?_, hrows⟩
      · rw [schemas, List.map_append, List.map_append, ← h.filed]
        rfl
      · intro c hc
        rcases List.mem_append.1 hc with hc | hc
        · exact h.columns c hc
        · rw [List.mem_singleton.1 hc]
          simpa using hne

/-- A table that is removed leaves the account. -/
theorem Sound.drop (h : db.Sound made) {name : String} (hdrop : db.drop name = .ok db') :
    db'.Sound (made.filter fun c => key c.name != key name) := by
  have hrows := h.rows.drop hdrop
  rw [Database.drop] at hdrop
  split at hdrop
  · cases hdrop
    refine ⟨?_, fun c hc => h.columns c (List.mem_filter.1 hc).1, hrows⟩
    have hfiled := congrArg (List.filter fun schema => schema.1 != key name) h.filed
    rw [schemas, List.filter_map, List.filter_map] at hfiled
    exact hfiled
  · cases hdrop

/-- A mutation creates the table that it says, or none, and keeps the rows in stored form, whether it
succeeds or fails. -/
theorem Sound.mutate (h : db.Sound made) (parameters : List Value) (s : Statement) :
    (db.mutate parameters s).2.Sound
      (Creation.enter made s.creations (db.mutate parameters s).1) := by
  have hrows := h.rows.mutate parameters s
  have hsame (hs : s.creations = [])
      (hschemas : (db.mutate parameters s).2.schemas = db.schemas) :
      (db.mutate parameters s).2.Sound
        (Creation.enter made s.creations (db.mutate parameters s).1) := by
    have hmade : Creation.enter made s.creations (db.mutate parameters s).1 = made := by
      rw [hs]
      cases (db.mutate parameters s).1 with
      | ok count => exact List.append_nil made
      | error e => rfl
    rw [hmade]
    exact ⟨hschemas.trans h.filed, h.columns, hrows⟩
  cases s with
  | select s => exact hsame rfl rfl
  | insert s => exact hsame rfl (schemas_insert s)
  | update s => exact hsame rfl (schemas_update s)
  | delete s => exact hsame rfl (schemas_delete s)
  | createTable s =>
    rw [Database.mutate]
    split
    · next hcreate => exact h.create hcreate
    · exact h

/-- A table is found under every name that is upper-cased to its own. -/
theorem find?_of_mem {t : Table} (ht : t ∈ db.tables) {name : String} (hname : key name = t.name) :
    db.find? name = some t := by
  cases hfound : db.find? name with
  | none =>
    have hmiss := List.find?_eq_none.1 hfound t ht
    rw [hname] at hmiss
    exact absurd (beq_self_eq_true t.name) hmiss
  | some t' => rw [eq_of_name_eq (mem_of_find? hfound) ht ((name_of_find? hfound).trans hname)]

end Database

/-! ## Runs -/

/-- A step on a database in memory and the statements that are prepared on it. -/
inductive StorageStep where
  /-- creates a table -/
  | create (name : String) (columns : List Column)
  /-- creates the table behind an entity -/
  | createFor (naming : Naming) (e : Entity)
  /-- removes a table -/
  | drop (name : String)
  /-- runs a statement without parameters -/
  | execute (sql : String)
  /-- prepares a statement -/
  | prepare (sql : String)
  /-- sets a parameter of a prepared statement -/
  | set (id : StatementId) (index : Nat) (setting : Setting)
  /-- runs a prepared query -/
  | query (id : StatementId)
  /-- runs a prepared mutation -/
  | mutate (id : StatementId)
  /-- closes a prepared statement -/
  | close (id : StatementId)

namespace Memory

/-- The table that a prepared statement creates. -/
def creations (m : Memory) (id : StatementId) : List Creation :=
  ((m.statements[id.number]?).map (·.statement.creations)).getD []

/-- Takes a step, and keeps account of the tables. -/
def step (state : Memory × List Creation) : StorageStep → Memory × List Creation
  | .create name columns =>
    match state.1.database.create name columns with
    | .ok db => ({ state.1 with database := db }, state.2 ++ [⟨name, columns⟩])
    | .error _ => state
  | .createFor naming e =>
    match state.1.database.createFor naming e with
    | .ok db =>
      ({ state.1 with database := db }, state.2 ++ [⟨naming.tableName e, naming.columnsOf e⟩])
    | .error _ => state
  | .drop name =>
    match state.1.database.drop name with
    | .ok db =>
      ({ state.1 with database := db },
        state.2.filter fun c => Database.key c.name != Database.key name)
    | .error _ => state
  | .execute sql =>
    let outcome := state.1.database.execute sql
    ({ state.1 with database := outcome.2 },
      Creation.enter state.2 (((parse sql).toOption.map (·.statement.creations)).getD []) outcome.1)
  | .prepare sql => ((backend.prepare sql state.1).2, state.2)
  | .set id index setting => ((backend.set id index setting state.1).2, state.2)
  | .query id => ((backend.query id state.1).2, state.2)
  | .mutate id =>
    let outcome := backend.mutate id state.1
    (outcome.2, Creation.enter state.2 (state.1.creations id) outcome.1)
  | .close id => ((backend.close id state.1).2, state.2)

/-- Takes many steps, the first of them on an empty database. -/
def reach (steps : List StorageStep) : Memory × List Creation := steps.foldl step (.empty, [])

/-! ### Steps on statements -/

/-- A step on a statement leaves the database alone when what it does to every prepared statement
does. -/
theorem database_onStatement {α : Type} (id : StatementId)
    (f : Database → Prepared → Except BackendError α × Database × Prepared) (m : Memory)
    (h : ∀ p, (f m.database p).2.1 = m.database) : (onStatement id f m).2.database = m.database := by
  rw [onStatement]
  cases m.statements[id.number]? with
  | none => rfl
  | some p => exact h p

theorem database_prepare (sql : String) (m : Memory) :
    (backend.prepare sql m).2.database = m.database := by
  change (prepare sql m).2.database = m.database
  rw [prepare]
  cases m.database.prepare sql <;> rfl

theorem database_set (id : StatementId) (index : Nat) (setting : Setting) (m : Memory) :
    (backend.set id index setting m).2.database = m.database := by
  refine database_onStatement id _ m fun p => ?_
  cases (do p.set index (← setting.value) : Except BackendError Prepared) <;> rfl

theorem database_query (id : StatementId) (m : Memory) :
    (backend.query id m).2.database = m.database := by
  have hstatement := database_onStatement id (fun db p => (p.select db, db, p)) m fun _ => rfl
  change (query id m).2.database = m.database
  rw [query, bind_apply]
  rcases hresult : onStatement id (fun db p => (p.select db, db, p)) m with ⟨r, m'⟩
  rw [hresult] at hstatement
  cases r with
  | ok result => exact hstatement
  | error e => exact hstatement

end Memory

namespace Database

variable {db : Database} {made : List Creation}

/-- A prepared statement creates the table that it says, or none. -/
theorem Sound.run (h : db.Sound made) (p : Prepared) :
    (p.mutate db).2.Sound (Creation.enter made p.statement.creations (p.mutate db).1) := by
  rw [Prepared.mutate]
  split
  · exact h
  · split
    · exact h
    · exact h.mutate _ _

theorem Sound.execute (h : db.Sound made) (sql : String) :
    (db.execute sql).2.Sound (Creation.enter made
      (((parse sql).toOption.map (·.statement.creations)).getD []) (db.execute sql).1) := by
  rw [Database.execute]
  cases hp : db.prepare sql with
  | error e => exact h
  | ok p =>
    obtain ⟨parsed, hparsed, hp⟩ := ok_of_bind hp
    obtain ⟨tables, -, hp⟩ := ok_of_bind hp
    cases hp
    rw [ok_of_mapError hparsed]
    exact h.run _

end Database

/-- Every step keeps the account right and the rows in stored form. -/
theorem Memory.sound_step {m : Memory} {made : List Creation} (h : m.database.Sound made)
    (s : StorageStep) :
    (step (m, made) s).1.database.Sound (step (m, made) s).2 := by
  cases s with
  | create name columns =>
    rw [step]
    cases hcreate : m.database.create name columns with
    | ok db => exact h.create hcreate
    | error e => exact h
  | createFor naming e =>
    rw [step]
    cases hcreate : m.database.createFor naming e with
    | ok db => exact h.create hcreate
    | error e => exact h
  | drop name =>
    rw [step]
    cases hdrop : m.database.drop name with
    | ok db => exact h.drop hdrop
    | error e => exact h
  | execute sql => exact h.execute sql
  | prepare sql => exact (database_prepare sql m).symm ▸ h
  | set id index setting => exact (database_set id index setting m).symm ▸ h
  | query id => exact (database_query id m).symm ▸ h
  | mutate id =>
    change (onStatement id _ m).2.database.Sound
      (Creation.enter made (m.creations id) (onStatement id _ m).1)
    rw [onStatement, creations]
    cases m.statements[id.number]? with
    | none => exact h
    | some p => exact h.run p
  | close id =>
    have hdatabase : (backend.close id m).2.database = m.database :=
      database_onStatement id (fun db p => (.ok (), db, p.close)) m fun _ => rfl
    exact hdatabase.symm ▸ h

/-- Every run of steps leads to tables of the account, with rows in stored form. -/
theorem Memory.sound_reach (steps : List StorageStep) :
    (reach steps).1.database.Sound (reach steps).2 := by
  have hrun (state : Memory × List Creation) (h : state.1.database.Sound state.2) :
      (steps.foldl step state).1.database.Sound (steps.foldl step state).2 := by
    induction steps generalizing state with
    | nil => exact h
    | cons s steps ih => exact ih _ (sound_step h s)
  exact hrun _ Database.sound_empty

/-- Every database that can be reached holds tables of its account, and these alone: each has the
upper-cased name that it was created with, under which it is found, and the columns that it was created
with, of which there is one at least. Its rows have as many cells as it has columns, and each cell is
absent or has the type of its column. -/
theorem reachable_tables_sound (steps : List StorageStep) :
    let db := (Memory.reach steps).1.database
    let made := (Memory.reach steps).2
    (db.tables.map fun t => (t.name, t.columns)) =
        made.map (fun c => (Database.key c.name, c.columns)) ∧
      ∀ t ∈ db.tables,
        (∃ c ∈ made, t.name = Database.key c.name ∧ t.columns = c.columns ∧
          db.find? c.name = some t) ∧
        (∀ name, Database.key name = t.name → db.find? name = some t) ∧
        t.columns ≠ [] ∧
        ∀ row ∈ t.rows, row.length = t.columns.length ∧
          ∀ (i : Nat) (column : Column) (v : Value), t.columns[i]? = some column →
            row[i]? = some v → v ≠ .null → v.columnType? = some column.type := by
  intro db made
  have h : db.Sound made := Memory.sound_reach steps
  refine ⟨h.filed, fun t ht => ?_⟩
  obtain ⟨c, hc, hfiled⟩ : ∃ c ∈ made, c.filed = (t.name, t.columns) := by
    rw [← List.mem_map, ← h.filed]
    exact List.mem_map_of_mem ht
  obtain ⟨hname, hcolumns⟩ := Prod.mk.inj hfiled
  refine ⟨⟨c, hc, hname.symm, hcolumns.symm, Database.find?_of_mem ht hname⟩,
    fun name => Database.find?_of_mem ht, hcolumns ▸ h.columns c hc, fun row hrow => ?_⟩
  obtain ⟨hlength, hcells⟩ := h.rows t ht row hrow
  refine ⟨hlength, fun i column v hcolumn hv hnull => ?_⟩
  exact (ColumnType.holds_iff.1 (hcells i column v hcolumn hv)).resolve_left hnull

end EntityQuery
