import EntityQuery.Backend.Error
import EntityQuery.Naming
import EntityQuery.Storage.Table

/-!
# Databases

A database is a catalogue of tables. A table is filed under its upper-cased name, so that all
spellings that upper-case alike name it.

* `Database.create` files a new table, which must have columns and a free name;
* `Database.table` finds a table, `Database.replace` exchanges its contents;
* `createFor` makes the table behind an entity, with one column for each mapped field.
-/

namespace EntityQuery

/-- A catalogue of tables. -/
structure Database where
  /-- the tables, in order of creation -/
  tables : List Table
  /-- each name is filed once -/
  names_nodup : (tables.map (·.name)).Nodup
  deriving DecidableEq, Repr

namespace Database

/-- The database without tables. -/
def empty : Database := ⟨[], List.nodup_nil⟩

/-- The name a table is filed under. -/
def key (name : String) : String := Text.uppercased name

/-- The table of a name, if there is one. -/
def find? (db : Database) (name : String) : Option Table :=
  db.tables.find? (·.name == key name)

/-- The table of a name. -/
def table (db : Database) (name : String) : Except BackendError Table :=
  match db.find? name with
  | some t => .ok t
  | none => .error (.unknownTable name)

/-- Whether there is a table of a name. -/
def hasTable (db : Database) (name : String) : Bool := (db.find? name).isSome

/-- A name is taken exactly if a table is filed under it. -/
theorem hasTable_iff {db : Database} {name : String} :
    db.hasTable name = true ↔ key name ∈ db.tables.map (·.name) := by
  simp [hasTable, find?]

/-- The names of the tables in alphabetic order. -/
def tableNames (db : Database) : List String :=
  (db.tables.map (·.name)).mergeSort (fun a b => decide (a ≤ b))

/-- The number of rows of a table. -/
def rowCount (db : Database) (name : String) : Except BackendError Nat := do
  return (← db.table name).rows.length

/-- Files a new table without rows. -/
def create (db : Database) (name : String) (columns : List Column) :
    Except BackendError Database :=
  if columns.isEmpty then .error (.noColumns (key name))
  else if taken : db.hasTable name then .error (.tableExists (key name))
  else .ok ⟨db.tables ++ [⟨key name, columns, []⟩], by
    rw [List.map_append, List.nodup_append]
    refine ⟨db.names_nodup, List.pairwise_singleton _ _, fun a ha b hb hab => taken ?_⟩
    have hb : b = key name := List.mem_singleton.1 hb
    exact hasTable_iff.2 (hb ▸ hab ▸ ha)⟩

/-- Files the table behind an entity, with one column for each mapped field. -/
def createFor (db : Database) (naming : Naming) (e : Entity) : Except BackendError Database :=
  db.create (naming.tableName e) <| e.fields.filterMap fun f =>
    (naming.columnName f).map fun column => ⟨column, .ofKind f.kind⟩

/-- Removes a table. -/
def drop (db : Database) (name : String) : Except BackendError Database :=
  if db.hasTable name then
    .ok ⟨db.tables.filter (·.name != key name), db.names_nodup.sublist (List.filter_sublist.map _)⟩
  else .error (.unknownTable name)

/-- The tables with `t` in the place of the table of its name. -/
def replaced (tables : List Table) (t : Table) : List Table :=
  tables.map fun old => if old.name = t.name then t else old

/-- A table takes the place of one of its own name. -/
theorem names_replaced (tables : List Table) (t : Table) :
    (replaced tables t).map (·.name) = tables.map (·.name) := by
  simp only [replaced, List.map_map]
  refine List.map_congr_left fun old _ => ?_
  simp only [Function.comp]
  split
  · next h => exact h.symm
  · rfl

/-- Exchanges the rows of the table with the name of `t`. -/
def replace (db : Database) (t : Table) : Database :=
  ⟨replaced db.tables t, names_replaced db.tables t ▸ db.names_nodup⟩

/-- A table that is found has the upper-cased name it was looked up by. -/
theorem name_of_find? {db : Database} {name : String} {t : Table} (h : db.find? name = some t) :
    t.name = key name := by
  simpa using List.find?_some h

/-- A table that is found is one of the tables. -/
theorem mem_of_find? {db : Database} {name : String} {t : Table} (h : db.find? name = some t) :
    t ∈ db.tables := List.mem_of_find?_eq_some h

/-- Tables of one name are one table. -/
theorem eq_of_name_eq {db : Database} {t t' : Table} (ht : t ∈ db.tables) (ht' : t' ∈ db.tables)
    (h : t.name = t'.name) : t = t' := by
  obtain ⟨i, hi, rfl⟩ := List.mem_iff_getElem.1 ht
  obtain ⟨j, hj, rfl⟩ := List.mem_iff_getElem.1 ht'
  have hij : i = j := by
    refine (List.getElem?_inj (l := db.tables.map (·.name)) (by simpa using hi) db.names_nodup).1 ?_
    simp [hi, hj, h]
  subst hij
  rfl

/-- A table in its own place changes nothing. -/
theorem replace_of_mem {db : Database} {t : Table} (h : t ∈ db.tables) : db.replace t = db := by
  have hself : replaced db.tables t = db.tables := by
    refine (List.map_congr_left fun old hold => ?_).trans (List.map_id _)
    split
    · next hname => exact eq_of_name_eq h hold hname.symm
    · rfl
  simp only [replace, hself]

end Database

end EntityQuery
