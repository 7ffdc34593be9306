import EntityQuery.Proofs.Storage.Reachable

/-!
# Addressing columns

A column is read and written by its name, and the first column with a name, up to the case of ASCII
letters, is the one that is meant. No table refuses a column because of its name, so one may stand behind
another of the same name, and then it is out of reach.

* `Table.Addresses` says that a name stands for the cells of a column.
* `Table.addresses_iff`, `Table.addresses_self_iff` and `Table.addresses_all_iff` find the columns that
  are within reach of their names.
* `reachable_columns_addressed_iff`: what this means for all tables that can be reached, and for the fields
  of entities in them.
-/

namespace EntityQuery

/-! ## Names of columns -/

namespace Table

/-- The name stands for the column at the position: its cells are read and written under it. -/
structure Addresses (t : Table) (name : String) (i : Nat) : Prop where
  /-- the column is looked up by it -/
  found : t.columnIndex? name = some i
  /-- an expression reads them, with the name of the table or without it -/
  read : ∀ qualifier, Scope.isMeant qualifier t.name = true → t.scope.resolve qualifier name = .ok i
  /-- a statement writes them -/
  written : t.target name = .ok i

variable {t : Table} {name : String} {i : Nat}

/-- In the scope of a table, a name is looked up among its columns. -/
theorem resolve_scope {qualifier : Option String} (h : Scope.isMeant qualifier t.name = true) :
    t.scope.resolve qualifier name = .ok i ↔ t.columnIndex? name = some i := by
  rw [Scope.resolve_eq_ok_iff, Scope.positions, scope, Scope.positionsFrom, if_pos h, columnIndex?]
  cases Scope.columnIndex? t.columnNames name <;> simp [Scope.positionsFrom]

theorem target_eq_ok_iff : t.target name = .ok i ↔ t.columnIndex? name = some i := by
  rw [target]
  cases t.columnIndex? name <;> simp

theorem addresses_iff_columnIndex? : t.Addresses name i ↔ t.columnIndex? name = some i :=
  ⟨fun h => h.found, fun h => ⟨h, fun _ hmeant => (resolve_scope hmeant).2 h, target_eq_ok_iff.2 h⟩⟩

/-- A name stands for the first column that has it. -/
theorem addresses_iff :
    t.Addresses name i ↔
      (∃ column, t.columns[i]? = some column ∧ Text.sameName column.name name = true) ∧
        ∀ k < i, ∀ other, t.columns[k]? = some other → Text.sameName other.name name = false := by
  rw [addresses_iff_columnIndex?, columnIndex?, Scope.columnIndex?, columnNames,
    List.findIdx?_eq_some_iff_getElem]
  constructor
  · rintro ⟨hi, hsame, hbefore⟩
    rw [List.length_map] at hi
    rw [List.getElem_map] at hsame
    refine ⟨⟨_, List.getElem?_eq_getElem hi, hsame⟩, fun k hk other hother => ?_⟩
    obtain ⟨hlt, rfl⟩ := List.getElem?_eq_some_iff.1 hother
    simpa using hbefore k hk
  · rintro ⟨⟨column, hcolumn, hsame⟩, hbefore⟩
    obtain ⟨hi, rfl⟩ := List.getElem?_eq_some_iff.1 hcolumn
    refine ⟨by simpa using hi, by simpa using hsame, fun k hk => ?_⟩
    have hlt : k < t.columns.length := hk.trans hi
    simpa using hbefore k hk _ (List.getElem?_eq_getElem hlt)

/-- Two names that stand for columns stand for the same one exactly if they are the same name. -/
theorem Addresses.eq_iff {name' : String} {j : Nat} (hi : t.Addresses name i)
    (hj : t.Addresses name' j) : i = j ↔ Text.sameName name name' = true := by
  constructor
  · rintro rfl
    obtain ⟨⟨column, hcolumn, hsame⟩, -⟩ := addresses_iff.1 hi
    obtain ⟨⟨column', hcolumn', hsame'⟩, -⟩ := addresses_iff.1 hj
    obtain rfl := Option.some.inj (hcolumn.symm.trans hcolumn')
    rw [Text.sameName_comm] at hsame
    exact Text.sameName_trans hsame hsame'
  · intro hsame
    have hindex : t.columnIndex? name = t.columnIndex? name' := Scope.columnIndex?_congr hsame _
    exact Option.some.inj (hi.found.symm.trans (hindex.trans hj.found))

variable {column : Column}

/-- The name of a column stands for this column or for one before it. -/
theorem exists_addresses (h : t.columns[i]? = some column) :
    ∃ first ≤ i, t.Addresses column.name first := by
  cases hindex : t.columnIndex? column.name with
  | none =>
    rw [columnIndex?, Scope.columnIndex?, List.findIdx?_eq_none_iff] at hindex
    have hmiss := hindex column.name (List.mem_map_of_mem (List.mem_of_getElem? h))
    rw [Text.sameName_self] at hmiss
    cases hmiss
  | some first =>
    have haddress := addresses_iff_columnIndex?.2 hindex
    refine ⟨first, Nat.le_of_not_lt fun hlt => ?_, haddress⟩
    have hmiss := (addresses_iff.1 haddress).2 i hlt column h
    rw [Text.sameName_self] at hmiss
    cases hmiss

/-- A column is within reach of its name exactly if none before it has this name. -/
theorem addresses_self_iff (h : t.columns[i]? = some column) :
    t.Addresses column.name i ↔
      ∀ k < i, ∀ other, t.columns[k]? = some other → Text.sameName other.name column.name = false := by
  rw [addresses_iff, and_iff_right ⟨column, h, Text.sameName_self _⟩]

/-- All columns are within reach of their names exactly if these are told apart. -/
theorem addresses_all_iff :
    (∀ i column, t.columns[i]? = some column → t.Addresses column.name i) ↔
      t.columnNames.Pairwise fun a b => Text.sameName a b = false := by
  rw [columnNames, List.pairwise_map, List.pairwise_iff_getElem]
  constructor
  · intro hall k i hk hi hlt
    have hcolumn := List.getElem?_eq_getElem hi
    exact (addresses_self_iff hcolumn).1 (hall i _ hcolumn) k hlt _ (List.getElem?_eq_getElem hk)
  · intro hdistinct i column hcolumn
    refine (addresses_self_iff hcolumn).2 fun k hlt other hother => ?_
    obtain ⟨hi, rfl⟩ := List.getElem?_eq_some_iff.1 hcolumn
    obtain ⟨hk, rfl⟩ := List.getElem?_eq_some_iff.1 hother
    exact hdistinct k i hk hi hlt

/-- The mapped fields of an entity have columns in its table, and two of them have one column exactly if
their columns have one name. -/
theorem addresses_fields {naming : Naming} {e : Entity} (h : t.columns = naming.columnsOf e) {f g : Field}
    (hf : f ∈ naming.mappedFields e) (hg : g ∈ naming.mappedFields e) :
    ∃ i j, t.Addresses (naming.columnText f) i ∧ t.Addresses (naming.columnText g) j ∧
      (i = j ↔ Text.sameName (naming.columnText f) (naming.columnText g) = true) := by
  have hfield {f : Field} (hf : f ∈ naming.mappedFields e) : ∃ i, t.Addresses (naming.columnText f) i := by
    have hcolumn : (⟨naming.columnText f, .ofKind f.kind⟩ : Column) ∈ t.columns := by
      rw [h, Naming.columnsOf_eq]
      exact List.mem_map_of_mem hf
    obtain ⟨i, hi⟩ := List.mem_iff_getElem?.1 hcolumn
    obtain ⟨first, -, haddress⟩ := exists_addresses hi
    exact ⟨first, haddress⟩
  obtain ⟨i, hi⟩ := hfield hf
  obtain ⟨j, hj⟩ := hfield hg
  exact ⟨i, j, hi, hj, hi.eq_iff hj⟩

end Table

/-! ## Tables that can be reached -/

/-- A table is one of those that were created. -/
theorem Database.Sound.creation {db : Database} {made : List Creation} (h : db.Sound made) {t : Table}
    (ht : t ∈ db.tables) : ∃ c ∈ made, t.name = key c.name ∧ t.columns = c.columns := by
  have hfiled : (t.name, t.columns) ∈ made.map Creation.filed := h.filed ▸ List.mem_map_of_mem ht
  obtain ⟨c, hc, hfiled⟩ := List.mem_map.1 hfiled
  obtain ⟨hname, hcolumns⟩ := Prod.mk.inj hfiled
  exact ⟨c, hc, hname.symm, hcolumns.symm⟩

/-- In every table that can be reached, the columns are those that it was created with, and a column is
within reach of its name exactly if no earlier one has this name. So all are within reach exactly if the
table was created with names that differ in more than case; and two mapped fields of an entity are read
and written in the same cells of its table exactly if the names of their columns do not. -/
theorem reachable_columns_addressed_iff (steps : List StorageStep) :
    ∀ t ∈ (Memory.reach steps).1.database.tables,
      (∃ c ∈ (Memory.reach steps).2, t.name = Database.key c.name ∧ t.columns = c.columns) ∧
      (∀ i column, t.columns[i]? = some column →
        (∃ first ≤ i, t.Addresses column.name first) ∧
        (t.Addresses column.name i ↔ ∀ k < i, ∀ other, t.columns[k]? = some other →
          Text.sameName other.name column.name = false)) ∧
      ((∀ i column, t.columns[i]? = some column → t.Addresses column.name i) ↔
        t.columnNames.Pairwise fun a b => Text.sameName a b = false) ∧
      ∀ (naming : Naming) (e : Entity), t.columns = naming.columnsOf e →
        ∀ f ∈ naming.mappedFields e, ∀ g ∈ naming.mappedFields e,
          ∃ i j, t.Addresses (naming.columnText f) i ∧ t.Addresses (naming.columnText g) j ∧
            (i = j ↔ Text.sameName (naming.columnText f) (naming.columnText g) = true) := by
  intro t ht
  refine ⟨?_, fun i column hcolumn => ⟨Table.exists_addresses hcolumn, Table.addresses_self_iff hcolumn⟩,
    Table.addresses_all_iff, fun naming e he f hf g hg => Table.addresses_fields he hf hg⟩
  exact (Memory.sound_reach steps).creation ht

/-- Two fields whose names are derived alike. -/
def Entity.spellings : Entity :=
  ⟨0, "person", none, [⟨"userId", .integer, false, none⟩, ⟨"user_id", .integer, false, none⟩]⟩

/-- The table of these fields. -/
def Table.spellings : Table := ⟨"PERSON", [⟨"USER_ID", .integer⟩, ⟨"USER_ID", .integer⟩], []⟩

theorem Table.tables_spellings :
    (Memory.reach [.createFor (.byRules {} []) .spellings]).1.database.tables = [.spellings] := by
  decide +kernel

/-- The two fields are read and written in the first column, and the second is out of reach. -/
theorem reachable_columns_addressed_iff_spellings :
    Table.spellings ∈ (Memory.reach [.createFor (.byRules {} []) .spellings]).1.database.tables ∧
      Table.spellings.Addresses "USER_ID" 0 ∧ ¬ Table.spellings.Addresses "USER_ID" 1 ∧
      ∀ f ∈ (Naming.byRules {} []).mappedFields .spellings,
        ∃ i, Table.spellings.Addresses ((Naming.byRules {} []).columnText f) i ∧
          Table.spellings.Addresses "USER_ID" i := by
  have hmem : Table.spellings ∈
      (Memory.reach [.createFor (.byRules {} []) .spellings]).1.database.tables := by
    rw [Table.tables_spellings]
    exact List.mem_singleton_self _
  obtain ⟨-, hcolumn, -, hfields⟩ := reachable_columns_addressed_iff _ _ hmem
  have hfirst : (Naming.byRules {} []).columnText (⟨.spellings, 0, by decide⟩ : Field) = "USER_ID" := by
    decide +kernel
  have hsame : ∀ f ∈ (Naming.byRules {} []).mappedFields .spellings, Text.sameName
      ((Naming.byRules {} []).columnText f) "USER_ID" = true := by decide +kernel
  refine ⟨hmem, ((hcolumn 0 ⟨"USER_ID", .integer⟩ rfl).2).2 (fun k hk => absurd hk k.not_lt_zero),
    fun h => ?_, fun f hf => ?_⟩
  · have hbefore := (hcolumn 1 ⟨"USER_ID", .integer⟩ rfl).2.1 h 0 Nat.zero_lt_one _ rfl
    rw [Text.sameName_self] at hbefore
    cases hbefore
  · obtain ⟨i, j, hi, hj, hij⟩ := hfields (.byRules {} []) .spellings (by decide +kernel) f hf
      ⟨.spellings, 0, by decide⟩ (by decide +kernel)
    rw [hfirst] at hj hij
    exact ⟨i, hi, (hij.2 (hsame f hf)) ▸ hj⟩

/-- Columns are not always within reach of their names. -/
theorem columns_are_not_always_addressed :
    ¬ ∀ steps, ∀ t ∈ (Memory.reach steps).1.database.tables, ∀ i column,
      t.columns[i]? = some column → t.columnIndex? column.name = some i := by
  intro haddressed
  have hsecond := haddressed [.createFor (.byRules {} []) .spellings] .spellings
    (by rw [Table.tables_spellings]; exact List.mem_singleton_self _) 1 ⟨"USER_ID", .integer⟩ rfl
  exact absurd hsecond (by decide +kernel)

end EntityQuery
