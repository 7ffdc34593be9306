import EntityQuery.Proofs.Sql.Names
import EntityQuery.Storage.Database

/-!
# Tables of entities

A table is made for an entity with one column for each of its mapped fields. As long as names are told
apart without regard to case, table and column of a field are found again.

* `Naming.Tells` says that the names of some entities can be written and told apart. A single entity needs
  less (`Naming.Spells`).
* `Naming.place` is the position of a field in the rows of its table, and `columnIndex?_place` finds it
  by the name of the column.
* `Database.Stores` says that a database has the table of an entity with given rows. The tables made
  by `createFor` are such, and remain such with other rows and beside other tables.
-/

namespace EntityQuery

open Sql

/-! ## Names in upper case -/

/-- All characters of a text are ASCII. -/
def Text.IsAscii (s : String) : Prop := ∀ c ∈ s.toList, c.val < 0x80

instance (s : String) : Decidable (Text.IsAscii s) :=
  decidable_of_iff (s.toList.all (fun c => decide (c.val < 0x80)) = true) (by simp [Text.IsAscii])

/-- There are few enough ASCII characters to look at each. -/
theorem Text.ascii_forall {P : Char → Prop} (hall : ∀ n : Nat, n < 128 → P (Char.ofNat n)) {c : Char}
    (h : c.val < 0x80) : P c := by
  have hc := hall c.toNat (UInt32.lt_iff_toNat_lt.1 h)
  rwa [Char.ofNat_toNat] at hc

/-- A name of ASCII characters differs from its upper-cased form in nothing but case. -/
theorem Text.folded_uppercased {s : String} (h : IsAscii s) : folded (uppercased s) = folded s := by
  have hchars (cs : List Char) (hcs : ∀ c ∈ cs, c.val < 0x80) :
      (cs.flatMap upper).map Char.toLower = cs.map Char.toLower := by
    induction cs with
    | nil => rfl
    | cons c cs ih =>
      have hc := hcs c List.mem_cons_self
      rw [List.flatMap_cons, upper_of_ascii hc, List.map_append,
        ih fun d hd => hcs d (List.mem_cons_of_mem _ hd), List.map_singleton,
        Char.toLower_toUpper_eq_toLower]
      rfl
  rw [folded, toList_uppercased]
  exact hchars s.toList h

theorem Database.sameName_key {name : String} (h : Text.IsAscii name) (other : String) :
    Text.sameName (key name) other = Text.sameName name other := by
  rw [Text.sameName, Text.sameName, key, Text.folded_uppercased h]

/-! ## Fields in a row -/

/-- The columns that a table gets for an entity. -/
def Naming.columnsOf (naming : Naming) (e : Entity) : List Column :=
  e.fields.filterMap fun f => (naming.columnName f).map fun column => ⟨column, .ofKind f.kind⟩

/-- The fields of an entity that have a column. -/
def Naming.mappedFields (naming : Naming) (e : Entity) : List Field :=
  e.fields.filter fun f => (naming.columnName f).isSome

/-- The position of a field's cell in the rows of its table. -/
def Naming.place (naming : Naming) (f : Field) : Nat := (naming.mappedFields f.entity).idxOf f

/-- The name of a field's column. -/
def Naming.columnText (naming : Naming) (f : Field) : String := (naming.columnName f).getD ""

/-- A table has the columns of the mapped fields. -/
theorem Naming.columnsOf_eq (naming : Naming) (e : Entity) :
    naming.columnsOf e =
      (naming.mappedFields e).map fun f => ⟨naming.columnText f, .ofKind f.kind⟩ := by
  rw [columnsOf, mappedFields]
  induction e.fields with
  | nil => rfl
  | cons f fs ih =>
    cases hf : naming.columnName f with
    | none => simpa [hf] using ih
    | some column => simpa [hf, columnText] using ih

theorem Naming.names_columnsOf (naming : Naming) (e : Entity) :
    (naming.columnsOf e).map (·.name) = (naming.mappedFields e).map naming.columnText := by
  rw [columnsOf_eq, List.map_map]
  rfl

theorem Naming.mem_mappedFields {naming : Naming} {f : Field} (h : (naming.columnName f).isSome) :
    f ∈ naming.mappedFields f.entity := List.mem_filter.2 ⟨Entity.mem_fields f, h⟩

/-- The column in the place of a field is its own. -/
theorem Naming.columnsOf_place {naming : Naming} {f : Field} (h : (naming.columnName f).isSome) :
    (naming.columnsOf f.entity)[naming.place f]? =
      some ⟨naming.columnText f, .ofKind f.kind⟩ := by
  have hlt : naming.place f < (naming.mappedFields f.entity).length :=
    List.idxOf_lt_length_iff.2 (mem_mappedFields h)
  have hplace : (naming.mappedFields f.entity)[naming.place f]? = some f := by
    rw [List.getElem?_eq_getElem hlt]
    exact congrArg some (List.getElem_idxOf hlt)
  rw [columnsOf_eq, List.getElem?_map, hplace]
  rfl

theorem Naming.place_lt {naming : Naming} {f : Field} (h : (naming.columnName f).isSome) :
    naming.place f < (naming.columnsOf f.entity).length := by
  exact (List.getElem?_eq_some_iff.1 (columnsOf_place h)).1

/-- The names of these entities can be written, and can be told apart without regard to case. -/
structure Naming.Tells (naming : Naming) (es : List Entity) : Prop where
  /-- a table name is ASCII -/
  table_ascii : ∀ e ∈ es, Text.IsAscii (naming.tableName e)
  /-- a table name is one identifier -/
  table_word : ∀ e ∈ es, tokenize (naming.tableName e) = [.identifier (naming.tableName e)]
  /-- a column name is one identifier -/
  column_word : ∀ f : Field, f.entity ∈ es → ∀ c, naming.columnName f = some c →
    tokenize c = [.identifier c]
  /-- tables are told apart -/
  table_distinct : ∀ e ∈ es, ∀ e' ∈ es,
    Text.sameName (naming.tableName e) (naming.tableName e') = true → e = e'
  /-- columns of a table are told apart -/
  column_distinct : ∀ f g : Field, f.entity ∈ es → f.entity = g.entity →
    ∀ c d, naming.columnName f = some c → naming.columnName g = some d →
    Text.sameName c d = true → f = g

/-- Names that are words, but no reserved ones, can be written, so it is enough to tell them apart. -/
theorem Naming.Tells.of_words {naming : Naming} {es : List Entity}
    (htables : ∀ e ∈ es, Text.IsAscii (naming.tableName e) ∧ IsWord (naming.tableName e) ∧
      Keyword.ofWord? (naming.tableName e) = none)
    (hcolumns : ∀ e ∈ es, ∀ f ∈ e.fields, ∀ c ∈ naming.columnName f,
      IsWord c ∧ Keyword.ofWord? c = none)
    (hdistinct : ∀ e ∈ es, ∀ e' ∈ es,
      Text.sameName (naming.tableName e) (naming.tableName e') = true → e = e')
    (hdistinct' : ∀ e ∈ es, ∀ f ∈ e.fields, ∀ g ∈ e.fields, ∀ c ∈ naming.columnName f,
      ∀ d ∈ naming.columnName g, Text.sameName c d = true → f = g) : naming.Tells es where
  table_ascii e he := (htables e he).1
  table_word e he := (spells_identifier (htables e he).2.1 (htables e he).2.2).tokenize_eq
  column_word f hf c hc := by
    obtain ⟨hword, hfree⟩ := hcolumns f.entity hf f (Entity.mem_fields f) c hc
    exact (spells_identifier hword hfree).tokenize_eq
  table_distinct := hdistinct
  column_distinct f g hf hentity c d hc hd :=
    hdistinct' f.entity hf f (Entity.mem_fields f) g (hentity ▸ Entity.mem_fields g) c hc d hd

/-- The names of an entity can be written, and its columns told apart without regard to case. -/
structure Naming.Spells (naming : Naming) (e : Entity) : Prop where
  /-- the table name is one identifier -/
  table_word : tokenize (naming.tableName e) = [.identifier (naming.tableName e)]
  /-- a column name is one identifier -/
  column_word : ∀ f : Field, f.entity = e → ∀ c, naming.columnName f = some c →
    tokenize c = [.identifier c]
  /-- columns are told apart -/
  column_distinct : ∀ f g : Field, f.entity = e → g.entity = e →
    ∀ c d, naming.columnName f = some c → naming.columnName g = some d →
    Text.sameName c d = true → f = g

theorem Naming.Tells.spells {naming : Naming} {es : List Entity} (h : naming.Tells es) {e : Entity}
    (he : e ∈ es) : naming.Spells e where
  table_word := h.table_word e he
  column_word f hf := h.column_word f (hf ▸ he)
  column_distinct f g hf hg := h.column_distinct f g (hf ▸ he) (hf.trans hg.symm)

/-- An item that alone satisfies a predicate is found by it. -/
theorem findIdx?_eq_idxOf {α : Type} [BEq α] [LawfulBEq α] {p : α → Bool} {a : α} {xs : List α}
    (ha : a ∈ xs) (h : ∀ x ∈ xs, p x = true ↔ x = a) : xs.findIdx? p = some (xs.idxOf a) := by
  induction xs with
  | nil => cases ha
  | cons x xs ih =>
    rw [List.findIdx?_cons, List.idxOf_cons]
    by_cases hx : x = a
    · rw [if_pos ((h x List.mem_cons_self).2 hx), beq_iff_eq.2 hx]
      rfl
    · have hne : (x == a) = false := beq_eq_false_iff_ne.2 hx
      have hmem : a ∈ xs := (List.mem_cons.1 ha).resolve_left fun h => hx h.symm
      rw [if_neg fun hp => hx ((h x List.mem_cons_self).1 hp), hne,
        ih hmem fun y hy => h y (List.mem_cons_of_mem _ hy)]
      rfl

/-- The column of a field is found in its place. -/
theorem Naming.Spells.columnIndex?_place {naming : Naming} {f : Field} (h : naming.Spells f.entity)
    (hmapped : (naming.columnName f).isSome) :
    Scope.columnIndex? ((naming.columnsOf f.entity).map (·.name)) (naming.columnText f) =
      some (naming.place f) := by
  have hmem := mem_mappedFields hmapped
  rw [names_columnsOf, Scope.columnIndex?, List.findIdx?_map]
  -- among the mapped fields, no other has a column of this name
  refine findIdx?_eq_idxOf hmem fun g hg => ?_
  obtain ⟨hg, hgmapped⟩ := List.mem_filter.1 hg
  have hentity : g.entity = f.entity := Entity.entity_of_mem_fields hg
  constructor
  · intro hsame
    obtain ⟨c, hc⟩ := Option.isSome_iff_exists.1 hgmapped
    obtain ⟨d, hd⟩ := Option.isSome_iff_exists.1 hmapped
    rw [Function.comp_apply, columnText, columnText, hc, hd] at hsame
    exact h.column_distinct g f hentity rfl c d hc hd hsame
  · rintro rfl
    exact Text.sameName_self _

/-! ## Stored rows -/

/-- The database has the table of an entity, with these rows. -/
structure Database.Stores (db : Database) (naming : Naming) (e : Entity) (rows : List Row) :
    Prop where
  /-- the table has the columns of the entity -/
  found : db.find? (naming.tableName e) =
    some ⟨key (naming.tableName e), naming.columnsOf e, rows⟩
  /-- each row has a cell for each column -/
  width : ∀ row ∈ rows, row.length = (naming.columnsOf e).length

/-- The table made for an entity is stored, without rows. -/
theorem Database.stores_createFor {db db' : Database} {naming : Naming} {e : Entity}
    (h : db.createFor naming e = .ok db') : db'.Stores naming e [] := by
  rw [createFor, create] at h
  split at h
  · cases h
  · split at h
    · cases h
    · next hfree =>
      cases h
      refine ⟨?_, fun row hrow => absurd hrow List.not_mem_nil⟩
      have hnone : db.tables.find? (·.name == key (naming.tableName e)) = none := by
        rw [hasTable, find?] at hfree
        exact Option.not_isSome_iff_eq_none.1 hfree
      rw [find?, List.find?_append, hnone]
      simp [Naming.columnsOf]

/-- A new table leaves those that are stored as they are. -/
theorem Database.Stores.createFor {db db' : Database} {naming : Naming} {e e' : Entity}
    {rows : List Row} (h : db.Stores naming e rows) (hcreate : db.createFor naming e' = .ok db') :
    db'.Stores naming e rows := by
  rw [Database.createFor, create] at hcreate
  split at hcreate
  · cases hcreate
  · split at hcreate
    · cases hcreate
    · cases hcreate
      have hfound := h.found
      rw [find?] at hfound
      refine ⟨?_, h.width⟩
      rw [find?, List.find?_append, hfound]
      rfl

/-- Replacing a table keeps the name of every table, so the same one is found. -/
theorem Database.find?_replace (db : Database) (t : Table) (name : String) :
    (db.replace t).find? name =
      (db.find? name).map fun old => if old.name = t.name then t else old := by
  have hname : ((fun old : Table => old.name == key name) ∘ fun old : Table =>
      if old.name = t.name then t else old) = fun old : Table => old.name == key name := by
    funext old
    rw [Function.comp_apply]
    split
    · next hold => rw [hold]
    · rfl
  rw [find?, find?]
  change (replaced db.tables t).find? _ = _
  rw [replaced, List.find?_map, hname]

/-- A stored table may get other rows of the same width. -/
theorem Database.Stores.replace {db : Database} {naming : Naming} {e : Entity} {rows rows' : List Row}
    (h : db.Stores naming e rows)
    (hwidth : ∀ row ∈ rows', row.length = (naming.columnsOf e).length) :
    (db.replace ⟨key (naming.tableName e), naming.columnsOf e, rows'⟩).Stores naming e rows' := by
  refine ⟨?_, hwidth⟩
  rw [find?_replace, h.found, Option.map_some, if_pos rfl]

/-- A stored table stays as it is while another gets other rows. -/
theorem Database.Stores.replace_of_ne {db : Database} {naming : Naming} {e : Entity}
    {rows : List Row} (h : db.Stores naming e rows) {t : Table}
    (hne : key (naming.tableName e) ≠ t.name) : (db.replace t).Stores naming e rows := by
  refine ⟨?_, h.width⟩
  rw [find?_replace, h.found, Option.map_some, if_neg hne]

end EntityQuery
