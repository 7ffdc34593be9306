import EntityQuery.Proofs.Execution.EntityMutations
import EntityQuery.Proofs.Session.Making
import EntityQuery.Proofs.Session.SelectMeaning

/-!
# Queries of one entity

* `Selection.statement_own`: a selection over one entity, without limit and repetitions, is a query for
  fields of that entity (`Naming.ownQuery`), and `Database.select_own` is what it yields.
* `Naming.recordOf` is the record of a row: the cells of the mapped fields, and no others
  (`Naming.get?_recordOf`).
* `Session.queryRecords_all`: a query for all fields of an entity yields the records of its rows, in
  their order. Unless names are resolved strictly, fields without column do not matter.
-/

namespace EntityQuery

open Sql

/-! ## Selections over one entity -/

/-- A selection over one entity reads that entity's table only. -/
theorem Selection.entities_own {s : Selection} {e : Entity} (hne : s.fields ≠ [])
    (hown : ∀ f ∈ s.fieldsRead, f.entity = e) : s.entities = [e] := by
  have hall : ∀ e' ∈ s.fieldsRead.map (·.entity), e' = e := by
    intro e' he'
    obtain ⟨f, hf, rfl⟩ := List.mem_map.1 he'
    exact hown f hf
  have hcons : s.fieldsRead.map (·.entity) ≠ [] := by
    intro hnil
    have hnone := List.append_eq_nil_iff.1 (List.map_eq_nil_iff.1 hnil)
    exact hne (List.map_eq_nil_iff.1 hnone.1)
  rw [entities]
  generalize s.fieldsRead.map (·.entity) = es at hall hcons
  cases es with
  | nil => exact absurd rfl hcons
  | cons e' es =>
    obtain rfl := hall e' List.mem_cons_self
    have hnone : es.filter (fun b => !b == e') = [] := by
      rw [List.filter_eq_nil_iff]
      intro b hb
      rw [hall b (List.mem_cons_of_mem _ hb)]
      simp
    rw [List.eraseDups_cons, hnone]
    rfl

/-- A selection over one entity is a query for its fields, perhaps with a limit or without
repetitions. -/
theorem Selection.statement_single {naming : Naming} {s : Selection} {e : Entity}
    (hentities : s.entities = [e]) :
    s.statement naming = { naming.ownQuery [naming.tableName e]
      (s.constraint.map (·.image naming 1)) (s.fields.map Prod.fst) s.orders with
        distinct := s.isDistinct naming, limit := s.top } := by
  rw [statement, query, hentities]
  rfl

/-- A selection over one entity, without limit and repetitions, is a query for its fields. -/
theorem Selection.statement_own {naming : Naming} {s : Selection} {e : Entity}
    (hentities : s.entities = [e]) (hunlimited : s.top = none) (hrepeats : s.distinct = []) :
    s.statement naming = naming.ownQuery [naming.tableName e]
      (s.constraint.map (·.image naming 1)) (s.fields.map Prod.fst) s.orders := by
  have hdistinct : s.isDistinct naming = false := by
    rw [isDistinct, hrepeats]
    simp
  rw [statement_single hentities, hdistinct, hunlimited]
  rfl

/-- Nothing is added when fields without column are left out. -/
theorem Selection.fieldsNamed_trimmed {naming : Naming} {s : Selection} {f : Field}
    (hf : f ∈ (s.trimmed naming).fieldsNamed) : f ∈ s.fieldsNamed := by
  have hfields : ((s.trimmed naming).fields.map Prod.fst).Sublist (s.fields.map Prod.fst) :=
    List.filter_sublist.map _
  have horders : ((s.trimmed naming).orders.map Prod.fst).Sublist (s.orders.map Prod.fst) :=
    List.filter_sublist.map _
  exact ((hfields.append (List.Sublist.refl _)).append horders).subset hf

namespace Database

variable {db : Database} {naming : Naming} {e : Entity} {rows : List Row} {parameters : List Value}
  {filter : Option Expr} {fields : List Field} {orders : List (Field × Direction)}
  (hstores : db.Stores naming e rows)
include hstores

/-- A query of one table that selects rows yields them, with names for their columns. -/
theorem select_of_rows {s : Select} (htables : s.tables = [naming.tableName e]) {selected : List Row}
    (hrows : selectRows [naming.tableWith e rows] parameters s = .ok selected) :
    ∃ names, db.select parameters s = .ok ⟨names, selected⟩ := by
  have hall : ∀ e' ∈ [e], db.Stores naming e' rows :=
    fun e' he' => List.mem_singleton.1 he' ▸ hstores
  have hfound : s.tables.mapM db.table = .ok [naming.tableWith e rows] := by
    rw [htables]
    exact tables_own hstores
  obtain ⟨names, hnames⟩ := resultColumns_of_stores hall htables
  exact ⟨names, (except_bind_of_ok hfound).trans
    ((except_bind_of_ok (congrArg (Except.mapError BackendError.evaluation) hrows)).trans
      (except_bind_of_ok hnames))⟩

/-- A query for fields of an entity yields their cells in the rows that are kept, sorted by its keys if
there are any. -/
theorem select_own (htells : naming.Tells [e])
    (hfields : ∀ f ∈ fields, f.entity = e ∧ (naming.columnName f).isSome)
    (horders : ∀ key ∈ orders, key.1.entity = e ∧ (naming.columnName key.1).isSome) {kept : List Row}
    (hkept : keepRows (fun row => Frame.satisfiesAll
      ⟨(naming.tableWith e rows).scope, parameters, row⟩ filter) rows = .ok kept) :
    ∃ names, ∃ sorted : List Row,
      db.select parameters (naming.ownQuery [naming.tableName e] filter fields orders) =
        .ok ⟨names, sorted.map fun row => fields.map (naming.cellIn row)⟩ ∧
      sorted.Perm kept ∧ (orders = [] → sorted = kept) := by
  obtain ⟨sorted, hrows, hsorted⟩ := selectRows_own [naming.tableName e] htells hfields
    hstores.width horders hkept
  obtain ⟨names, hselect⟩ := select_of_rows hstores rfl hrows
  exact ⟨names, sorted, hselect, hsorted⟩

/-- With a limit or without repetitions, such a query yields the cells of some of these rows. -/
theorem select_own_taken (htells : naming.Tells [e])
    (hfields : ∀ f ∈ fields, f.entity = e ∧ (naming.columnName f).isSome)
    (horders : ∀ key ∈ orders, key.1.entity = e ∧ (naming.columnName key.1).isSome) {kept : List Row}
    (hkept : keepRows (fun row => Frame.satisfiesAll
      ⟨(naming.tableWith e rows).scope, parameters, row⟩ filter) rows = .ok kept)
    (distinct : Bool) (limit : Option Nat) :
    ∃ names, ∃ sorted taken : List Row,
      db.select parameters { naming.ownQuery [naming.tableName e] filter fields orders with
        distinct := distinct, limit := limit } =
          .ok ⟨names, taken.map fun row => fields.map (naming.cellIn row)⟩ ∧
      taken.Sublist sorted ∧ sorted.Perm kept := by
  obtain ⟨sorted, taken, hrows, hsublist, hperm⟩ := selectRows_own_taken [naming.tableName e] htells
    hfields hstores.width horders hkept distinct limit
  obtain ⟨names, hselect⟩ := select_of_rows hstores rfl hrows
  exact ⟨names, sorted, taken, hselect, hsublist, hperm⟩

/-- A query of one table whose condition fails fails. -/
theorem select_fails_own {s : Select} (htables : s.tables = [naming.tableName e]) {cause : EvalError}
    (hfails : keepRows (fun row => Frame.satisfiesAll
      ⟨(naming.tableWith e rows).scope, parameters, row⟩ s.filter) rows = .error cause) :
    db.select parameters s = .error (.evaluation cause) := by
  have hfound : s.tables.mapM db.table = .ok [naming.tableWith e rows] := by
    rw [htables]
    exact tables_own hstores
  exact (except_bind_of_ok hfound).trans (except_bind_of_error
    (congrArg (Except.mapError BackendError.evaluation) (selectRows_singleton_error hfails)))

theorem select_own_error {cause : EvalError}
    (hfails : keepRows (fun row => Frame.satisfiesAll
      ⟨(naming.tableWith e rows).scope, parameters, row⟩ filter) rows = .error cause) :
    db.select parameters (naming.ownQuery [naming.tableName e] filter fields orders) =
      .error (.evaluation cause) := select_fails_own hstores rfl hfails

end Database

/-! ## Records -/

/-- Fields are set one after the other. -/
def Record.setAll (r : Record) (fields : List Field) (value : Field → Value) : Record :=
  fields.foldl (fun r f => r.set f (value f)) r

theorem Record.get?_setAll (r : Record) (fields : List Field) (value : Field → Value) (f : Field) :
    (r.setAll fields value).get? f = if f ∈ fields then some (value f) else r.get? f := by
  induction fields generalizing r with
  | nil => rfl
  | cons g fields ih =>
    rw [setAll, List.foldl_cons]
    refine (ih (r.set g (value g))).trans ?_
    by_cases hg : f = g
    · subst hg
      simp
    · rw [get?_set_ne r hg]
      simp [hg]

/-- The record of a row of an entity: the cells of its mapped fields. -/
def Naming.recordOf (naming : Naming) (e : Entity) (row : Row) : Record :=
  Record.empty.setAll (naming.mappedFields e) (naming.cellIn row)

/-- A record has the cells of the mapped fields, and no others. -/
theorem Naming.get?_recordOf (naming : Naming) (e : Entity) (row : Row) (f : Field) :
    (naming.recordOf e row).get? f =
      if f.entity = e ∧ (naming.columnName f).isSome then some (naming.cellIn row f) else none := by
  have hmem : f ∈ naming.mappedFields e ↔ f.entity = e ∧ (naming.columnName f).isSome := by
    rw [mappedFields, List.mem_filter]
    refine and_congr_left fun _ => ⟨Entity.entity_of_mem_fields, ?_⟩
    rintro rfl
    exact Entity.mem_fields f
  rw [recordOf, Record.get?_setAll]
  simp only [hmem]
  rfl

/-- Handles that read stored cells read a record of them. -/
theorem Slots.recordOf_eq_setAll {slots : Slots} {names : List String} {row : Row}
    {columns : List (Field × ColumnHandle)} {value : Field → Value}
    (h : ∀ p ∈ columns, ∃ index, slots.index? p.2 = some index ∧
      readRow names (some row) index p.2.field = .ok (value p.1)) (r : Record) :
    slots.recordOf names (some row) r columns = .ok (r.setAll (columns.map Prod.fst) value) := by
  induction columns generalizing r with
  | nil => rfl
  | cons p columns ih =>
    obtain ⟨index, hindex, hread⟩ := h p List.mem_cons_self
    have hrest := ih (fun q hq => h q (List.mem_cons_of_mem _ hq)) (r.set p.1 (value p.1))
    rw [recordOf]
    simp only [hindex, hread]
    exact hrest

section Cells

variable {naming : Naming} {e : Entity} {rows : List Row} {row : Row}

/-- A cell of a row in stored form is in the stored form of its field. -/
theorem holds_cellIn (hrow : (naming.tableWith e rows).RowOk row) {f : Field} (hf : f.entity = e)
    (hmapped : (naming.columnName f).isSome) :
    (ColumnType.ofKind f.kind).holds (naming.cellIn row f) = true := by
  subst hf
  rw [Naming.cellIn]
  cases hv : row[naming.place f]? with
  | none => cases f.kind <;> rfl
  | some v => exact hrow.2 _ _ v (Naming.columnsOf_place hmapped) hv

/-- A cell in stored form is read from its result column as it is. -/
theorem readRow_own (hrow : (naming.tableWith e rows).RowOk row) (names : List String)
    {fields : List Field} {i : Nat} {f : Field} (hi : fields[i]? = some f) (hf : f.entity = e)
    (hmapped : (naming.columnName f).isSome) :
    readRow names (some (fields.map (naming.cellIn row))) (i + 1) f = .ok (naming.cellIn row f) := by
  have hcell : (fields.map (naming.cellIn row))[i]? = some (naming.cellIn row f) := by
    rw [List.getElem?_map, hi]
    rfl
  have hread := Kind.ofCell_of_holds (holds_cellIn hrow hf hmapped)
  simp only [readRow, position?, Option.bind_some, hcell, hread]
  rfl

end Cells

/-! ## Running a query to its end -/

/-- A query that was run has a cursor before its first row. -/
theorem Store.openOn_opening (store : Store Memory) (q : Query) (r : ResultSet) :
    (store.opening q r).OpenOn ⟨store.cursors.size⟩
      ⟨some ⟨store.backend.rowSets.size⟩, .unopened, 0, q.columns, q.statement, q.autoClose, q.sql⟩
      ⟨store.backend.rowSets.size⟩ (.ofResult r) :=
  ⟨Array.getElem?_push_size, rfl, Array.getElem?_push_size, by simp, rfl⟩

namespace Session

variable {session : Session Memory} (hbackend : session.backend = Memory.backend)
include hbackend

/-- A query that opens a cursor yields the records of its rows. -/
theorem queryRecords_eq {store opened : Store Memory} {q : Query} {id : CursorId} {c : Cursor}
    {r : RowSetId} {rs : RowSet} (hrun : session.execute q store = (.ok id, opened))
    (hopen : opened.OpenOn id c r rs)
    (hattached : ∀ p ∈ c.columns, (opened.slots.index? p.2).isSome →
      opened.slots.cursor? p.2 = some id)
    (hknown : ∀ sid, open? c.statement opened = some sid →
      (opened.backend.statements[sid.number]?).isSome) {records : List Record}
    (hrecords : rs.rest.mapM (fun row => opened.slots.recordOf rs.columns (some row) .empty c.columns) =
      .ok records) :
    ∃ after, session.queryRecords q store = (.ok records, after) := by
  have hleft : session.rowsLeft id opened = rs.rest.length := by
    rw [rowsLeft, show cursor? id opened = some c from hopen.cursor, Option.bind_some, hopen.rows,
      hbackend]
    change ((opened.backend.rowSets[r.number]?).map (·.rest.length)).getD 0 = _
    rw [hopen.rowSet]
    rfl
  obtain ⟨read, hread⟩ := recordsUpTo_eq hbackend hopen hattached hknown hrecords
    (Nat.lt_succ_self rs.rest.length)
  have hall : session.records id opened = (.ok records, read) := by
    rw [← hread, ← hleft]
    rfl
  refine ⟨(session.dropCursor id read).2, (bind_of_ok hrun).trans ?_⟩
  refine (bind_of_ok (Step.attempt_apply (session.records id) opened)).trans ?_
  rw [hall]
  exact bind_of_ok (bind_of_ok (Step.attempt_apply (session.closeCursor id) read))

end Session

/-! ## All rows of an entity -/

/-- A query without condition shows all rows of its entity. -/
theorem Query.Held.execute_own {session : Session Memory} (hbackend : session.backend = Memory.backend)
    {q : Query} {s : Selection} {store : Store Memory} (hheld : q.Held session.naming s store)
    (hbare : s.Bare session.naming) (hcondition : s.constraint = none) {e : Entity}
    (hentities : s.entities = [e]) (htells : session.naming.Tells [e]) {rows : List Row}
    (hstores : store.backend.database.Stores session.naming e rows) :
    ∃ (bound : Store Memory) (names : List String), bound.outline = store.outline ∧
      session.execute q store = (.ok ⟨store.cursors.size⟩, bound.opening q
        ⟨names, rows.map fun row => (s.fields.map Prod.fst).map (session.naming.cellIn row)⟩) := by
  have hmapped := hbare.toMapped
  have hcount := hheld.count
  obtain ⟨id, hstands⟩ := hheld.stands
  rcases q with ⟨sql, statement, columns, constraint, parameterCount, autoClose⟩
  obtain rfl : constraint = none := hheld.condition.trans hcondition
  rw [hmapped.image_eq (hentities.symm ▸ htells),
    Selection.statement_own hentities hbare.unlimited hbare.repeats, hbare.unsorted, hcondition,
    Option.map_none] at hstands
  rw [hcondition] at hcount
  have hown : ∀ f ∈ s.fields.map Prod.fst, f.entity = e ∧ (session.naming.columnName f).isSome := by
    intro f hf
    have hmem := Selection.mem_entities (List.mem_append_left (conditionFields s.constraint) hf)
    exact ⟨List.mem_singleton.1 (hentities ▸ hmem), hmapped.mapped_fields f hf⟩
  have hall : keepRows (fun row => Frame.satisfiesAll
      ⟨(session.naming.tableWith e rows).scope, [], row⟩ none) rows = .ok rows := by
    refine (keepRows_eq_filter (p := fun _ => true) fun row hrow => rfl).trans ?_
    exact congrArg Except.ok (List.filter_eq_self.2 fun _ _ => rfl)
  obtain ⟨names, sorted, hselect, -, hunsorted⟩ := Database.select_own hstores htells
    hown (fun key (hkey : key ∈ []) => nomatch hkey) hall
  obtain rfl := hunsorted rfl
  have hvalues : conditionHanded store.valueOf none = some [] := rfl
  obtain ⟨bound, houtline, hrun⟩ := Session.execute_eq hbackend hstands hcount hvalues
  rw [hselect] at hrun
  exact ⟨bound, names, houtline, hrun⟩

/-- A query without condition yields a record for each row of its entity, if its handles have their
result columns. -/
theorem Query.Held.queryRecords_own {session : Session Memory}
    (hbackend : session.backend = Memory.backend) {q : Query} {s : Selection} {store : Store Memory}
    (hheld : q.Held session.naming s store) (hbare : s.Bare session.naming)
    (hcondition : s.constraint = none) {e : Entity} (hentities : s.entities = [e])
    (htells : session.naming.Tells [e]) {rows : List Row}
    (hstores : store.backend.database.Stores session.naming e rows)
    (htyped : ∀ row ∈ rows, (session.naming.tableWith e rows).RowOk row)
    (hhandles : ∀ p ∈ s.fields, p.2.slot < store.slots.size ∧ p.2.field = p.1)
    (hindex : ∀ i p, s.fields[i]? = some p → store.slots.index? p.2 = some (i + 1)) :
    ∃ after, session.queryRecords q store =
      (.ok (rows.map fun row =>
        Record.empty.setAll (s.fields.map Prod.fst) (session.naming.cellIn row)), after) := by
  obtain ⟨bound, names, houtline, hrun⟩ :=
    hheld.execute_own hbackend hbare hcondition hentities htells hstores
  have hcursors : bound.cursors = store.cursors := congrArg (·.cursors) houtline
  have hslots : bound.slots = store.slots := congrArg (·.slots) houtline
  rw [← hcursors] at hrun
  let r : ResultSet :=
    ⟨names, rows.map fun row => (s.fields.map Prod.fst).map (session.naming.cellIn row)⟩
  have hattached : ∀ p ∈ q.columns, ((bound.opening q r).slots.index? p.2).isSome →
      (bound.opening q r).slots.cursor? p.2 = some ⟨bound.cursors.size⟩ := by
    intro p hp _
    have hsize := (hhandles p (hheld.columns ▸ hp)).1
    exact Slots.cursor?_attachAll hp (hslots.symm ▸ hsize)
  have hknown : ∀ id, Session.open? q.statement (bound.opening q r) = some id →
      ((bound.opening q r).backend.statements[id.number]?).isSome := by
    obtain ⟨sid, hstands⟩ := hheld.stands
    have hstands' := hstands.of_outline houtline
    intro id hid
    obtain rfl := Option.some.inj (hid.symm.trans hstands'.opened)
    obtain ⟨p, hp, -⟩ := hstands'.prepared
    exact Option.isSome_iff_exists.2 ⟨p, hp⟩
  have hrecords : r.rows.mapM (fun row =>
      (bound.opening q r).slots.recordOf names (some row) .empty q.columns) =
        .ok (rows.map fun row =>
          Record.empty.setAll (s.fields.map Prod.fst) (session.naming.cellIn row)) := by
    rw [List.mapM_map, hheld.columns]
    refine mapM_of_ok fun row hrow => Slots.recordOf_eq_setAll (fun p hp => ?_) _
    obtain ⟨i, hi⟩ := List.getElem?_of_mem hp
    have hfield : (s.fields.map Prod.fst)[i]? = some p.1 := by
      rw [List.getElem?_map, hi]
      rfl
    have hmem := List.mem_map_of_mem (f := Prod.fst) hp
    have hentity := Selection.mem_entities (List.mem_append_left (conditionFields s.constraint) hmem)
    rw [hentities] at hentity
    refine ⟨i + 1, ?_, ?_⟩
    · exact (Slots.index?_attachAll _ _ _ _).trans (hslots.symm ▸ hindex i p hi)
    · rw [(hhandles p hp).2]
      exact readRow_own (htyped row hrow) names hfield (List.mem_singleton.1 hentity)
        (hbare.toMapped.mapped_fields _ hmem)
  exact Session.queryRecords_eq hbackend hrun (bound.openOn_opening q r) hattached hknown hrecords

/-- The fields of an entity are all different. -/
theorem Entity.nodup_fields (e : Entity) : e.fields.Nodup := by
  rw [List.Nodup, List.pairwise_iff_getElem]
  intro i j hi hj hlt heq
  simp only [fields, List.getElem_ofFn] at heq
  exact Nat.ne_of_lt hlt (congrArg Field.index heq)

/-- A selection of all fields of an entity that has a mapped field is bare, apart from the fields
without column. -/
theorem Selection.bare_all {naming : Naming} {e : Entity} {fields : List (Field × ColumnHandle)}
    (hfields : fields.map Prod.fst = e.fields)
    (hmapped : ∃ f : Field, f.entity = e ∧ (naming.columnName f).isSome) :
    let t := (⟨fields, none, [], none, []⟩ : Selection).trimmed naming
    t.Bare naming ∧ t.entities = [e] ∧ t.fields.map Prod.fst = naming.mappedFields e := by
  intro t
  have hcolumns : t.fields.map Prod.fst = naming.mappedFields e := by
    rw [Naming.mappedFields, ← hfields, List.filter_map]
    rfl
  have hread : t.fieldsRead = naming.mappedFields e := (List.append_nil _).trans hcolumns
  have hown : ∀ f ∈ t.fieldsRead, f.entity = e ∧ (naming.columnName f).isSome := by
    intro f hf
    obtain ⟨hf, hcolumn⟩ := List.mem_filter.1 (hread ▸ hf)
    exact ⟨Entity.entity_of_mem_fields hf, hcolumn⟩
  have hne : t.fields ≠ [] := by
    intro hnil
    obtain ⟨f, rfl, hf⟩ := hmapped
    have hmem := Naming.mem_mappedFields hf
    rw [← hcolumns, hnil] at hmem
    cases hmem
  exact ⟨⟨hne, fun f hf => (hown f hf).2, rfl, rfl, rfl⟩,
    entities_own hne fun f hf => (hown f hf).1, hcolumns⟩

/-- A query for all fields of an entity yields the records of its rows.

Where names are not resolved strictly, let a builder select all fields of an entity whose names can be
told apart, at least one of which has a column. The query is made, and if its rows are in stored form, it
yields a record of the mapped fields for each row, in the order of the rows. -/
theorem Session.queryRecords_all {session : Session Memory}
    (hbackend : session.backend = Memory.backend) (hpermissive : session.config.strict = false)
    {e : Entity} (htells : session.naming.Tells [e]) {rows : List Row} {store : Store Memory}
    (hstores : store.backend.database.Stores session.naming e rows)
    (htyped : ∀ row ∈ rows, (session.naming.tableWith e rows).RowOk row)
    (hmapped : ∃ f : Field, f.entity = e ∧ (session.naming.columnName f).isSome) :
    let start := SelectBuilder.start (.entity e) none
    let built := start.selectFields store.slots start.allFields
    ∃ q made after, session.query built.1 { store with slots := built.2 } = (.ok q, made) ∧
      session.queryRecords q made = (.ok (rows.map (session.naming.recordOf e)), after) := by
  intro start built
  obtain ⟨fields, hbuilt, hfields, hhandles⟩ : ∃ fields,
      built.1 = ⟨.entity e, ⟨fields, none, [], none, []⟩⟩ ∧ fields.map Prod.fst = [] ++ e.fields ∧
        ∀ p ∈ fields, p.2.field = p.1 :=
    SelectBuilder.selection_selectFields e.nodup_fields fun p hp => absurd hp List.not_mem_nil
  have hnone : store.slots.Free start.selection.fields :=
    ⟨fun p hp => absurd hp List.not_mem_nil, List.nodup_nil, fun p hp => absurd hp List.not_mem_nil⟩
  have hfree : built.2.Free built.1.selection.fields := SelectBuilder.free_selectFields hnone _
  rw [hbuilt] at hfree ⊢
  let selecting : Store Memory := { store with slots := built.2 }
  obtain ⟨hbare, hentities, hcolumns⟩ := Selection.bare_all hfields hmapped
  have hstores' : ∀ e' ∈ ((⟨fields, none, [], none, []⟩ : Selection).trimmed session.naming).entities,
      selecting.backend.database.Stores session.naming e' rows := by
    rw [hentities]
    exact fun e' he' => List.mem_singleton.1 he' ▸ hstores
  have hloose : session.config.strict = true → session.naming.Maps (fields.map Prod.fst) ∧
      session.naming.Maps [] := fun hstrict => absurd hstrict (Bool.eq_false_iff.1 hpermissive)
  obtain ⟨q, made, hmade, hheld, hsame, hsize, hindex⟩ := compiledQuery_bare hbackend hloose
    hbare (hentities.symm ▸ htells) hfree hstores' session.config.autoClose
  have hslots : ∀ p ∈ ((⟨fields, none, [], none, []⟩ : Selection).trimmed session.naming).fields,
      p.2.slot < made.slots.size ∧ p.2.field = p.1 := by
    intro p hp
    have hp := (List.mem_filter.1 hp).1
    exact ⟨hsize ▸ hfree.bounded p hp, hhandles p hp⟩
  obtain ⟨after, hafter⟩ := hheld.queryRecords_own hbackend hbare rfl hentities htells
    (hsame.database.symm ▸ hstores) htyped hslots hindex
  rw [hcolumns] at hafter
  exact ⟨q, made, after, hmade, hafter⟩

end EntityQuery
