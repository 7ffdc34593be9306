import EntityQuery.Proofs.Session.Assigning
import EntityQuery.Proofs.Session.EntityQueries

/-!
# What is inserted is read again

An insert takes values through a builder into the table of its entity, and a query for all fields of the
entity brings them back. These are two statements, each compiled, bound and run on its own; they meet in
the rows of the table.

* `Naming.newRow_own`: the row of assigned cells has these cells, is empty otherwise, and is in stored
  form.
* `Session.runBuilder_assignAll`: the row that is appended has the last values that were given.
* `insert_round_trip`: its record is the last one of the query, behind those of the earlier rows.
-/

namespace EntityQuery

open Sql

/-- A new row has the cells that are assigned, is empty otherwise, and is in stored form. -/
theorem Naming.newRow_own {naming : Naming} {e : Entity} {cells : List (Field × Value)}
    (hcells : naming.Fits e cells) (rows : List Row) :
    (naming.tableWith e rows).RowOk
        (naming.overwritten (List.replicate (naming.columnsOf e).length .null) cells) ∧
      ∀ f : Field, f.entity = e → (naming.columnName f).isSome →
        naming.cellIn (naming.overwritten (List.replicate (naming.columnsOf e).length .null) cells) f =
          (lastFor f cells).getD .null := by
  have hempty := (naming.tableWith e rows).rowOk_nulls
  refine ⟨hempty.assign (assign_own hcells _), fun f hf hmapped => ?_⟩
  have hnull : naming.cellIn (List.replicate (naming.columnsOf e).length .null) f = .null := by
    rw [cellIn, List.getElem?_replicate]
    split <;> rfl
  rw [cellIn_overwritten hempty.1 (fun cell hcell => ⟨(hcells cell hcell).1, (hcells cell hcell).2.1⟩)
    hf hmapped, hnull]

/-- The value that calls leave in a field: the last one that they give, as the field stores it, or
none. -/
def AssignCall.leaves (store : Store Memory) (calls : List AssignCall) (f : Field) : Value :=
  ((lastFor f (calls.map fun call => (call.field, call.given store))).map f.kind.widened).getD .null

/-- An insert of accepted values appends a row of them.

Where names are not resolved strictly, let calls give accepted values to fields of an entity whose names
can be told apart, one of which at least has a column. The builder takes the values, and its insert
appends one row: in stored form, and with what the calls leave in each field. -/
theorem Session.runBuilder_assignAll {session : Session Memory}
    (hbackend : session.backend = Memory.backend) (hpermissive : session.config.strict = false)
    {e : Entity} (htells : session.naming.Tells [e]) {rows : List Row} {store : Store Memory}
    (hstores : store.backend.database.Stores session.naming e rows) {calls : List AssignCall}
    (hown : ∀ call ∈ calls, call.field.entity = e) (haccepted : ∀ call ∈ calls, call.Accepted store)
    (hmapped : ∃ call ∈ calls, (session.naming.columnName call.field).isSome) :
    ∃ b created row, (MutationBuilder.insert e).assignAll calls = .ok b ∧
      session.runBuilder b store = (.ok 1, created) ∧
      created.backend.database =
        store.backend.database.replace (session.naming.tableWith e (rows ++ [row])) ∧
      (session.naming.tableWith e rows).RowOk row ∧
      ∀ f : Field, f.entity = e → (session.naming.columnName f).isSome →
        session.naming.cellIn row f = AssignCall.leaves store calls f := by
  obtain ⟨values, hbuilt, hlast⟩ :=
    MutationBuilder.assignAll_ok (b := .insert e) Assignments.LastOf.nil haccepted
  rw [List.nil_append] at hlast
  have hownValues : ∀ f ∈ values.map Prod.fst, f.entity = e := by
    intro f hf
    obtain ⟨p, hp, rfl⟩ := List.mem_map.1 hf
    obtain ⟨call, hcall, hgiven⟩ := List.mem_map.1 (mem_of_lastFor ((hlast.mem_iff p).1 hp))
    exact (Prod.mk.inj hgiven).1 ▸ hown call hcall
  have hne : session.naming.columned values ≠ [] := by
    obtain ⟨call, hcall, hcolumn⟩ := hmapped
    have hgiven : call.field ∈ (calls.map fun call => (call.field, call.source)).map Prod.fst :=
      List.mem_map_of_mem (List.mem_map_of_mem hcall)
    obtain ⟨source, hsource⟩ := Option.isSome_iff_exists.1 (isSome_lastFor hgiven)
    exact List.ne_nil_of_mem
      (List.mem_filter.2 ⟨(hlast.mem_iff (call.field, source)).2 hsource, hcolumn⟩)
  obtain ⟨cells, hcells, hleaves⟩ :=
    AssignCall.assigned_of_lastOf session.naming haccepted hlast
  have hfits := Assignments.fits_assigned hcells
    (fun f hf => hownValues f ((List.filter_sublist.map Prod.fst).subset hf))
    (session.naming.maps_columned values)
  have hloose : session.config.strict = true → session.naming.Maps (values.map Prod.fst) :=
    fun hstrict => absurd hstrict (Bool.eq_false_iff.1 hpermissive)
  obtain ⟨created, hrun, hdatabase⟩ :=
    session.runBuilder_insert hbackend (htells.spells (List.mem_singleton_self e)) hstores hownValues
      hloose hne hcells
  obtain ⟨hrow, hcell⟩ := Naming.newRow_own hfits rows
  refine ⟨_, created, _, hbuilt, hrun, hdatabase, hrow, fun f hf hcolumn => ?_⟩
  rw [hcell f hf hcolumn, hleaves f hcolumn]
  rfl

/-- A query for all fields brings back what an insert has written.

Where names are not resolved strictly, let an entity's names be told apart and its table have any rows in
stored form, as all mutations leave them (`Database.WellTyped.mutate`). Let a builder of an insert be
given accepted values, one of them at least for a field with a column. Then the insert succeeds with one
row, which is appended to the others. A query for all fields of the entity that is made afterwards yields
the records of the earlier rows, and behind them a record that has for each field with a column what the
calls have left in it, and has no other fields. -/
theorem insert_round_trip (naming : Naming) {config : Config} (hpermissive : config.strict = false)
    {e : Entity} (htells : naming.Tells [e]) {rows : List Row} {store : Store Memory}
    (hstores : store.backend.database.Stores naming e rows)
    (htyped : ∀ row ∈ rows, (naming.tableWith e rows).RowOk row) {calls : List AssignCall}
    (hown : ∀ call ∈ calls, call.field.entity = e) (haccepted : ∀ call ∈ calls, call.Accepted store)
    (hmapped : ∃ call ∈ calls, (naming.columnName call.field).isSome) :
    let session : Session Memory := ⟨Memory.backend, naming, config⟩
    ∃ b created row, (MutationBuilder.insert e).assignAll calls = .ok b ∧
      session.runBuilder b store = (.ok 1, created) ∧
      created.backend.database =
        store.backend.database.replace (naming.tableWith e (rows ++ [row])) ∧
      let start := SelectBuilder.start (.entity e) none
      let built := start.selectFields created.slots start.allFields
      ∃ q made last after,
        session.query built.1 { created with slots := built.2 } = (.ok q, made) ∧
        session.queryRecords q made = (.ok (rows.map (naming.recordOf e) ++ [last]), after) ∧
        ∀ f, last.get? f = if f.entity = e ∧ (naming.columnName f).isSome then
          some (AssignCall.leaves store calls f) else none := by
  intro session
  have hbackend : session.backend = Memory.backend := rfl
  obtain ⟨b, created, row, hbuilt, hrun, hdatabase, hrow, hcells⟩ :=
    session.runBuilder_assignAll hbackend hpermissive htells hstores hown haccepted hmapped
  have htyped' : ∀ row' ∈ rows ++ [row], (naming.tableWith e (rows ++ [row])).RowOk row' :=
    List.forall_mem_append.2 ⟨htyped, fun row' hrow' => List.mem_singleton.1 hrow' ▸ hrow⟩
  have hstores' : created.backend.database.Stores naming e (rows ++ [row]) :=
    hdatabase ▸ hstores.replace fun row' hrow' => (htyped' row' hrow').1
  have hcolumn : ∃ f : Field, f.entity = e ∧ (naming.columnName f).isSome := by
    obtain ⟨call, hcall, hcolumn⟩ := hmapped
    exact ⟨call.field, hown call hcall, hcolumn⟩
  obtain ⟨q, made, after, hmade, hrecords⟩ :=
    session.queryRecords_all hbackend hpermissive htells hstores' htyped' hcolumn
  refine ⟨b, created, row, hbuilt, hrun, hdatabase, q, made, naming.recordOf e row, after, hmade, ?_,
    fun f => ?_⟩
  · rw [hrecords, List.map_append]
    rfl
  · rw [Naming.get?_recordOf]
    split
    · next hf => rw [hcells f hf.1 hf.2]
    · rfl

/-- An entity with a field of almost every kind, and one more that is not stored. -/
def Entity.reading : Entity :=
  ⟨2, "reading", none, [⟨"sensor", .long, false, none⟩, ⟨"level", .double, false, none⟩,
    ⟨"raw", .blob, false, none⟩, ⟨"unit", .string, false, none⟩, ⟨"note", .string, false, none⟩]⟩

/-- A field of this entity. -/
def Field.reading (i : Fin 5) : Field := ⟨.reading, i, i.isLt⟩

/-- Names as they are, but notes have no column. -/
def Naming.withoutNotes : Naming :=
  ⟨(·.name), fun f => if f = .reading 4 then none else some f.name⟩

/-- A store with one reading, and a fed cell that holds two bytes. -/
def Store.ofReading : Store Memory :=
  ⟨⟨⟨[⟨"READING", [⟨"sensor", .bigint⟩, ⟨"level", .double⟩, ⟨"raw", .blob⟩, ⟨"unit", .varchar⟩],
      [[.long 1, .null, .blob [], .string "C"]]⟩], by decide⟩, #[], #[]⟩,
    #[.blob [0, 255]], #[], #[], #[]⟩

/-- A reading whose level is set twice, last to the negative zero, and whose sensor is given as an
integer. Its unit is not set, and its note has no column. -/
theorem insert_round_trip_reading :
    let calls : List AssignCall := [.native (.reading 1) ⟨0x3FF8000000000000⟩,
      .value (.reading 0) (.integer 7), .native (.reading 4) "new", .fed (.reading 2) ⟨0⟩,
      .value (.reading 1) (.double ⟨0x8000000000000000⟩)]
    let session : Session Memory := ⟨Memory.backend, .withoutNotes, { blobMode := .lengthPrefixed }⟩
    ∃ b created q made first last after,
      (MutationBuilder.insert .reading).assignAll calls = .ok b ∧
      session.runBuilder b .ofReading = (.ok 1, created) ∧
      (let start := SelectBuilder.start (.entity .reading) none
      let built := start.selectFields created.slots start.allFields
      session.query built.1 { created with slots := built.2 } = (.ok q, made)) ∧
      session.queryRecords q made = (.ok [first, last], after) ∧
      first.get? (.reading 0) = some (.long 1) ∧
      last.get? (.reading 0) = some (.long 7) ∧
      last.get? (.reading 1) = some (.double ⟨0x8000000000000000⟩) ∧
      last.get? (.reading 2) = some (.blob [0, 255]) ∧ last.get? (.reading 3) = some .null ∧
      last.get? (.reading 4) = none := by
  intro calls session
  have htells : Naming.withoutNotes.Tells [.reading] :=
    .of_words (by decide) (by decide) (by decide) (by decide)
  have hstores : Store.ofReading.backend.database.Stores .withoutNotes .reading
      [[.long 1, .null, .blob [], .string "C"]] := ⟨by decide, by decide⟩
  have hpermissive : session.config.strict = false := rfl
  have haccepted : ∀ call ∈ calls, call.Accepted .ofReading := by decide
  obtain ⟨b, created, row, hbuilt, hrun, -, q, made, last, after, hmade, hrecords, hlast⟩ :=
    insert_round_trip .withoutNotes hpermissive htells hstores (by decide) (by decide) haccepted
      (by decide)
  refine ⟨b, created, q, made, _, last, after, hbuilt, hrun, hmade, hrecords, ?_⟩
  simp only [hlast, Naming.get?_recordOf]
  decide

end EntityQuery
