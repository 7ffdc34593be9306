import EntityQuery.Proofs.Execution.EntityMutations
import EntityQuery.Proofs.Session.Making

/-!
# Mutations of one entity

A mutation of an entity's own fields whose names are told apart is compiled, its text is parsed and
prepared, its values are bound, and its statement runs over the table of the entity. On the backend in
memory, all of this together is the statement on the database:

* `Assignments.assigned` are the fields of assignments with the values that they hand over;
* `Session.runBuilder_insert`, `Session.runBuilder_update` and `Session.run_deleteRequest` say what the
  mutations do.
-/

namespace EntityQuery

open Sql

/-! ## Assigned cells -/

/-- The fields of assignments with the values that they hand over. -/
def Assignments.assigned (value : Accessor → Option Value) (values : Assignments) :
    Option (List (Field × Value)) :=
  values.mapM fun (f, a) => ((value a).bind (coerced f)).map (f, ·)

section Cells

variable {value : Accessor → Option Value} {values : Assignments} {cells : List (Field × Value)}

theorem Assignments.assigned_cons (value : Accessor → Option Value) (f : Field) (a : Accessor)
    (values : Assignments) : assigned value ((f, a) :: values) =
      ((value a).bind (coerced f)).bind fun v => (assigned value values).map ((f, v) :: ·) := by
  rw [assigned, List.mapM_cons]
  dsimp only
  cases (value a).bind (coerced f) with
  | none => rfl
  | some v =>
    change (assigned value values >>= fun rest => pure ((f, v) :: rest)) = _
    cases assigned value values <;> rfl

theorem Assignments.isSome_assigned_iff : (values.assigned value).isSome ↔
    ∀ p ∈ values, ((value p.2).bind (coerced p.1)).isSome := by
  induction values with
  | nil => exact iff_of_true rfl fun _ h => absurd h List.not_mem_nil
  | cons p values ih =>
    rcases p with ⟨f, a⟩
    rw [assigned_cons, List.forall_mem_cons, ← ih]
    dsimp only
    cases (value a).bind (coerced f) <;> cases assigned value values <;> simp

/-- Assignments hand their values over if they are assigned. -/
theorem Assignments.handed_eq (value : Accessor → Option Value) (values : Assignments) :
    values.handed value = (values.assigned value).map (·.map Prod.snd) := by
  induction values with
  | nil => rfl
  | cons p values ih =>
    rcases p with ⟨f, a⟩
    have hcons : handed value ((f, a) :: values) =
        ((value a).bind (coerced f)).bind fun v => (handed value values).map (v :: ·) := by
      rw [handed, List.mapM_cons]
      dsimp only
      rcases (value a).bind (coerced f) with _ | v
      · rfl
      · change (handed value values >>= fun rest => pure (v :: rest)) = _
        cases handed value values <;> rfl
    rw [hcons, assigned_cons, ih]
    cases (value a).bind (coerced f) <;> cases assigned value values <;> rfl

/-- Assigned cells are those of the assigned fields, and their values are handed over. -/
theorem Assignments.of_assigned (h : values.assigned value = some cells) :
    cells.map Prod.fst = values.map Prod.fst ∧ values.handed value = some (cells.map Prod.snd) := by
  refine ⟨?_, by rw [handed_eq, h]; rfl⟩
  induction values generalizing cells with
  | nil =>
    cases h
    rfl
  | cons assignment values ih =>
    rcases assignment with ⟨f, a⟩
    rw [assigned_cons] at h
    obtain ⟨v, -, h⟩ := Option.bind_eq_some_iff.1 h
    obtain ⟨rest, hrest, rfl⟩ := Option.map_eq_some_iff.1 h
    rw [List.map_cons, List.map_cons, ih hrest]

/-- Assigned cells of an entity's mapped fields fit. -/
theorem Assignments.fits_assigned {naming : Naming} {e : Entity} (h : values.assigned value = some cells)
    (hown : ∀ f ∈ values.map Prod.fst, f.entity = e) (hmaps : naming.Maps (values.map Prod.fst)) :
    naming.Fits e cells := by
  intro cell hcell
  have hfield : cell.1 ∈ values.map Prod.fst := (of_assigned h).1 ▸ List.mem_map_of_mem hcell
  refine ⟨hown _ hfield, hmaps _ hfield, ?_⟩
  clear hown hmaps hfield
  induction values generalizing cells with
  | nil =>
    cases h
    cases hcell
  | cons assignment values ih =>
    rcases assignment with ⟨f, a⟩
    rw [assigned_cons] at h
    obtain ⟨v, hv, h⟩ := Option.bind_eq_some_iff.1 h
    obtain ⟨rest, hrest, rfl⟩ := Option.map_eq_some_iff.1 h
    rcases List.mem_cons.1 hcell with rfl | hcell
    · obtain ⟨w, -, hw⟩ := Option.bind_eq_some_iff.1 hv
      exact holds_coerced hw
    · exact ih hrest hcell

end Cells

/-! ## Images -/

section Images

variable {naming : Naming} {e : Entity} (hspells : naming.Spells e)
include hspells

theorem Naming.Spells.nameOf_table : nameOf (naming.tableName e) = naming.tableName e :=
  (isName_of_tokenize hspells.table_word).2

variable {values : Assignments} {cells : List (Field × Value)}
  (hcells : cells.map Prod.fst = (naming.columned values).map Prod.fst)
include hcells

/-- An insert of mapped fields is read back as the insert of their cells. -/
theorem insertImage_own : insertImage naming e values = .insert (naming.ownInsert e cells) := by
  have hlength := congrArg List.length hcells
  rw [List.length_map, List.length_map] at hlength
  have hnames := congrArg (List.map fun f => nameOf (naming.columnText f)) hcells
  rw [List.map_map, List.map_map] at hnames
  have hinsert : naming.ownInsert e cells = ⟨naming.tableName e,
      some (cells.map ((fun f => nameOf (naming.columnText f)) ∘ Prod.fst)),
      [(List.range' 1 cells.length).map .parameter]⟩ := rfl
  rw [hinsert, hnames, insertImage, assignedOnes_eq, List.map_map, List.length_map,
    hspells.nameOf_table, hlength]
  rfl

/-- An update of mapped fields is read back as the update with their cells. -/
theorem updateImage_own (condition : Option Constraint) :
    updateImage naming e values condition = .update (naming.ownUpdate e cells
      (condition.map (·.image naming (cells.length + 1)))) := by
  have hlength := congrArg List.length hcells
  rw [List.length_map, List.length_map] at hlength
  have hupdate : naming.ownUpdate e cells (condition.map (·.image naming (cells.length + 1))) =
      ⟨naming.tableName e, List.zipWith (fun f i => (nameOf (naming.columnText f), .parameter (i + 1)))
        (cells.map Prod.fst) (List.range' 0 cells.length),
        condition.map (·.image naming (cells.length + 1))⟩ := by
    rw [Naming.ownUpdate, List.zipWith_map_left]
  rw [hupdate, hcells, updateImage, assignedOnes_eq, List.length_map, hspells.nameOf_table, hlength,
    List.zipWith_map_left, List.zipWith_map_left]

omit hcells in
theorem deleteImage_own (condition : Option Constraint) :
    deleteImage naming e condition =
      .delete ⟨naming.tableName e, condition.map (·.image naming 1)⟩ := by
  rw [deleteImage, hspells.nameOf_table]

end Images

/-! ## Requests -/

namespace Session

variable {session : Session Memory} (hbackend : session.backend = Memory.backend) {e : Entity}
  (hspells : session.naming.Spells e) {rows : List Row} {store : Store Memory}
  (hstores : store.backend.database.Stores session.naming e rows)

/-- A builder whose mutation compiles makes the compiled mutation. -/
theorem mutation_eq {session : Session Memory} {b : MutationBuilder} {m : CompiledMutation}
    (h : b.compile session.naming session.config.strict = .ok m) (store : Store Memory) :
    session.mutation b store = session.prepareMutation m store := by
  have hcompile : Step.ofExcept (b.compile session.naming session.config.strict) store =
      (.ok m, store) := by
    rw [h]
    rfl
  exact bind_of_ok hcompile

include hbackend hspells hstores

/-- An insert that is made by a builder appends a row with its cells. -/
theorem runBuilder_insert {values : Assignments} {cells : List (Field × Value)}
    (hown : ∀ f ∈ values.map Prod.fst, f.entity = e)
    (hstrict : session.config.strict = true → session.naming.Maps (values.map Prod.fst))
    (hne : session.naming.columned values ≠ [])
    (hcells : Assignments.assigned store.valueOf (session.naming.columned values) = some cells) :
    ∃ after, session.runBuilder ⟨e, .insert, values⟩ store = (.ok 1, after) ∧
      after.backend.database = store.backend.database.replace (session.naming.tableWith e
        (rows ++ [session.naming.overwritten
          (List.replicate (session.naming.columnsOf e).length .null) cells])) := by
  obtain ⟨hfields, hhanded⟩ := Assignments.of_assigned hcells
  have hreads := reads_insert hspells hown hne
  rw [insertImage_own hspells hfields] at hreads
  have hfits := Assignments.fits_assigned hcells
    (fun f hf => hown f ((List.filter_sublist.map Prod.fst).subset hf))
    (session.naming.maps_columned values)
  have hvalues : requestHanded store.valueOf (insertWritten session.naming e values).values none =
      some (cells.map Prod.snd) := by
    have hwritten : (insertWritten session.naming e values).values = session.naming.columned values :=
      sources_assignedOnes session.naming values
    rw [hwritten, requestHanded, hhanded]
    exact congrArg some (List.append_nil _)
  obtain ⟨after, hrun, hdatabase⟩ := runOnce_prepareMutation hbackend hreads
    (Database.tables_own hstores) hvalues
  rw [Database.mutate, Database.insert_own hstores hspells hfits] at hrun hdatabase
  have hmutation := mutation_eq (b := ⟨e, .insert, values⟩) (compileInsert_ok hstrict hne e) store
  exact ⟨after, (bind_congr_left hmutation).trans hrun, hdatabase⟩

variable {condition : Option Constraint} {vs : List Value}
  (hcondition : conditionHanded store.valueOf condition = some vs)
include hcondition

/-- An update that is made by a builder updates with its cells. -/
theorem runBuilder_update {values : Assignments} {cells : List (Field × Value)}
    (hown : ∀ f ∈ values.map Prod.fst ++ conditionFields condition, f.entity = e)
    (hmaps : session.naming.Maps (values.map Prod.fst ++ conditionFields condition))
    (hne : values ≠ []) (hcells : Assignments.assigned store.valueOf values = some cells) :
    ∃ sql after, session.runBuilder ⟨e, .update condition, values⟩ store =
        ((store.backend.database.update (cells.map Prod.snd ++ vs) (session.naming.ownUpdate e cells
          (condition.map (·.image session.naming (cells.length + 1))))).1.mapError (.execution sql),
          after) ∧
      after.backend.database = (store.backend.database.update (cells.map Prod.snd ++ vs)
        (session.naming.ownUpdate e cells
          (condition.map (·.image session.naming (cells.length + 1))))).2 := by
  obtain ⟨hmapsValues, hmapsCondition⟩ := Naming.maps_append.1 hmaps
  have hcolumned := Naming.columned_of_maps hmapsValues
  obtain ⟨hfields, hhanded⟩ := Assignments.of_assigned hcells
  have hreads := reads_update hspells hown (hcolumned.symm ▸ hne) hmapsCondition
  rw [updateImage_own hspells (hcolumned.symm ▸ hfields)] at hreads
  have hvalues : requestHanded store.valueOf
      (updateWritten session.naming e values condition).values condition =
        some (cells.map Prod.snd ++ vs) := by
    have hwritten : (updateWritten session.naming e values condition).values = values :=
      (sources_assignedOnes session.naming values).trans hcolumned
    rw [hwritten, requestHanded, hhanded, hcondition]
    rfl
  obtain ⟨after, hrun, hdatabase⟩ := runOnce_prepareMutation hbackend hreads
    (Database.tables_own hstores) hvalues
  have hmutation := mutation_eq (b := ⟨e, .update condition, values⟩)
    (compileUpdate_ok (fun (_ : session.config.strict = true) => hmapsValues) (hcolumned.symm ▸ hne)
      hmapsCondition e) store
  exact ⟨_, after, (bind_congr_left hmutation).trans hrun, hdatabase⟩

/-- A delete deletes by its condition. -/
theorem run_deleteRequest (hown : ∀ f ∈ conditionFields condition, f.entity = e)
    (hmaps : session.naming.Maps (conditionFields condition)) :
    ∃ sql after, (do session.run (← session.deleteRequest e condition) : Step Memory Nat) store =
        ((store.backend.database.delete vs ⟨session.naming.tableName e,
          condition.map (·.image session.naming 1)⟩).1.mapError (.execution sql), after) ∧
      after.backend.database = (store.backend.database.delete vs ⟨session.naming.tableName e,
        condition.map (·.image session.naming 1)⟩).2 := by
  have hreads := reads_delete hspells hown hmaps
  rw [deleteImage_own hspells] at hreads
  have hvalues : requestHanded store.valueOf
      (deleteWritten session.naming e condition).values condition = some vs :=
    (requestHanded_nil _ _).trans hcondition
  obtain ⟨r, prepared, hprepare, bound, -, hrun, -⟩ := run_prepareMutation hbackend hreads
    (Database.tables_own hstores) hvalues
  have hcompile : Step.ofExcept (compileDelete session.naming e condition) store =
      (.ok (deleteWritten session.naming e condition), store) := by
    rw [compileDelete_ok hmaps]
    rfl
  have hrequest : session.deleteRequest e condition store =
      session.prepareMutation (deleteWritten session.naming e condition) store := bind_of_ok hcompile
  exact ⟨_, _, (bind_congr_left hrequest).trans ((bind_of_ok hprepare).trans hrun), rfl⟩

end Session

end EntityQuery
