import EntityQuery.Proofs.Session.EntityQueries
import EntityQuery.Proofs.Session.EntityRequests
import EntityQuery.Proofs.Session.SelectMeaning

/-!
# Queries and mutations denote the same rows

A condition over the fields of one entity is compiled, numbered, bound and executed in three ways: by a
query, by a delete and by an update, where its parameters stand behind those of the assignments.

* `Naming.answer` is the answer of the condition on a row, whatever parameters stand in front
  (`Session.answer_shifted`).
* `mutations_agree_with_query`: a delete removes exactly the rows that the query shows, an update
  overwrites exactly these, and where the condition fails in the query, it fails in the mutations.
-/

namespace EntityQuery

open Sql

/-! ## The rows that a condition denotes -/

/-- The answer of a condition on a row, where it hands over these values. -/
def Naming.answer (naming : Naming) (e : Entity) (values : List Value)
    (condition : Option Constraint) (row : Row) : Except EvalError Bool :=
  Frame.satisfiesAll ⟨(naming.tableWith e []).scope, values, row⟩ (condition.map (·.image naming 1))

namespace Session

variable {session : Session Memory} (hbackend : session.backend = Memory.backend) {e : Entity}
  (htells : session.naming.Tells [e]) {rows : List Row} {store : Store Memory}
  (hstores : store.backend.database.Stores session.naming e rows) {condition : Option Constraint}
  {vs : List Value} (hcondition : conditionHanded store.valueOf condition = some vs)
include hbackend htells hstores hcondition

section Delete

variable (hown : ∀ f ∈ conditionFields condition, f.entity = e)
  (hmaps : session.naming.Maps (conditionFields condition))
include hown hmaps

/-- Where the condition has an answer on every row, a delete leaves the rows where it is no. -/
theorem delete_of_answers {kept : List Row}
    (hkept : keepRows (session.naming.answer e vs condition) rows = .ok kept) :
    ∃ deleted, (do session.run (← session.deleteRequest e condition) : Step Memory Nat) store =
        (.ok (rows.countP fun row => isYes (session.naming.answer e vs condition row)), deleted) ∧
      deleted.backend.database = store.backend.database.replace (session.naming.tableWith e
        (rows.filter fun row => !isYes (session.naming.answer e vs condition row))) := by
  have hspells := htells.spells (List.mem_singleton_self e)
  obtain ⟨sql, deleted, hrun, hdatabase⟩ :=
    run_deleteRequest hbackend hspells hstores hcondition hown hmaps
  rw [Database.delete_own hstores (answers_of_keepRows hkept)] at hrun hdatabase
  exact ⟨deleted, hrun, hdatabase⟩

/-- Where the condition fails on a row, a delete changes nothing. -/
theorem delete_of_failure {cause : EvalError}
    (hfails : keepRows (session.naming.answer e vs condition) rows = .error cause) :
    ∃ sql deleted, (do session.run (← session.deleteRequest e condition) : Step Memory Nat) store =
        (.error (.execution sql (.evaluation cause)), deleted) ∧
      deleted.backend.database = store.backend.database := by
  have hspells := htells.spells (List.mem_singleton_self e)
  obtain ⟨sql, deleted, hrun, hdatabase⟩ :=
    run_deleteRequest hbackend hspells hstores hcondition hown hmaps
  rw [Database.delete_own_error hstores hfails] at hrun hdatabase
  exact ⟨sql, deleted, hrun, hdatabase⟩

end Delete

section Update

variable {values : Assignments} {cells : List (Field × Value)}
  (hown : ∀ f ∈ values.map Prod.fst ++ conditionFields condition, f.entity = e)
  (hmaps : session.naming.Maps (values.map Prod.fst ++ conditionFields condition))
  (hne : values ≠ []) (hcells : values.assigned store.valueOf = some cells)

omit hbackend htells hstores in
/-- The parameters of the condition are found behind those of the assignments. -/
theorem answer_shifted (cells : List (Field × Value)) (row : Row) :
    Frame.satisfiesAll ⟨(session.naming.tableWith e rows).scope, cells.map Prod.snd ++ vs, row⟩
        (condition.map (·.image session.naming (cells.length + 1))) =
      session.naming.answer e vs condition row := by
  have hlength : (cells.map Prod.snd).length = cells.length := List.length_map _
  rw [← hlength]
  exact (Frame.satisfiesAll_shift (length_conditionHanded hcondition) _).symm

include hown hmaps hne hcells

/-- Where the condition has an answer on every row, an update overwrites the rows where it is yes. -/
theorem update_of_answers {kept : List Row}
    (hkept : keepRows (session.naming.answer e vs condition) rows = .ok kept) :
    ∃ updated, session.runBuilder ⟨e, .update condition, values⟩ store =
        (.ok (rows.countP fun row => isYes (session.naming.answer e vs condition row)), updated) ∧
      updated.backend.database = store.backend.database.replace (session.naming.tableWith e
        (rows.map fun row => if isYes (session.naming.answer e vs condition row) then
          session.naming.overwritten row cells else row)) := by
  have hspells := htells.spells (List.mem_singleton_self e)
  obtain ⟨hownValues, -⟩ := List.forall_mem_append.1 hown
  have hfits := Assignments.fits_assigned hcells hownValues (Naming.maps_append.1 hmaps).1
  obtain ⟨sql, updated, hrun, hdatabase⟩ :=
    runBuilder_update hbackend hspells hstores hcondition hown hmaps hne hcells
  rw [Database.update_own hstores hspells hfits fun row hrow =>
    (answer_shifted hcondition cells row).trans (answers_of_keepRows hkept row hrow)] at hrun hdatabase
  exact ⟨updated, hrun, hdatabase⟩

/-- Where the condition fails on a row, an update changes nothing. -/
theorem update_of_failure {cause : EvalError}
    (hfails : keepRows (session.naming.answer e vs condition) rows = .error cause) :
    ∃ sql updated, session.runBuilder ⟨e, .update condition, values⟩ store =
        (.error (.execution sql (.evaluation cause)), updated) ∧
      updated.backend.database = store.backend.database := by
  have hspells := htells.spells (List.mem_singleton_self e)
  obtain ⟨hownValues, -⟩ := List.forall_mem_append.1 hown
  have hfits := Assignments.fits_assigned hcells hownValues (Naming.maps_append.1 hmaps).1
  obtain ⟨sql, updated, hrun, hdatabase⟩ :=
    runBuilder_update hbackend hspells hstores hcondition hown hmaps hne hcells
  have hshifted : session.naming.answer e vs condition = fun row => Frame.satisfiesAll
      ⟨(session.naming.tableWith e rows).scope, cells.map Prod.snd ++ vs, row⟩
      (condition.map (·.image session.naming (cells.length + 1))) :=
    funext fun row => (answer_shifted hcondition cells row).symm
  rw [hshifted] at hfails
  rw [Database.update_own_error hstores hspells hfits hfails] at hrun hdatabase
  exact ⟨sql, updated, hrun, hdatabase⟩

end Update

end Session

/-! ## Agreement -/

/-- The rows on which a query, a delete and an update agree.

Let a query of an entity's own fields be made, with a condition and sort keys over this entity, and
without limit and repetitions. If its execution succeeds, it shows the selected cells of some rows of the
table. A delete under the same condition, run on the same store, counts these rows and leaves exactly
the others, in their order. An update counts them too, and puts the assigned values into them and into
no other row, in place. If the execution fails because the condition cannot be evaluated, so do the
delete and the update, and change nothing. -/
theorem mutations_agree_with_query (naming : Naming) (config : Config) {e : Entity} {s : Selection}
    {store made : Store Memory} {q : Query} {autoClose : Bool} {rows : List Row}
    (htells : naming.Tells [e]) (hstores : store.backend.database.Stores naming e rows)
    (hown : ∀ f ∈ s.fieldsNamed, f.entity = e) (hunlimited : s.top = none) (hrepeats : s.distinct = [])
    (hfresh : store.slots.Fresh s.fields)
    (hmade : Session.compiledQuery ⟨Memory.backend, naming, config⟩ s autoClose store =
      (.ok q, made)) :
    let session : Session Memory := ⟨Memory.backend, naming, config⟩
    let fields := (s.trimmed naming).fields
    let db := store.backend.database
    let delete : Step Memory Nat := do session.run (← session.deleteRequest e s.constraint)
    let update := fun values => session.runBuilder ⟨e, .update s.constraint, values⟩
    let Assigns := fun (values : Assignments) cells => values ≠ [] ∧
      (∀ f ∈ values.map Prod.fst, f.entity = e) ∧ naming.Maps (values.map Prod.fst) ∧
      values.assigned store.valueOf = some cells
    (∀ id after, session.execute q made = (.ok id, after) →
      ∃ (vs : List Value) (p : Row → Bool) (shown : List Row),
        conditionHanded store.valueOf s.constraint = some vs ∧
        (∀ row ∈ rows, naming.answer e vs s.constraint row = .ok (p row)) ∧
        after.Shows id fields shown ∧
        shown.Perm ((rows.filter p).map fun row => (fields.map Prod.fst).map (naming.cellIn row)) ∧
        (∃ deleted, delete store = (.ok shown.length, deleted) ∧ deleted.backend.database =
          db.replace (naming.tableWith e (rows.filter fun row => !p row))) ∧
        ∀ values cells, Assigns values cells →
          ∃ updated, update values store = (.ok shown.length, updated) ∧ updated.backend.database =
            db.replace (naming.tableWith e
              (rows.map fun row => if p row then naming.overwritten row cells else row))) ∧
    (∀ sql cause after,
      session.execute q made = (.error (.execution sql (.evaluation cause)), after) →
      (∃ sql deleted, delete store = (.error (.execution sql (.evaluation cause)), deleted) ∧
        deleted.backend.database = db) ∧
      ∀ values cells, Assigns values cells →
        ∃ sql updated, update values store =
            (.error (.execution sql (.evaluation cause)), updated) ∧
          updated.backend.database = db) := by
  intro session fields db delete update Assigns
  have hbackend : session.backend = Memory.backend := rfl
  obtain ⟨slots, prepared, hcompile, -⟩ := Session.compiledQuery_eq_ok hbackend hmade
  obtain ⟨hmaps, hne, -⟩ := Selection.compile_eq_ok hcompile
  have hmapped : (s.trimmed naming).Mapped naming := Selection.mapped_trimmed hmaps hne
  have hownTrimmed : ∀ f ∈ (s.trimmed naming).fieldsNamed, f.entity = e :=
    fun f hf => hown f (Selection.fieldsNamed_trimmed hf)
  obtain ⟨hownRead, hownOrders⟩ := List.forall_mem_append.1 hownTrimmed
  obtain ⟨hownFields, hownCondition⟩ := List.forall_mem_append.1 hownRead
  have hentities := Selection.entities_own hmapped.selects hownRead
  have htells' : naming.Tells (s.trimmed naming).entities := hentities.symm ▸ htells
  have hfields : ∀ f ∈ fields.map Prod.fst, f.entity = e ∧ (naming.columnName f).isSome :=
    fun f hf => ⟨hownFields f hf, hmapped.mapped_fields f hf⟩
  have horders : ∀ key ∈ (s.trimmed naming).orders,
      key.1.entity = e ∧ (naming.columnName key.1).isSome := by
    intro key hkey
    have hkey' := List.mem_map_of_mem (f := Prod.fst) hkey
    exact ⟨hownOrders _ hkey', hmapped.mapped_orders _ hkey'⟩
  obtain ⟨-, hheld, hsame⟩ := Session.compiledQuery_held hbackend hmade htells'
    (fun key hkey => by rw [hentities, (horders key hkey).1]; exact List.mem_singleton_self e)
    (fun n hn => by rw [hunlimited] at hn; cases hn)
  have hreads := Session.valueOf_compiledQuery hbackend hmade hfresh
  obtain ⟨sid, hstands⟩ := hheld.stands
  have hcount := hheld.count
  rw [hmapped.image_eq htells', Selection.statement_own hentities hunlimited hrepeats,
    ← hheld.condition] at hstands
  rw [← hheld.condition] at hcount
  have hmapsCondition : naming.Maps (conditionFields s.constraint) :=
    hmapped.mapped_condition
  refine ⟨fun id after hrun => ?_, fun sql cause after hrun => ?_⟩
  · obtain ⟨vs, r, bound, hvalues, hselect, houtline, rfl, rfl⟩ :=
      Session.execute_ok hbackend hstands hcount hrun
    rw [hreads, hheld.condition] at hvalues
    rw [hsame.database, hheld.condition] at hselect
    cases hkeep : keepRows (naming.answer e vs s.constraint) rows with
    | error cause =>
      cases (Database.select_own_error hstores hkeep).symm.trans hselect
    | ok kept =>
      obtain ⟨names, sorted, hselect', hperm, -⟩ :=
        Database.select_own hstores htells hfields horders hkeep
      obtain rfl := Except.ok.inj (hselect'.symm.trans hselect)
      have hanswers := answers_of_keepRows hkeep
      have hkept := Except.ok.inj (hkeep.symm.trans (keepRows_eq_filter hanswers))
      have hcursors : bound.cursors = made.cursors := congrArg (·.cursors) houtline
      have hshows := bound.shows_opening q
        ⟨names, sorted.map fun row => (fields.map Prod.fst).map (naming.cellIn row)⟩
      rw [hcursors, hheld.columns] at hshows
      have hlength : (sorted.map fun row => (fields.map Prod.fst).map (naming.cellIn row)).length =
          rows.countP fun row => isYes (naming.answer e vs s.constraint row) := by
        rw [List.length_map, hperm.length_eq, hkept, List.countP_eq_length_filter]
      refine ⟨vs, fun row => isYes (naming.answer e vs s.constraint row), _, hvalues, hanswers, hshows,
        (hkept ▸ hperm).map _, ?_, ?_⟩
      · rw [hlength]
        exact Session.delete_of_answers hbackend htells hstores hvalues hownCondition
          hmapsCondition hkeep
      · rintro values cells ⟨hassigns, hownValues, hmapsValues, hcells⟩
        rw [hlength]
        exact Session.update_of_answers hbackend htells hstores hvalues
          (List.forall_mem_append.2 ⟨hownValues, hownCondition⟩)
          (Naming.maps_append.2 ⟨hmapsValues, hmapsCondition⟩) hassigns hcells hkeep
  · obtain ⟨vs, hvalues, hselect⟩ :=
      Session.execute_evaluation hbackend hstands hcount hrun
    rw [hreads, hheld.condition] at hvalues
    rw [hsame.database, hheld.condition] at hselect
    cases hkeep : keepRows (naming.answer e vs s.constraint) rows with
    | ok kept =>
      obtain ⟨names, sorted, hselected, -⟩ :=
        Database.select_own hstores htells hfields horders hkeep
      cases hselected.symm.trans hselect
    | error cause' =>
      have hcause := (Database.select_own_error hstores hkeep).symm.trans hselect
      obtain rfl : cause' = cause := BackendError.evaluation.inj (Except.error.inj hcause)
      refine ⟨Session.delete_of_failure hbackend htells hstores hvalues hownCondition
        hmapsCondition hkeep, ?_⟩
      rintro values cells ⟨hassigns, hownValues, hmapsValues, hcells⟩
      exact Session.update_of_failure hbackend htells hstores hvalues
        (List.forall_mem_append.2 ⟨hownValues, hownCondition⟩)
        (Naming.maps_append.2 ⟨hmapsValues, hmapsCondition⟩) hassigns hcells hkeep

/-- Three persons, of whom one has no name. -/
def personRows : List Row :=
  [[.integer 1, .string "Ada"], [.integer 2, .string "Bea"], [.integer 3, .null]]

/-- A store with these persons, and two fed cells: a number and a name. -/
def Store.ofPersons (slots : Slots) : Store Memory :=
  ⟨⟨⟨[⟨"PERSON", [⟨"id", .integer⟩, ⟨"name", .varchar⟩], personRows⟩], by decide⟩, #[], #[]⟩,
    #[.integer 2, .string "Bo"], slots, #[], #[]⟩

/-- Persons from a number on that have a name: one is found, deleted and renamed. The value of the
condition is the first parameter of the query and of the delete, and the second one of the update. -/
theorem mutations_agree_with_query_person :
    let condition : Constraint := .and
      (.compare .greaterEqual (.field .personId) (.accessor .personId (.fed ⟨0⟩)))
      (.isNull true .personName)
    let session : Session Memory := ⟨Memory.backend, .plain, {}⟩
    let built := (SelectBuilder.start (.entity .person) (some condition)).selectFields #[] [.personName]
    let store := Store.ofPersons built.2
    ∃ q made id after, session.compiledQuery built.1.selection false store = (.ok q, made) ∧
      session.execute q made = (.ok id, after) ∧
      after.Shows id built.1.selection.fields [[.string "Bea"]] ∧
      (∃ deleted, (do session.run (← session.deleteRequest .person (some condition)) : Step Memory Nat)
          store = (.ok 1, deleted) ∧
        deleted.backend.database.Stores .plain .person
          [[.integer 1, .string "Ada"], [.integer 3, .null]]) ∧
      ∃ updated, session.runBuilder
          ⟨.person, .update (some condition), [(.personName, .fed ⟨1⟩)]⟩ store = (.ok 1, updated) ∧
        updated.backend.database.Stores .plain .person
          [[.integer 1, .string "Ada"], [.integer 2, .string "Bo"], [.integer 3, .null]] := by
  intro condition session built store
  have hbackend : session.backend = Memory.backend := rfl
  have htells : Naming.plain.Tells [.person] := Naming.plain_tells.mono (by decide)
  have hstores : store.backend.database.Stores .plain .person personRows := ⟨by decide, by decide⟩
  have hentities : built.1.selection.entities = [.person] := by decide
  have htells' : Naming.plain.Tells built.1.selection.entities := hentities.symm ▸ htells
  have hstores' : ∀ e ∈ built.1.selection.entities,
      store.backend.database.Stores .plain e personRows := by
    rw [hentities]
    intro e he
    exact List.mem_singleton.1 he ▸ hstores
  have hfree : built.2.Free built.1.selection.fields :=
    SelectBuilder.free_selectFields ⟨by decide, by decide, by decide⟩ _
  have hfresh : built.2.Fresh built.1.selection.fields :=
    (SelectBuilder.fresh_selectFields (fun _ hf => absurd hf List.not_mem_nil) _).1
  have hbare : built.1.selection.Bare .plain := ⟨by decide, fun _ _ => rfl, rfl, rfl, rfl⟩
  obtain ⟨q, made, hmade, hheld, hsame⟩ := hbare.held htells' hbackend rfl hfree hstores' false
  have hmeaning : ∀ c ∈ combinations (fun _ => personRows) built.1.selection.entities,
      (conditionMeaning (Naming.plain.cell c) store.cells built.1.selection.constraint).isSome := by
    decide
  rw [← hsame.cells] at hmeaning
  obtain ⟨id, after, hrun, hshows, -⟩ := hheld.execute_eq hbare htells' hbackend
    (hsame.database.symm ▸ hstores') (by rw [hsame.cells]; rfl) hmeaning
  rw [hsame.cells] at hshows
  obtain ⟨hagree, -⟩ := mutations_agree_with_query .plain {} (e := .person)
    htells hstores (by decide) rfl rfl hfresh hmade
  obtain ⟨vs, p, shown, hvalues, hanswers, hshows', -, ⟨deleted, hdelete, hleft⟩, hupdate⟩ :=
    hagree id after hrun
  obtain rfl : [.integer 2] = vs := Option.some.inj hvalues
  obtain rfl : shown = [[.string "Bea"]] := hshows'.rows_eq hshows
  obtain ⟨updated, hupdate, hchanged⟩ := hupdate [(.personName, .fed ⟨1⟩)]
    [(.personName, .string "Bo")] ⟨by decide, by decide, fun _ _ => rfl, rfl⟩
  have himage : condition.image .plain 1 =
      .and (.compare .greaterEqual (.qualified "person" "id") (.parameter 1))
        (.isNull true (.qualified "person" "name")) := by cbv
  have hanswer {row : Row} (hrow : row ∈ personRows) {answer : Bool}
      (h : Frame.satisfies ⟨(Naming.plain.tableWith .person []).scope, [.integer 2], row⟩
        (.and (.compare .greaterEqual (.qualified "person" "id") (.parameter 1))
          (.isNull true (.qualified "person" "name"))) = .ok answer) : p row = answer := by
    rw [← himage] at h
    exact Except.ok.inj ((hanswers row hrow).symm.trans h)
  have hada : p [.integer 1, .string "Ada"] = false := hanswer (by decide) rfl
  have hbea : p [.integer 2, .string "Bea"] = true := hanswer (by decide) rfl
  have hnameless : p [.integer 3, .null] = false := hanswer (by decide) rfl
  have hothers : personRows.filter (fun row => !p row) =
      [[.integer 1, .string "Ada"], [.integer 3, .null]] := by
    simp [personRows, hada, hbea, hnameless]
  have hrenamed : personRows.map (fun row => if p row then
      Naming.plain.overwritten row [(.personName, .string "Bo")] else row) =
      [[.integer 1, .string "Ada"], [.integer 2, .string "Bo"], [.integer 3, .null]] := by
    simp only [personRows, List.map_cons, hada, hbea, hnameless]
    rfl
  rw [hothers] at hleft
  rw [hrenamed] at hchanged
  exact ⟨q, made, id, after, hmade, hrun, hshows,
    ⟨deleted, hdelete, hleft ▸ hstores.replace (by decide)⟩,
    updated, hupdate, hchanged ▸ hstores.replace (by decide)⟩

end EntityQuery
