import EntityQuery.Proofs.Evaluation.TypedConstraints
import EntityQuery.Proofs.Session.SameRows

/-!
# Requests under typed constraints

Over rows in stored form, a typed constraint has an answer on every row in which it meets no NaN, and fails
on every other. So one stored NaN is enough to make every request fail that compares it:

* `Naming.answer_of_typed` and `Naming.answer_of_nan` are the two outcomes on one row;
* `typed_requests_fail_iff`: a query, a delete and an update under a typed constraint fail if it meets a NaN
  in some row, and succeed if it does not.
-/

namespace EntityQuery

open Sql

/-! ## Answers -/

/-- The constraint meets a NaN in some row of its entity. -/
def Naming.meetsNaN (naming : Naming) (c : Constraint) (rows : List Row) : Bool :=
  rows.any fun row => c.meetsNaN (naming.cellIn row)

section Answer

variable {naming : Naming} {e : Entity} {c : Constraint} {fed : Array Value} {vs : List Value}
  {rows : List Row} {row : Row} (htells : naming.Tells [e]) (hc : c.Typed e)
  (hmaps : naming.Maps c.referencedFields) (harguments : c.arguments fed = some vs)
  (hrow : (naming.tableWith e rows).RowOk row)
include htells hc hmaps hrow

/-- The columns of a typed constraint have their cells as values, in stored form. -/
theorem cells_of_typed (vs : List Value) : ∀ f ∈ c.referencedFields,
    (⟨(naming.tableWith e []).scope, vs, row⟩ : Frame).evaluate (naming.image f) =
        .ok (naming.cellIn row f) ∧
      (ColumnType.ofKind f.kind).holds (naming.cellIn row f) = true := by
  intro f hf
  have hentity := hc.entity_eq f hf
  exact ⟨evaluate_own htells hrow.1 hentity (hmaps f hf) vs, holds_cellIn hrow hentity (hmaps f hf)⟩

include harguments

/-- A typed constraint has an answer on a row in which it meets no NaN. -/
theorem Naming.answer_of_typed (hnan : c.meetsNaN (naming.cellIn row) = false) :
    ∃ answer, naming.answer e vs (some c) row = .ok answer := by
  have hcells := cells_of_typed htells hc hmaps hrow vs
  obtain ⟨t, ht⟩ := hc.meaning_isSome (fun f hf => (hcells f hf).2) hnan fed
  exact ⟨_, Frame.satisfies_image (fun f hf => (hcells f hf).1) harguments ht⟩

/-- A typed constraint fails on a row in which it meets a NaN. -/
theorem Naming.answer_of_nan (hnan : c.meetsNaN (naming.cellIn row) = true) :
    naming.answer e vs (some c) row = .error (.incomparable "double" "double") := by
  have hcells := cells_of_typed htells hc hmaps hrow vs
  have hparameters : vs = [] ++ (vs ++ []) := by simp
  have hfails := hc.fails_image hcells harguments hnan [] [] hparameters
  exact except_bind_of_error hfails

end Answer

/-- Rows are kept by a condition that has an answer on all of them. -/
theorem keepRows_isOk {holds : Row → Except EvalError Bool} {rows : List Row}
    (h : ∀ row ∈ rows, ∃ answer, holds row = .ok answer) : ∃ kept, keepRows holds rows = .ok kept := by
  refine ⟨_, keepRows_eq_filter (p := fun row => isYes (holds row)) fun row hrow => ?_⟩
  obtain ⟨answer, hanswer⟩ := h row hrow
  rw [hanswer]
  cases answer <;> rfl

/-- A condition that fails in one way only fails if it does so on some row. -/
theorem keepRows_error {holds : Row → Except EvalError Bool} {rows : List Row} {cause : EvalError}
    {p : Row → Bool} (hok : ∀ row ∈ rows, p row = false → ∃ answer, holds row = .ok answer)
    (herror : ∀ row ∈ rows, p row = true → holds row = .error cause) (h : rows.any p = true) :
    keepRows holds rows = .error cause := by
  induction rows with
  | nil => cases h
  | cons row rows ih =>
    rw [keepRows]
    cases hp : p row with
    | true => exact except_bind_of_error (herror row List.mem_cons_self hp)
    | false =>
      obtain ⟨answer, hanswer⟩ := hok row List.mem_cons_self hp
      rw [List.any_cons, hp, Bool.false_or] at h
      have hrest := ih (fun r hr => hok r (List.mem_cons_of_mem _ hr))
        (fun r hr => herror r (List.mem_cons_of_mem _ hr)) h
      exact (except_bind_of_ok hanswer).trans (except_bind_of_error hrest)

section Rows

variable {naming : Naming} {e : Entity} {c : Constraint} {fed : Array Value} {vs : List Value}
  {rows : List Row} (htells : naming.Tells [e]) (hc : c.Typed e)
  (hmaps : naming.Maps c.referencedFields) (harguments : c.arguments fed = some vs)
  (hrows : ∀ row ∈ rows, (naming.tableWith e rows).RowOk row)
include htells hc hmaps harguments hrows

/-- A typed constraint that meets no NaN keeps rows. -/
theorem Naming.keepRows_typed (hnan : naming.meetsNaN c rows = false) :
    ∃ kept, keepRows (naming.answer e vs (some c)) rows = .ok kept := by
  refine keepRows_isOk fun row hrow => ?_
  have hnone := List.any_eq_false.1 hnan row hrow
  exact answer_of_typed htells hc hmaps harguments (hrows row hrow) (eq_false_of_ne_true hnone)

/-- A typed constraint that meets a NaN fails. -/
theorem Naming.keepRows_nan (hnan : naming.meetsNaN c rows = true) :
    keepRows (naming.answer e vs (some c)) rows = .error (.incomparable "double" "double") :=
  keepRows_error
    (fun row hrow => answer_of_typed htells hc hmaps harguments (hrows row hrow))
    (fun row hrow => answer_of_nan htells hc hmaps harguments (hrows row hrow)) hnan

end Rows

/-! ## Queries -/

namespace Query.Held

variable {session : Session Memory} (hbackend : session.backend = Memory.backend) {e : Entity}
  {s : Selection} {store : Store Memory} {q : Query} {rows : List Row} {vs : List Value}
  (hheld : q.Held session.naming s store) (hmapped : s.Mapped session.naming)
  (htells : session.naming.Tells [e]) (hown : ∀ f ∈ s.fieldsNamed, f.entity = e)
  (hstores : store.backend.database.Stores session.naming e rows)
  (hvalues : conditionHanded store.valueOf s.constraint = some vs)
include hbackend hheld hmapped htells hown hvalues

/-- A held query over one entity does what its statement does on the table of the entity. -/
theorem execute_single :
    ∃ bound, bound.outline = store.outline ∧ session.execute q store =
      match store.backend.database.select vs (s.statement session.naming) with
      | .error e => (.error (.execution q.sql e), bound)
      | .ok r => (.ok ⟨store.cursors.size⟩, bound.opening q r) := by
  have hentities := Selection.entities_own hmapped.selects
    (List.forall_mem_append.1 hown).1
  obtain ⟨sid, hstands⟩ := hheld.stands
  have hcount := hheld.count
  rw [hmapped.image_eq (hentities.symm ▸ htells), ← hheld.condition] at hstands
  rw [← hheld.condition] at hcount hvalues
  exact Session.execute_eq hbackend hstands hcount hvalues

include hstores

/-- Where its condition has an answer on every row, a query over one entity shows rows. -/
theorem execute_of_answers {kept : List Row}
    (hkept : keepRows (session.naming.answer e vs s.constraint) rows = .ok kept) :
    ∃ id after, session.execute q store = (.ok id, after) := by
  obtain ⟨hownRead, hownOrders⟩ := List.forall_mem_append.1 hown
  obtain ⟨hownFields, -⟩ := List.forall_mem_append.1 hownRead
  obtain ⟨bound, -, hrun⟩ := hheld.execute_single hbackend hmapped htells hown hvalues
  rw [Selection.statement_single (Selection.entities_own hmapped.selects hownRead)] at hrun
  obtain ⟨names, sorted, taken, hselect, -⟩ := Database.select_own_taken hstores htells
    (fun f hf => ⟨hownFields f hf, hmapped.mapped_fields f hf⟩)
    (fun key hkey => ⟨hownOrders _ (List.mem_map_of_mem hkey),
      hmapped.mapped_orders _ (List.mem_map_of_mem hkey)⟩) hkept (s.isDistinct session.naming) s.top
  rw [hselect] at hrun
  exact ⟨_, _, hrun⟩

/-- Where its condition fails, a query over one entity fails, and changes no table. -/
theorem execute_of_failure {cause : EvalError}
    (hfails : keepRows (session.naming.answer e vs s.constraint) rows = .error cause) :
    ∃ after, session.execute q store = (.error (.execution q.sql (.evaluation cause)), after) ∧
      after.backend.database = store.backend.database := by
  obtain ⟨bound, houtline, hrun⟩ := hheld.execute_single hbackend hmapped htells hown hvalues
  have htables : (s.statement session.naming).tables = [session.naming.tableName e] := by
    rw [Selection.statement_single (Selection.entities_own hmapped.selects
      (List.forall_mem_append.1 hown).1)]
    rfl
  rw [Database.select_fails_own hstores htables hfails] at hrun
  exact ⟨bound, hrun, Store.database_of_outline houtline⟩

end Query.Held

/-- A query of one entity's own fields that was made is held. -/
theorem Session.compiledQuery_own {session : Session Memory}
    (hbackend : session.backend = Memory.backend) {e : Entity} {s : Selection}
    {store made : Store Memory} {q : Query} {autoClose : Bool} (htells : session.naming.Tells [e])
    (hown : ∀ f ∈ s.fieldsNamed, f.entity = e) (htop : ∀ n ∈ s.top, n < UInt64.size)
    (hmade : session.compiledQuery s autoClose store = (.ok q, made)) :
    (s.trimmed session.naming).Mapped session.naming ∧
      (∀ f ∈ (s.trimmed session.naming).fieldsNamed, f.entity = e) ∧
      q.Held session.naming (s.trimmed session.naming) made ∧ store.SameData made := by
  obtain ⟨slots, prepared, hcompile, -⟩ := compiledQuery_eq_ok hbackend hmade
  obtain ⟨hmaps, hne, -⟩ := Selection.compile_eq_ok hcompile
  have hmapped := Selection.mapped_trimmed hmaps hne
  have hownTrimmed : ∀ f ∈ (s.trimmed session.naming).fieldsNamed, f.entity = e :=
    fun f hf => hown f (Selection.fieldsNamed_trimmed hf)
  obtain ⟨hownRead, hownOrders⟩ := List.forall_mem_append.1 hownTrimmed
  have hentities := Selection.entities_own hmapped.selects hownRead
  have horders : ∀ key ∈ (s.trimmed session.naming).orders,
      key.1.entity ∈ (s.trimmed session.naming).entities := by
    intro key hkey
    rw [hentities, hownOrders _ (List.mem_map_of_mem hkey)]
    exact List.mem_singleton_self e
  obtain ⟨-, hheld, hsame⟩ := compiledQuery_held hbackend hmade (hentities.symm ▸ htells) horders htop
  exact ⟨hmapped, hownTrimmed, hheld, hsame⟩

/-! ## Requests -/

/-- The table of an entity in a well-typed database has rows in stored form. -/
theorem Database.Stores.rowOk {db : Database} {naming : Naming} {e : Entity} {rows : List Row}
    (h : db.Stores naming e rows) (htyped : db.WellTyped) :
    ∀ row ∈ rows, (naming.tableWith e rows).RowOk row := htyped _ (mem_of_find? h.found)

/-- What a NaN does to requests under a typed constraint.

Let a query be made of an entity's own fields, with any sort keys, limit and repetitions, under a
constraint over this entity that compares only what has the same kind, and let all rows be in stored form.
If the constraint meets no NaN in the rows of the entity, the query, a delete and an update under the
constraint succeed. If it meets one in some row, all of them fail, because doubles do not compare with
doubles, and change no table. -/
theorem typed_requests_fail_iff (naming : Naming) (config : Config) {e : Entity} {c : Constraint}
    {s : Selection} {store made : Store Memory} {q : Query} {autoClose : Bool} {rows : List Row}
    (htells : naming.Tells [e]) (hstores : store.backend.database.Stores naming e rows)
    (htyped : store.backend.database.WellTyped) (hc : c.Typed e) (hcondition : s.constraint = some c)
    (hown : ∀ f ∈ s.fieldsNamed, f.entity = e) (htop : ∀ n ∈ s.top, n < UInt64.size)
    (hmade : Session.compiledQuery ⟨Memory.backend, naming, config⟩ s autoClose store =
      (.ok q, made)) :
    let session : Session Memory := ⟨Memory.backend, naming, config⟩
    let delete : Step Memory Nat := do session.run (← session.deleteRequest e (some c))
    let update := fun values => session.runBuilder ⟨e, .update (some c), values⟩
    let Assigns := fun (values : Assignments) => values ≠ [] ∧
      (∀ f ∈ values.map Prod.fst, f.entity = e) ∧ naming.Maps (values.map Prod.fst) ∧
      (values.assigned store.valueOf).isSome
    let nan : BackendError := .evaluation (.incomparable "double" "double")
    (naming.meetsNaN c rows = false →
      (∃ id after, session.execute q made = (.ok id, after)) ∧
      (∃ count after, delete store = (.ok count, after)) ∧
      ∀ values, Assigns values → ∃ count after, update values store = (.ok count, after)) ∧
    (naming.meetsNaN c rows = true →
      (∃ after, session.execute q made = (.error (.execution q.sql nan), after) ∧
        after.backend.database = store.backend.database) ∧
      (∃ sql after, delete store = (.error (.execution sql nan), after) ∧
        after.backend.database = store.backend.database) ∧
      ∀ values, Assigns values → ∃ sql after,
        update values store = (.error (.execution sql nan), after) ∧
          after.backend.database = store.backend.database) := by
  intro session delete update Assigns nan
  have hbackend : session.backend = Memory.backend := rfl
  obtain ⟨hmapped, hownTrimmed, hheld, hsame⟩ :=
    Session.compiledQuery_own hbackend htells hown htop hmade
  have hmade' : made.backend.database.Stores naming e rows := hsame.database.symm ▸ hstores
  have hconditionTrimmed : (s.trimmed naming).constraint = some c := hcondition
  have hmapsCondition : naming.Maps c.referencedFields := by
    have hmapped' : naming.Maps (conditionFields (s.trimmed naming).constraint) :=
      hmapped.mapped_condition
    rwa [hconditionTrimmed] at hmapped'
  have hrows := hstores.rowOk htyped
  have hanswers := fun fed vs (h : c.arguments fed = some vs) =>
    Naming.keepRows_typed htells hc hmapsCondition h hrows
  have hfails := fun fed vs (h : c.arguments fed = some vs) =>
    Naming.keepRows_nan htells hc hmapsCondition h hrows
  obtain ⟨vs, hvs⟩ := hc.arguments_isSome store.cells
  obtain ⟨ws, hws⟩ := hc.arguments_isSome made.cells
  have hvalues : conditionHanded store.valueOf (some c) = some vs := conditionHanded_of_arguments hvs
  have hvalues' : conditionHanded made.valueOf (s.trimmed naming).constraint = some ws := by
    rw [hconditionTrimmed]
    exact conditionHanded_of_arguments hws
  refine ⟨fun hnan => ⟨?_, ?_, ?_⟩, fun hnan => ⟨?_, ?_, ?_⟩⟩
  · obtain ⟨kept, hkept⟩ := hanswers _ _ hws hnan
    rw [← hconditionTrimmed] at hkept
    exact hheld.execute_of_answers hbackend hmapped htells hownTrimmed hmade' hvalues' hkept
  · obtain ⟨kept, hkept⟩ := hanswers _ _ hvs hnan
    obtain ⟨deleted, hdelete, -⟩ := Session.delete_of_answers hbackend htells hstores hvalues
      hc.entity_eq hmapsCondition hkept
    exact ⟨_, _, hdelete⟩
  · rintro values ⟨hassigns, hownValues, hmapsValues, hcells⟩
    obtain ⟨cells, hcells⟩ := Option.isSome_iff_exists.1 hcells
    obtain ⟨kept, hkept⟩ := hanswers _ _ hvs hnan
    obtain ⟨updated, hupdate, -⟩ := Session.update_of_answers hbackend htells hstores hvalues
      (List.forall_mem_append.2 ⟨hownValues, hc.entity_eq⟩)
      (Naming.maps_append.2 ⟨hmapsValues, hmapsCondition⟩) hassigns hcells hkept
    exact ⟨_, _, hupdate⟩
  · have hkept := hfails _ _ hws hnan
    rw [← hconditionTrimmed] at hkept
    obtain ⟨after, hrun, hdatabase⟩ :=
      hheld.execute_of_failure hbackend hmapped htells hownTrimmed hmade' hvalues' hkept
    exact ⟨after, hrun, hdatabase.trans hsame.database⟩
  · exact Session.delete_of_failure hbackend htells hstores hvalues hc.entity_eq hmapsCondition
      (hfails _ _ hvs hnan)
  · rintro values ⟨hassigns, hownValues, hmapsValues, hcells⟩
    obtain ⟨cells, hcells⟩ := Option.isSome_iff_exists.1 hcells
    exact Session.update_of_failure hbackend htells hstores hvalues
      (List.forall_mem_append.2 ⟨hownValues, hc.entity_eq⟩)
      (Naming.maps_append.2 ⟨hmapsValues, hmapsCondition⟩) hassigns hcells (hfails _ _ hvs hnan)

/-! ## A stored NaN -/

/-- An entity with a number and a double. -/
def Entity.measure : Entity :=
  ⟨2, "measure", none, [⟨"id", .integer, true, none⟩, ⟨"level", .double, false, none⟩]⟩

/-- The number of a measure. -/
def Field.measureId : Field := ⟨.measure, 0, by decide⟩

/-- The double of a measure. -/
def Field.measureLevel : Field := ⟨.measure, 1, by decide⟩

theorem Naming.plain_tells_measure : Naming.plain.Tells [.measure] :=
  .of_words (by decide) (by decide) (by decide) (by decide)

/-- The NaN among the doubles that is stored, and the double 1. -/
def Double.nan : Double := ⟨0x7ff8000000000000⟩

def Double.one : Double := ⟨0x3ff0000000000000⟩

/-- One measure, whose level is no number. -/
def measureRows : List Row := [[.integer 1, .double .nan]]

/-- A store with this measure. -/
def Store.oneMeasure : Store Memory :=
  ⟨⟨⟨[⟨"MEASURE", [⟨"id", .integer⟩, ⟨"level", .double⟩], measureRows⟩], by decide⟩, #[], #[]⟩,
    #[], #[⟨none, none⟩], #[], #[]⟩

theorem Store.stores_oneMeasure :
    Store.oneMeasure.backend.database.Stores .plain .measure measureRows := ⟨by decide, by decide⟩

theorem Store.wellTyped_oneMeasure : Store.oneMeasure.backend.database.WellTyped := by
  intro t ht
  obtain rfl := List.mem_singleton.1 ht
  decide

/-- Measures that have a number, or whose level is below 1. -/
def Constraint.numberedOrLow : Constraint :=
  .or (.isNull true .measureId) (.compareNative .less .measureLevel Double.one)

theorem typed_numberedOrLow : Constraint.numberedOrLow.Typed .measure :=
  .or (.isNull true .measureId rfl) (.compareNative .less .measureLevel Double.one rfl)

/-- The levels of measures under a constraint. -/
def Selection.levels (c : Constraint) : Selection :=
  ⟨[(.measureLevel, ⟨.measureLevel, 0⟩)], some c, [], none, []⟩

section Measures

variable {c : Constraint} (hc : c.Typed .measure)
include hc

theorem own_levels : ∀ f ∈ (Selection.levels c).fieldsNamed, f.entity = .measure := by
  have hfield : ∀ f ∈ (Selection.levels c).fields.map Prod.fst, f.entity = .measure :=
    fun f hf => List.mem_singleton.1 hf ▸ rfl
  exact List.forall_mem_append.2 ⟨List.forall_mem_append.2 ⟨hfield, hc.entity_eq⟩, nofun⟩

/-- The query for levels is made. -/
theorem held_levels : ∃ q made, Session.compiledQuery ⟨Memory.backend, .plain, {}⟩ (.levels c) false
      .oneMeasure = (.ok q, made) ∧ q.Held .plain (.levels c) made ∧
    Store.oneMeasure.SameData made := by
  have hbare : (Selection.levels c).Bare .plain :=
    ⟨List.cons_ne_nil _ _, fun _ _ => rfl, rfl, rfl, rfl⟩
  have hentities : (Selection.levels c).entities = [.measure] :=
    Selection.entities_own hbare.selects (List.forall_mem_append.1 (own_levels hc)).1
  have hfree : Store.oneMeasure.slots.Free [(.measureLevel, ⟨.measureLevel, 0⟩)] :=
    ⟨by decide, by decide, by decide⟩
  have hstores : ∀ e ∈ (Selection.levels c).entities,
      Store.oneMeasure.backend.database.Stores .plain e ((fun _ => measureRows) e) := by
    rw [hentities]
    exact fun e he => List.mem_singleton.1 he ▸ Store.stores_oneMeasure
  exact hbare.held (hentities.symm ▸ Naming.plain_tells_measure) rfl rfl hfree hstores false

end Measures

/-- Where no NaN is met, requests for measures succeed, and where it is met, they fail. -/
theorem typed_requests_fail_iff_measure :
    let session : Session Memory := ⟨Memory.backend, .plain, {}⟩
    let numbered : Constraint := .compareNative .equal .measureId (1 : Int32)
    let nan : BackendError := .evaluation (.incomparable "double" "double")
    (∃ q made id after,
      session.compiledQuery (.levels numbered) false .oneMeasure = (.ok q, made) ∧
      session.execute q made = (.ok id, after)) ∧
    (∃ q made after,
      session.compiledQuery (.levels .numberedOrLow) false .oneMeasure = (.ok q, made) ∧
      session.execute q made = (.error (.execution q.sql nan), after)) ∧
    ∃ sql after, session.runBuilder
        ⟨.measure, .update (some .numberedOrLow), [(.measureId, .literal (.integer 2))]⟩ .oneMeasure =
      (.error (.execution sql nan), after) := by
  intro session numbered nan
  have hnumbered : numbered.Typed .measure := .compareNative .equal .measureId (1 : Int32) rfl
  obtain ⟨q, made, hmade, -⟩ := held_levels hnumbered
  obtain ⟨q', made', hmade', -⟩ := held_levels typed_numberedOrLow
  obtain ⟨hsucceeds, -⟩ := typed_requests_fail_iff .plain {} Naming.plain_tells_measure
    Store.stores_oneMeasure Store.wellTyped_oneMeasure hnumbered rfl (own_levels hnumbered) nofun hmade
  obtain ⟨-, hfails⟩ := typed_requests_fail_iff .plain {} Naming.plain_tells_measure
    Store.stores_oneMeasure Store.wellTyped_oneMeasure typed_numberedOrLow rfl
    (own_levels typed_numberedOrLow) nofun hmade'
  obtain ⟨⟨id, after, hrun⟩, -⟩ := hsucceeds (by decide)
  obtain ⟨⟨after', hrun', -⟩, -, hupdate⟩ := hfails (by decide)
  obtain ⟨sql, updated, hupdate, -⟩ := hupdate [(.measureId, .literal (.integer 2))]
    ⟨List.cons_ne_nil _ _, by decide, fun _ _ => rfl, by decide⟩
  exact ⟨⟨q, made, id, after, hmade, hrun⟩, ⟨q', made', after', hmade', hrun'⟩, sql, updated, hupdate⟩

/-- So a query may fail although its constraint compares only what has the same kind. -/
theorem typed_constraint_may_fail :
    ¬ ∀ (naming : Naming) (config : Config) (e : Entity) (c : Constraint) (s : Selection)
      (store made after : Store Memory) (q : Query) (rows : List Row) (sql : String)
      (cause : EvalError),
      let session : Session Memory := ⟨Memory.backend, naming, config⟩
      naming.Tells [e] → store.backend.database.Stores naming e rows →
      store.backend.database.WellTyped → c.Typed e → s.constraint = some c →
      (∀ f ∈ s.fieldsNamed, f.entity = e) →
      session.compiledQuery s false store = (.ok q, made) →
      session.execute q made ≠ (.error (.execution sql (.evaluation cause)), after) := by
  intro h
  obtain ⟨q, made, hmade, hheld, hsame⟩ := held_levels typed_numberedOrLow
  have hown := own_levels typed_numberedOrLow
  have hmapped : (Selection.levels .numberedOrLow).Mapped .plain :=
    ⟨List.cons_ne_nil _ _, fun _ _ => rfl⟩
  have hstores := Store.stores_oneMeasure
  obtain ⟨vs, hvs⟩ := typed_numberedOrLow.arguments_isSome made.cells
  have hfails := Naming.keepRows_nan Naming.plain_tells_measure typed_numberedOrLow
    (fun _ _ => rfl) hvs (hstores.rowOk Store.wellTyped_oneMeasure) (by decide)
  let session : Session Memory := ⟨Memory.backend, .plain, {}⟩
  have hheld : q.Held session.naming (.levels .numberedOrLow) made := hheld
  obtain ⟨after, hrun, -⟩ := hheld.execute_of_failure rfl hmapped Naming.plain_tells_measure hown
    (hsame.database.symm ▸ hstores) (conditionHanded_of_arguments hvs) hfails
  exact h .plain {} .measure .numberedOrLow (.levels .numberedOrLow) .oneMeasure made after q
    measureRows q.sql _ Naming.plain_tells_measure hstores Store.wellTyped_oneMeasure
    typed_numberedOrLow rfl hown hmade hrun

end EntityQuery
