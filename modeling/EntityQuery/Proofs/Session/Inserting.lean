import EntityQuery.Proofs.Session.FailedRuns
import EntityQuery.Proofs.Session.Overriding
import EntityQuery.Proofs.Session.RoundTrip

/-!
# Rows that are inserted

A bulk request has the sources of a builder as defaults, and a row with values of its own in place of some
of them. `Insertion` is such a row together with the store in which it is inserted, since this says what the
defaults are read as.

* `Insertion.Complete` says that a row can be inserted, and `Insertion.Fills` what the new row of the table
  has, both by the defaults and the values that were given, not by what the request keeps of them;
* `MutationRequest.Serves` is kept by a row that is complete (`Session.insertRow_of_complete`) and by one that
  is not (`Session.insertRow_of_incomplete`), and so by induction by those that are given together
  (`Session.insertRows_cases`).
-/

namespace EntityQuery

open Sql

/-! ## Tables that are replaced again -/

/-- Only the last table of a name stays. -/
theorem Database.replace_replace (db : Database) {t t' : Table} (h : t.name = t'.name) :
    (db.replace t).replace t' = db.replace t' := by
  have hlast : replaced (replaced db.tables t) t' = replaced db.tables t' := by
    rw [replaced, replaced, replaced, List.map_map]
    refine List.map_congr_left fun old _ => ?_
    rw [Function.comp_apply]
    by_cases hold : old.name = t.name
    · rw [if_pos hold, if_pos h, if_pos (hold.trans h)]
    · rw [if_neg hold]
  simp only [replace, hlast]

/-! ## Running an insert -/

namespace Session

variable {session : Session Memory} (hbackend : session.backend = Memory.backend) {e : Entity}
  {r : MutationRequest} {store : Store Memory} {values : Assignments}
include hbackend

/-- A request without condition whose values cannot all be had fails, and changes no table. -/
theorem runWith_of_unassigned {values : Assignments} (hcondition : r.compiled.constraint = none)
    (h : (open? r.statement store).isSome → values.assigned store.valueOf = none) :
    ∃ err after, session.runWith r values store = (.error err, after) ∧
      after.backend.database = store.backend.database := by
  obtain ⟨bound, houtline, ⟨err, hrun, -⟩ | ⟨p, hbound, -⟩⟩ := runWith_cases r values store hbackend
  · exact ⟨err, bound, hrun, Store.database_of_outline houtline⟩
  · obtain ⟨id, n, bound', hopened, hbind, -⟩ := hbound
    have hhanded := Binder.isSome_of_bind hbackend hbind
    rw [hcondition, requestHanded, Assignments.handed_eq, h (Option.isSome_of_mem hopened)] at hhanded
    cases hhanded

variable (hspells : session.naming.Spells e) (hown : ∀ f ∈ values.map Prod.fst, f.entity = e)
  (hne : session.naming.columned values ≠ [])
  (hcompiled : r.compiled = insertWritten session.naming e values) (hclean : r.Clean store)
include hspells hown hne hcompiled hclean

/-- A clean insert that is open and has all its values appends their row. -/
theorem runWith_of_assigned {rows : List Row}
    (hstores : store.backend.database.Stores session.naming e rows) {id : StatementId}
    (hopened : open? r.statement store = some id) {values' : Assignments}
    (hfields : values'.map Prod.fst = (session.naming.columned values).map Prod.fst)
    {cells : List (Field × Value)} (hcells : values'.assigned store.valueOf = some cells) :
    ∃ after, session.runWith r values' store = (.ok 1, after) ∧
      after.backend.database = store.backend.database.replace (session.naming.tableWith e
        (rows ++ [session.naming.overwritten
          (List.replicate (session.naming.columnsOf e).length .null) cells])) := by
  obtain ⟨hcellFields, hhanded⟩ := Assignments.of_assigned hcells
  have hreads := reads_insert hspells hown hne
  rw [← hcompiled] at hreads
  have hcondition : r.compiled.constraint = none := by rw [hcompiled]; rfl
  have hlength : r.compiled.values.length = values'.length := by
    have hsources : r.compiled.values = session.naming.columned values := by
      rw [hcompiled]
      exact sources_assignedOnes session.naming values
    rw [hsources, ← List.length_map (f := Prod.fst), ← hfields, List.length_map]
  have hcount := hreads.count
  rw [hlength] at hcount
  have hstands : r.statement.Stands id (insertImage session.naming e values)
      (values'.length + conditionCount r.compiled.constraint) store := by
    obtain ⟨p, parsed, hp, hparse, hstatement, hopen, hparameters, -⟩ := hclean id hopened
    obtain rfl := Except.ok.inj (hreads.parsed.symm.trans hparse)
    exact ⟨hopened, p, hp, hopen, hstatement, hparameters.trans hcount⟩
  have hvalues : requestHanded store.valueOf values' r.compiled.constraint =
      some (cells.map Prod.snd) := by
    rw [hcondition, requestHanded, hhanded]
    exact congrArg some (List.append_nil _)
  obtain ⟨bound, -, hrun⟩ := runWith_eq hbackend values' hstands hcount hvalues
  have hfits := Assignments.fits_assigned hcells
    (fun f hf => hown f ((List.filter_sublist.map Prod.fst).subset (hfields ▸ hf)))
    (hfields ▸ session.naming.maps_columned values)
  rw [insertImage_own hspells (hcellFields.trans hfields), Database.mutate,
    Database.insert_own hstores hspells hfits] at hrun
  exact ⟨_, hrun, rfl⟩

end Session

/-! ## Insertions -/

/-- A row is given to a bulk request, with these values of its own, and in this store. -/
structure Insertion where
  /-- the values of the row -/
  row : List (Field × Value)
  /-- the store -/
  store : Store Memory

namespace Insertion

variable {naming : Naming} {e : Entity} {sources values values' : Assignments}
  {i : Insertion} {f : Field}

/-- What goes into a field with a default: the last value that the row has for it, or else what the
default is read as, in stored form. -/
def given (i : Insertion) (f : Field) (default : Accessor) : Option Value :=
  ((lastFor f i.row).or (i.store.valueOf default)).bind (coerced f)

/-- The row can be inserted: its values are accepted, and all fields with a default are given a value. -/
def Complete (naming : Naming) (sources : Assignments) (i : Insertion) : Prop :=
  Taken ((naming.columned sources).map Prod.fst) i.row ∧
    ∀ f default, (naming.columnName f).isSome → lastFor f sources = some default →
      (i.given f default).isSome

/-- A row of the table has what the insertion gives, and is empty otherwise. -/
def Fills (naming : Naming) (e : Entity) (sources : Assignments) (i : Insertion) (row : Row) : Prop :=
  row.length = (naming.columnsOf e).length ∧
    ∀ f : Field, f.entity = e → (naming.columnName f).isSome →
      match lastFor f sources with
      | some default => i.given f default = some (naming.cellIn row f)
      | none => naming.cellIn row f = .null

/-- The sources of a row that is taken are read as what the insertion gives. -/
theorem bind_lastFor (hlast : values'.LastOf (naming.columned sources ++ literalsOf i.row))
    (hmapped : (naming.columnName f).isSome)
    (htaken : Taken ((naming.columned sources).map Prod.fst) i.row) :
    ((lastFor f values').bind fun a => (i.store.valueOf a).bind (coerced f)) =
      (lastFor f sources).bind (i.given f) := by
  have hdefault : lastFor f (naming.columned sources) = lastFor f sources :=
    lastFor_columned hmapped sources
  rw [hlast.lastFor_eq, lastFor_append, lastFor_literalsOf, hdefault]
  cases hsource : lastFor f sources with
  | some a =>
    rw [Option.bind_some, given]
    cases lastFor f i.row <;> rfl
  | none =>
    -- the row has no value for a field without default
    have hrow : lastFor f i.row = none := by
      refine lastFor_eq_none fun hf => ?_
      obtain ⟨cell, hcell, rfl⟩ := List.mem_map.1 hf
      have hsome := isSome_lastFor (htaken cell hcell).1
      rw [hdefault, hsource] at hsome
      cases hsome
    rw [hrow]
    rfl

/-- All sources of a row that is taken can be read if the insertion gives all values. -/
theorem complete_iff (hlast : values'.LastOf (naming.columned sources ++ literalsOf i.row))
    (htaken : Taken ((naming.columned sources).map Prod.fst) i.row) :
    i.Complete naming sources ↔ (values'.assigned i.store.valueOf).isSome := by
  rw [Complete, and_iff_right htaken, Assignments.isSome_assigned_iff]
  constructor
  · intro hgiven ⟨f, a⟩ hp
    -- a field of the row has a default, as it is taken
    have hfield : f ∈ (naming.columned sources).map Prod.fst := by
      have hf := hlast.mem_fields_iff.1 (List.mem_map_of_mem (f := Prod.fst) hp)
      rw [List.map_append, List.mem_append] at hf
      refine hf.elim id fun hf => ?_
      obtain ⟨literal, hliteral, rfl⟩ := List.mem_map.1 hf
      obtain ⟨cell, hcell, rfl⟩ := List.mem_map.1 hliteral
      exact (htaken cell hcell).1
    obtain ⟨p, hp', rfl⟩ := List.mem_map.1 hfield
    obtain ⟨hsource, hmapped⟩ := List.mem_filter.1 hp'
    obtain ⟨default, hdefault⟩ :=
      Option.isSome_iff_exists.1 (isSome_lastFor (List.mem_map_of_mem (f := Prod.fst) hsource))
    have hvalue := bind_lastFor hlast hmapped htaken
    rw [(lastFor_eq_some_iff hlast.nodup).2 hp, hdefault, Option.bind_some, Option.bind_some] at hvalue
    rw [hvalue]
    exact hgiven p.1 default hmapped hdefault
  · intro hread f default hmapped hdefault
    have hfield : f ∈ values'.map Prod.fst := by
      refine hlast.mem_fields_iff.2 ?_
      rw [List.map_append]
      exact List.mem_append_left _ (List.mem_map_of_mem (f := Prod.fst)
        (List.mem_filter.2 ⟨mem_of_lastFor hdefault, hmapped⟩))
    obtain ⟨a, ha⟩ := Option.isSome_iff_exists.1 (isSome_lastFor hfield)
    have hvalue := bind_lastFor hlast hmapped htaken
    rw [ha, hdefault, Option.bind_some, Option.bind_some] at hvalue
    rw [← hvalue]
    exact hread (f, a) (mem_of_lastFor ha)

/-- The row of what is assigned has what the insertion gives. -/
theorem fills_overwritten (hlast : values'.LastOf (naming.columned sources ++ literalsOf i.row))
    (htaken : Taken ((naming.columned sources).map Prod.fst) i.row) {cells : List (Field × Value)}
    (hcells : values'.assigned i.store.valueOf = some cells) (hfits : naming.Fits e cells) :
    i.Fills naming e sources
      (naming.overwritten (List.replicate (naming.columnsOf e).length .null) cells) := by
  obtain ⟨hrow, hcell⟩ := naming.newRow_own hfits []
  have hcomplete := (complete_iff hlast htaken).2 (Option.isSome_of_mem hcells)
  refine ⟨hrow.1, fun f hf hmapped => ?_⟩
  have hgiven := Assignments.lastFor_assigned hcells f
  rw [bind_lastFor hlast hmapped htaken] at hgiven
  rw [hcell f hf hmapped, hgiven]
  cases hsource : lastFor f sources with
  | none => rfl
  | some default =>
    obtain ⟨v, hv⟩ := Option.isSome_iff_exists.1 (hcomplete.2 f default hmapped hsource)
    rw [Option.bind_some, hv]
    exact hv

end Insertion

/-! ## Rows of a bulk request -/

/-- The mutation of a bulk request, and the table of its entity: it inserts what these assignments say, and
has left the table with these rows, and the other tables alone. -/
structure MutationRequest.Serves (session : Session Memory) (e : Entity) (values : Assignments)
    (base : Database) (rows : List Row) (r : MutationRequest) (store : Store Memory) : Prop where
  /-- what it does -/
  compiled : r.compiled = insertWritten session.naming e values
  /-- its statement does so -/
  clean : r.Clean store
  /-- the tables -/
  database : store.backend.database = base.replace (session.naming.tableWith e rows)
  /-- each row has a cell for each column -/
  width : ∀ row ∈ rows, row.length = (session.naming.columnsOf e).length

theorem MutationRequest.Serves.values_eq {session : Session Memory} {e : Entity} {values : Assignments}
    {base : Database} {rows : List Row} {r : MutationRequest} {store : Store Memory}
    (h : r.Serves session e values base rows store) :
    r.compiled.values = session.naming.columned values := by
  rw [h.compiled]
  exact sources_assignedOnes session.naming values

namespace Session

section Calls

variable {σ : Type} {session : Session σ} {row : List (Field × Value)} {here next : BulkRequest × Store σ}
  {k : Nat} {e : QueryError}

/-- A row of the defaults is one without values of its own. -/
theorem runBulk_eq (session : Session σ) (here : BulkRequest × Store σ) :
    session.runBulk here = session.insertRow [] here := by
  have htaken : overrideValues here.1.request.compiled.values [] = .ok here.1.request.compiled.values := rfl
  exact (insertRow_of_taken htaken).symm

theorem insertRows_of_ok (h : session.insertRow row here = (.ok k, next))
    (rows : List (List (Field × Value))) : session.insertRows (row :: rows) here =
      ((session.insertRows rows next).1.map (k + ·), (session.insertRows rows next).2) := by
  refine (bind_of_ok h).trans ?_
  rcases hrows : session.insertRows rows next with ⟨e | others, after⟩
  · exact bind_of_error hrows
  · exact bind_of_ok hrows

theorem insertRows_of_error (h : session.insertRow row here = (.error e, next))
    (rows : List (List (Field × Value))) : session.insertRows (row :: rows) here = (.error e, next) :=
  bind_of_error h

theorem insertRows_singleton (session : Session σ) (row : List (Field × Value))
    (here : BulkRequest × Store σ) : session.insertRows [row] here = session.insertRow row here := by
  rcases hrow : session.insertRow row here with ⟨e | count, next⟩
  · exact insertRows_of_error hrow []
  · exact insertRows_of_ok hrow []

/-- Rows are inserted, all `k` of them or up to one that fails. -/
inductive InsertsUpTo (session : Session σ) (rows : List (List (Field × Value)))
    (here : BulkRequest × Store σ) (k : Nat) : Prop where
  /-- all rows -/
  | all (hresult : (session.insertRows rows here).1 = .ok k) (hlength : k = rows.length)
  /-- a row fails behind the others -/
  | failing {row : List (Field × Value)} {e : QueryError} (hrow : rows[k]? = some row)
    (hbefore : (session.insertRows (rows.take k) here).1 = .ok k)
    (hfails : session.insertRow row (session.insertRows (rows.take k) here).2 =
      (.error e, (session.insertRows rows here).2))
    (hresult : (session.insertRows rows here).1 = .error e)

namespace InsertsUpTo

variable {rows : List (List (Field × Value))}

theorem nil (here : BulkRequest × Store σ) : session.InsertsUpTo [] here 0 := .all rfl rfl

theorem of_error (h : session.insertRow row here = (.error e, next)) :
    session.InsertsUpTo (row :: rows) here 0 := by
  have hrows := insertRows_of_error h rows
  refine .failing rfl rfl ?_ (by rw [hrows])
  rw [hrows]
  exact h

theorem cons (h : session.InsertsUpTo rows next k) (hrow : session.insertRow row here = (.ok 1, next)) :
    session.InsertsUpTo (row :: rows) here (k + 1) := by
  have hrows := insertRows_of_ok hrow rows
  cases h with
  | all hresult hlength =>
    refine .all ?_ (congrArg (· + 1) hlength)
    rw [hrows, hresult, Nat.add_comm k]
    rfl
  | @failing failing e hfailing hbefore hfails hresult =>
    have htake := insertRows_of_ok hrow (rows.take k)
    refine .failing (e := e) hfailing ?_ ?_ ?_
    · rw [List.take_succ_cons, htake, hbefore, Nat.add_comm k]
      rfl
    · rw [List.take_succ_cons, htake, hrows]
      exact hfails
    · rw [hrows, hresult]
      rfl

end InsertsUpTo

end Calls

/-- The rows that a bulk request inserts, up to the first that fails, each in the store that it finds. -/
def insertions (session : Session Memory) :
    List (List (Field × Value)) → BulkRequest × Store Memory → List Insertion
  | [], _ => []
  | row :: rows, here =>
    match session.insertRow row here with
    | (.ok _, next) => ⟨row, here.2⟩ :: session.insertions rows next
    | (.error _, _) => []

section Serving

variable {session : Session Memory} (hbackend : session.backend = Memory.backend) {e : Entity}
  {base : Database} {rows : List Row} {sources values : Assignments}
  (hlast : Assignments.LastOf values sources) {bulk : BulkRequest} {store : Store Memory}
  (hserves : bulk.request.Serves session e values base rows store) {row : List (Field × Value)}
include hbackend hlast hserves

/-- If the request is closed, or the row is not complete, then the row is refused. -/
theorem insertRow_of_incomplete (h : ¬ ((open? bulk.request.statement store).isSome ∧
      Insertion.Complete session.naming sources ⟨row, store⟩)) :
    ∃ err after, session.insertRow row (bulk, store) = (.error err, bulk, after) ∧
      bulk.request.Serves session e values base rows after := by
  have hcolumned := hlast.columned session.naming
  cases hoverride : overrideValues bulk.request.compiled.values row with
  | error err => exact ⟨err, store, insertRow_of_refused hoverride, hserves⟩
  | ok values' =>
    have hclean := hserves.clean.runWith hbackend (length_of_overrideValues hoverride)
    have hinsert : session.insertRow row (bulk, store) = _ := insertRow_of_taken hoverride
    rw [hserves.values_eq] at hoverride
    have htaken := hcolumned.exists_overrideValues_iff.1 ⟨values', hoverride⟩
    have hunassigned : (open? bulk.request.statement store).isSome →
        values'.assigned store.valueOf = none := fun hopened =>
      Option.not_isSome_iff_eq_none.1 fun hassigned =>
        h ⟨hopened, (Insertion.complete_iff (hcolumned.overrideValues hoverride) htaken).2 hassigned⟩
    have hcondition : bulk.request.compiled.constraint = none := by
      rw [hserves.compiled]
      rfl
    obtain ⟨err, after, hrun, hdatabase⟩ := runWith_of_unassigned hbackend hcondition hunassigned
    rw [hrun] at hclean
    refine ⟨err, after, ?_, hserves.compiled, hclean, hdatabase.trans hserves.database, hserves.width⟩
    rw [hinsert, countInserted, hrun]

variable (hspells : session.naming.Spells e) {rows₀ : List Row}
  (hbase : base.Stores session.naming e rows₀) (hown : ∀ f ∈ sources.map Prod.fst, f.entity = e)
  (hne : session.naming.columned values ≠ [])
include hspells hbase hown hne

/-- If the request is open, a complete row is inserted. -/
theorem insertRow_of_complete (hopen : (open? bulk.request.statement store).isSome)
    (hcomplete : Insertion.Complete session.naming sources ⟨row, store⟩) :
    ∃ new after,
      session.insertRow row (bulk, store) =
        (.ok 1, { bulk with inserted := bulk.inserted + 1 }, after) ∧
      Insertion.Fills session.naming e sources ⟨row, store⟩ new ∧
      bulk.request.Serves session e values base (rows ++ [new]) after := by
  have hcolumned := hlast.columned session.naming
  obtain ⟨values', hoverride⟩ := hcolumned.exists_overrideValues_iff.2 hcomplete.1
  have hlast' := hcolumned.overrideValues hoverride
  have hfields := overrideValues_fields hoverride
  obtain ⟨id, hopened⟩ := Option.isSome_iff_exists.1 hopen
  obtain ⟨cells, hcells⟩ :=
    Option.isSome_iff_exists.1 ((Insertion.complete_iff hlast' hcomplete.1).1 hcomplete)
  have hownValues : ∀ f ∈ values.map Prod.fst, f.entity = e :=
    fun f hf => hown f (hlast.mem_fields_iff.1 hf)
  have hstores : store.backend.database.Stores session.naming e rows :=
    hserves.database ▸ hbase.replace hserves.width
  obtain ⟨after, hrun, hdatabase⟩ := runWith_of_assigned hbackend hspells hownValues hne
    hserves.compiled hserves.clean hstores hopened hfields hcells
  have hfits := Assignments.fits_assigned hcells
    (fun f hf => hownValues f ((List.filter_sublist.map Prod.fst).subset (hfields ▸ hf)))
    (hfields ▸ session.naming.maps_columned values)
  have hfills := Insertion.fills_overwritten hlast' hcomplete.1 hcells hfits
  rw [← hserves.values_eq] at hoverride
  have hinsert : session.insertRow row (bulk, store) = _ := insertRow_of_taken hoverride
  have hclean := hserves.clean.runWith hbackend (length_of_overrideValues hoverride)
  rw [hrun] at hclean
  refine ⟨_, after, ?_, hfills, hserves.compiled, hclean, ?_, ?_⟩
  · rw [hinsert, countInserted, hrun]
  · rw [hdatabase, hserves.database]
    exact base.replace_replace rfl
  · exact List.forall_mem_append.2
      ⟨hserves.width, fun new hnew => List.mem_singleton.1 hnew ▸ hfills.1⟩

/-- Rows are appended and counted, all of them or those before one that is refused. -/
theorem insertRows_cases (given : List (List (Field × Value))) :
    ∃ result added after,
      session.insertRows given (bulk, store) =
        (result, { bulk with inserted := bulk.inserted + added.length }, after) ∧
      bulk.request.Serves session e values base (rows ++ added) after ∧
      List.Forall₂ (Insertion.Fills session.naming e sources) (session.insertions given (bulk, store))
        added ∧
      (session.insertions given (bulk, store)).map Insertion.row = given.take added.length ∧
      session.InsertsUpTo given (bulk, store) added.length := by
  induction given generalizing bulk store rows with
  | nil =>
    refine ⟨.ok 0, [], store, rfl, ?_, .nil, rfl, .nil _⟩
    rwa [List.append_nil]
  | cons row given ih =>
    rw [insertions]
    by_cases hgoes : (open? bulk.request.statement store).isSome ∧
        Insertion.Complete session.naming sources ⟨row, store⟩
    · obtain ⟨new, next, hrow, hfills, hserves'⟩ :=
        insertRow_of_complete hbackend hlast hserves hspells hbase hown hne hgoes.1 hgoes.2
      let counted : BulkRequest := { bulk with inserted := bulk.inserted + 1 }
      have hcounted : counted.request.Serves session e values base (rows ++ [new]) next := hserves'
      obtain ⟨result, added, after, hrows, hserves'', hadded, hgiven, hupTo⟩ := ih hcounted
      rw [hrow]
      refine ⟨result.map (1 + ·), new :: added, after, ?_, ?_, .cons hfills hadded, ?_, hupTo.cons hrow⟩
      · rw [insertRows_of_ok hrow, hrows, List.length_cons, Nat.add_comm added.length,
          ← Nat.add_assoc]
      · rwa [List.append_cons]
      · rw [List.map_cons, hgiven]
        rfl
    · obtain ⟨err, after, hrow, hserves'⟩ := insertRow_of_incomplete hbackend hlast hserves hgoes
      rw [hrow]
      refine ⟨.error err, [], after, insertRows_of_error hrow given, ?_, .nil, rfl, .of_error hrow⟩
      rwa [List.append_nil]

end Serving

end Session

end EntityQuery
