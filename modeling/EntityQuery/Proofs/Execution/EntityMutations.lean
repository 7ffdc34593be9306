import EntityQuery.Execution.Mutation
import EntityQuery.Proofs.Evaluation.Shifting
import EntityQuery.Proofs.Execution.EntityRows

/-!
# Writing the rows of one entity

An insert and an update write the same cells by the same names, and an update and a delete decide about
rows as a query does:

* `Naming.Fits` says that cells can be written to the rows of an entity, and `Naming.overwritten` is a
  row with these cells (`Naming.cellIn_overwritten`);
* `Database.insert_own` appends a row;
* `Database.update_own` and `Database.delete_own` say what the mutations do as long as their condition has
  an answer on every row, and `Database.update_own_error` and `Database.delete_own_error` that they change
  nothing if it fails on one.
-/

namespace EntityQuery

open Sql

/-! ## Overwritten rows -/

/-- A row with other cells for some fields; the last one for a field stays. -/
def Naming.overwritten (naming : Naming) (row : Row) (cells : List (Field × Value)) : Row :=
  cells.foldl (fun row cell => row.set (naming.place cell.1) cell.2) row

/-- The last value for a field. -/
def lastFor {α : Type} (f : Field) (cells : List (Field × α)) : Option α := cells.reverse.lookup f

/-- Fields of one entity in the same place are the same. -/
theorem Naming.place_inj {naming : Naming} {f g : Field} (hentity : f.entity = g.entity)
    (hf : (naming.columnName f).isSome) (hg : (naming.columnName g).isSome)
    (h : naming.place f = naming.place g) : f = g := by
  have hmem := mem_mappedFields hf
  have hmem' := mem_mappedFields hg
  rw [hentity] at hmem
  have hself : ∀ f ∈ naming.mappedFields g.entity,
      (naming.mappedFields g.entity)[(naming.mappedFields g.entity).idxOf f]? = some f := by
    intro f hf
    rw [List.getElem?_eq_getElem (List.idxOf_lt_length_iff.2 hf)]
    exact congrArg some (List.getElem_idxOf _)
  rw [place, place, hentity] at h
  exact Option.some.inj ((hself f hmem).symm.trans (h ▸ hself g hmem'))

/-- Overwriting changes the cells of its own fields, and no other. -/
theorem Naming.cellIn_overwritten {naming : Naming} {e : Entity} {row : Row}
    {cells : List (Field × Value)} (hrow : row.length = (naming.columnsOf e).length)
    (hcells : ∀ cell ∈ cells, cell.1.entity = e ∧ (naming.columnName cell.1).isSome) {f : Field}
    (hf : f.entity = e) (hmapped : (naming.columnName f).isSome) :
    naming.cellIn (naming.overwritten row cells) f =
      (lastFor f cells).getD (naming.cellIn row f) := by
  induction cells generalizing row with
  | nil => rfl
  | cons cell cells ih =>
    rcases cell with ⟨g, v⟩
    obtain ⟨hg, hgmapped⟩ := hcells (g, v) List.mem_cons_self
    have hlast : lastFor f ((g, v) :: cells) =
        (lastFor f cells).or (if g = f then some v else none) := by
      rw [lastFor, List.reverse_cons, List.lookup_append, lastFor, List.lookup_cons, List.lookup_nil]
      by_cases hgf : g = f
      · subst hgf
        simp
      · have hfg : (f == g) = false := beq_eq_false_iff_ne.2 fun h => hgf h.symm
        rw [hfg, if_neg hgf]
    have hset : naming.cellIn (row.set (naming.place g) v) f =
        if g = f then v else naming.cellIn row f := by
      have hlt : naming.place f < row.length := by
        rw [hrow, ← hf]
        exact place_lt hmapped
      by_cases hgf : g = f
      · subst hgf
        rw [if_pos rfl, cellIn, List.getElem?_set_self hlt]
        rfl
      · have hne : naming.place g ≠ naming.place f :=
          fun h => hgf (place_inj (hg.trans hf.symm) hgmapped hmapped h)
        rw [if_neg hgf, cellIn, List.getElem?_set_ne hne]
        rfl
    have hrow' : (row.set (naming.place g) v).length = (naming.columnsOf e).length :=
      List.length_set.trans hrow
    have hrest := ih hrow' fun cell hcell => hcells cell (List.mem_cons_of_mem _ hcell)
    rw [hlast]
    refine hrest.trans ?_
    rw [hset]
    cases lastFor f cells with
    | some w => rfl
    | none => by_cases hgf : g = f <;> simp [hgf]

/-! ## Cells that fit -/

/-- The cells are those of an entity's mapped fields, in stored form. -/
def Naming.Fits (naming : Naming) (e : Entity) (cells : List (Field × Value)) : Prop :=
  ∀ cell ∈ cells, cell.1.entity = e ∧ (naming.columnName cell.1).isSome ∧
    (ColumnType.ofKind cell.1.kind).holds cell.2 = true

/-- What goes into a field is in the stored form of its kind. -/
theorem holds_coerced {f : Field} {v w : Value} (h : coerced f v = some w) :
    (ColumnType.ofKind f.kind).holds w = true := by
  obtain ⟨setting, hsetting, hvalue⟩ := Option.bind_eq_some_iff.1 h
  have hcoerce := toOption_eq_some_iff.1 hsetting
  have hw := toOption_eq_some_iff.1 hvalue
  unfold coerce at hcoerce
  generalize f.kind = kind at hcoerce ⊢
  cases kind <;> cases v <;> grind [ColumnType.holds, ColumnType.ofKind, Setting.value]

section Fits

variable {naming : Naming} {e : Entity} {rows : List Row}

/-- A value in stored form is stored as it is. -/
theorem normalize_own {f : Field} (hf : f.entity = e) (hmapped : (naming.columnName f).isSome)
    {v : Value} (hv : (ColumnType.ofKind f.kind).holds v = true) :
    (naming.tableWith e rows).normalize (naming.place f) v = .ok v := by
  subst hf
  rw [Table.normalize, Naming.columnsOf_place hmapped]
  exact ColumnType.normalize_of_holds hv

variable {cells : List (Field × Value)} (hcells : naming.Fits e cells)
include hcells

/-- Assigning cells overwrites them. -/
theorem assign_own (row : Row) :
    (naming.tableWith e rows).assign row (cells.map fun cell => (naming.place cell.1, cell.2)) =
      .ok (naming.overwritten row cells) := by
  induction cells generalizing row with
  | nil => rfl
  | cons cell cells ih =>
    obtain ⟨hf, hmapped, hv⟩ := hcells cell List.mem_cons_self
    have hrest := ih (fun cell hcell => hcells cell (List.mem_cons_of_mem _ hcell))
      (row.set (naming.place cell.1) cell.2)
    rw [List.map_cons, Table.assign, normalize_own hf hmapped hv]
    exact hrest

/-- The targets of an update with their parameters, the first of which is behind `k` others. -/
def Naming.ownTargets (naming : Naming) (cells : List (Field × Value)) (k : Nat) :
    List (Nat × Expr) :=
  List.zipWith (fun cell i => (naming.place cell.1, .parameter (i + 1))) cells
    (List.range' k cells.length)

omit hcells in
theorem Naming.ownTargets_cons (naming : Naming) (cell : Field × Value)
    (cells : List (Field × Value)) (k : Nat) :
    naming.ownTargets (cell :: cells) k =
      (naming.place cell.1, .parameter (k + 1)) :: naming.ownTargets cells (k + 1) := by
  rw [ownTargets, List.length_cons, List.range'_succ, List.zipWith_cons_cons]
  rfl

variable (rows) in
/-- The new cells of an update are its parameters. -/
theorem cells_update {f : Frame} {pre post : List Value}
    (hparameters : f.parameters = pre ++ (cells.map Prod.snd ++ post)) :
    (naming.ownTargets cells pre.length).mapM (fun (target, e') => do
      let v ← (f.evaluate e').mapError BackendError.evaluation
      let stored ← ((naming.tableWith e rows).normalize target v).mapError .storage
      return (target, stored)) =
      .ok (cells.map fun cell => (naming.place cell.1, cell.2)) := by
  induction cells generalizing pre with
  | nil => rfl
  | cons cell cells ih =>
    obtain ⟨hf, hmapped, hv⟩ := hcells cell List.mem_cons_self
    have hfirst : f.evaluate (.parameter (pre.length + 1)) = .ok cell.2 :=
      Frame.hasValue_parameter f cell.2 pre _ hparameters
    have hstored : (naming.tableWith e rows).normalize _ _ = _ := normalize_own hf hmapped hv
    have hbehind : f.parameters = (pre ++ [cell.2]) ++ (cells.map Prod.snd ++ post) := by
      simpa using hparameters
    have hrest := ih (fun cell hcell => hcells cell (List.mem_cons_of_mem _ hcell)) hbehind
    rw [List.length_append, List.length_singleton] at hrest
    rw [Naming.ownTargets_cons, List.mapM_cons, hrest]
    simp only [hfirst, bind, Except.bind, Except.mapError, hstored]
    rfl

/-- A row that satisfies the condition of an update is overwritten, and any other stays. -/
theorem updatedRow_own {parameters : List Value} {filter : Option Expr} {row : Row} {answer : Bool}
    (hanswer : Frame.satisfiesAll
      ⟨(naming.tableWith e rows).scope, cells.map Prod.snd ++ parameters, row⟩ filter = .ok answer) :
    (naming.tableWith e rows).updatedRow (cells.map Prod.snd ++ parameters) filter
        (naming.ownTargets cells 0) row =
      .ok (if answer then some (naming.overwritten row cells) else none) := by
  have hparameters : (⟨(naming.tableWith e rows).scope, cells.map Prod.snd ++ parameters,
    row⟩ : Frame).parameters = [] ++ (cells.map Prod.snd ++ parameters) := rfl
  have hcells' := cells_update rows hcells hparameters
  rw [Table.updatedRow]
  dsimp only
  rw [hanswer]
  cases answer with
  | false => rfl
  | true =>
    refine (except_bind_of_ok hcells').trans ?_
    rw [List.foldl_map, if_pos rfl]
    rfl

end Fits

/-! ## Statements -/

/-- The insert of cells. -/
def Naming.ownInsert (naming : Naming) (e : Entity) (cells : List (Field × Value)) : Insert :=
  ⟨naming.tableName e, some (cells.map fun cell => nameOf (naming.columnText cell.1)),
    [(List.range' 1 cells.length).map .parameter]⟩

/-- The update with cells. -/
def Naming.ownUpdate (naming : Naming) (e : Entity) (cells : List (Field × Value))
    (filter : Option Expr) : Update :=
  ⟨naming.tableName e,
    List.zipWith (fun cell i => (nameOf (naming.columnText cell.1), .parameter (i + 1))) cells
      (List.range' 0 cells.length), filter⟩

/-- Parameters that stand next to each other have their values. -/
theorem Frame.evaluate_parameters {f : Frame} {pre vs post : List Value}
    (h : f.parameters = pre ++ (vs ++ post)) :
    ((List.range' (pre.length + 1) vs.length).map .parameter).mapM f.evaluate = .ok vs := by
  induction vs generalizing pre with
  | nil => rfl
  | cons v vs ih =>
    have hfirst : f.evaluate (.parameter (pre.length + 1)) = .ok v :=
      hasValue_parameter f v pre (vs ++ post) h
    have hbehind : f.parameters = (pre ++ [v]) ++ (vs ++ post) := by simpa using h
    have hrest := ih hbehind
    rw [List.length_append, List.length_singleton] at hrest
    rw [List.length_cons, List.range'_succ, List.map_cons, List.mapM_cons, hfirst, hrest]
    rfl

section Names

variable {naming : Naming} {e : Entity} (hspells : naming.Spells e) {rows : List Row}
include hspells

/-- A column is found by its name. -/
theorem target_own {f : Field} (hf : f.entity = e) (hmapped : (naming.columnName f).isSome) :
    (naming.tableWith e rows).target (nameOf (naming.columnText f)) = .ok (naming.place f) := by
  subst hf
  have hname := hspells.columnIdent_eq hmapped
  have hindex := hspells.columnIndex?_place hmapped
  rw [Table.target, show nameOf (naming.columnText f) = naming.columnText f from hname,
    Table.columnIndex?, Table.columnNames, hindex]

/-- The columns of an update are found by their names. -/
theorem targets_update {cells : List (Field × Value)} (hcells : naming.Fits e cells) (k : Nat) :
    (List.zipWith (fun (cell : Field × Value) i =>
        (nameOf (naming.columnText cell.1), Expr.parameter (i + 1))) cells
        (List.range' k cells.length)).mapM
      (fun (column, e') => do return (← (naming.tableWith e rows).target column, e')) =
      .ok (naming.ownTargets cells k) := by
  induction cells generalizing k with
  | nil => rfl
  | cons cell cells ih =>
    obtain ⟨hf, hmapped, -⟩ := hcells cell List.mem_cons_self
    have hrest := ih (fun cell hcell => hcells cell (List.mem_cons_of_mem _ hcell)) (k + 1)
    rw [List.length_cons, List.range'_succ, List.zipWith_cons_cons, Naming.ownTargets_cons,
      List.mapM_cons, hrest]
    simp only [target_own hspells hf hmapped]
    rfl

end Names

namespace Database

variable {naming : Naming} {e : Entity} {rows : List Row} {db : Database}
  (hstores : db.Stores naming e rows) {parameters : List Value} {filter : Option Expr}
include hstores

theorem table_own : db.table (naming.tableName e) = .ok (naming.tableWith e rows) := by
  rw [table, hstores.found]

theorem tables_own : [naming.tableName e].mapM db.table = .ok [naming.tableWith e rows] := by
  rw [List.mapM_cons, table_own hstores]
  rfl

section Write

variable (hspells : naming.Spells e) {cells : List (Field × Value)} (hcells : naming.Fits e cells)
include hspells hcells

/-- An insert of cells appends a row that has them, and is otherwise empty. -/
theorem insert_own :
    db.insert (cells.map Prod.snd) (naming.ownInsert e cells) =
      (.ok 1, db.replace (naming.tableWith e
        (rows ++ [naming.overwritten (List.replicate (naming.columnsOf e).length .null) cells]))) := by
  have htargets : (naming.tableWith e rows).targets
      (some (cells.map fun cell => nameOf (naming.columnText cell.1))) =
        .ok (cells.map fun cell => naming.place cell.1) := by
    rw [Table.targets, List.mapM_map]
    exact mapM_of_ok fun cell hcell => target_own hspells (hcells cell hcell).1 (hcells cell hcell).2.1
  have hvalues : insertedCells (cells.map fun cell => naming.place cell.1) (cells.map Prod.snd)
      ((List.range' 1 cells.length).map .parameter) =
        .ok (cells.map fun cell => (naming.place cell.1, cell.2)) := by
    have hparameters : (⟨.empty, cells.map Prod.snd, []⟩ : Frame).parameters =
      [] ++ (cells.map Prod.snd ++ []) := by simp
    have hall := Frame.evaluate_parameters hparameters
    rw [List.length_map, List.length_nil, Nat.zero_add] at hall
    have hzip : (cells.map fun cell => naming.place cell.1).zip (cells.map Prod.snd) =
        cells.map fun cell => (naming.place cell.1, cell.2) := List.zip_map'
    rw [insertedCells, if_neg (by simp), hall, ← hzip]
    rfl
  have hplan : db.insertPlan (cells.map Prod.snd) (naming.ownInsert e cells) =
      .ok (naming.tableWith e rows, [cells.map fun cell => (naming.place cell.1, cell.2)]) := by
    refine (except_bind_of_ok (table_own hstores)).trans ((except_bind_of_ok htargets).trans ?_)
    rw [Naming.ownInsert, List.mapM_cons, hvalues]
    rfl
  have hrow : (naming.tableWith e rows).newRow (cells.map fun cell => (naming.place cell.1, cell.2)) =
      .ok (naming.overwritten (List.replicate (naming.columnsOf e).length .null) cells) :=
    assign_own hcells _
  rw [insert, hplan]
  simp only [Table.insertRows, Table.insert, hrow]
  rfl

variable (parameters filter) in
/-- An update looks at the rows of its entity one by one. -/
theorem updatePlan_own :
    db.updatePlan parameters (naming.ownUpdate e cells filter) = do
      let changed ← rows.mapM fun row => do
        return (row, ← (naming.tableWith e rows).updatedRow parameters filter
          (naming.ownTargets cells 0) row)
      return (naming.tableWith e rows, changed) :=
  (except_bind_of_ok (table_own hstores)).trans (except_bind_of_ok (targets_update hspells hcells 0))

/-- An update overwrites the rows that satisfy its condition. -/
theorem update_own {p : Row → Bool}
    (hanswers : ∀ row ∈ rows, Frame.satisfiesAll
      ⟨(naming.tableWith e rows).scope, cells.map Prod.snd ++ parameters, row⟩ filter = .ok (p row)) :
    db.update (cells.map Prod.snd ++ parameters) (naming.ownUpdate e cells filter) =
      (.ok (rows.countP p), db.replace (naming.tableWith e
        (rows.map fun row => if p row then naming.overwritten row cells else row))) := by
  have hplan := updatePlan_own hstores (cells.map Prod.snd ++ parameters) filter hspells hcells
  rw [mapM_of_ok (g := fun row =>
    (row, if p row then some (naming.overwritten row cells) else none)) fun row hrow => by
      rw [updatedRow_own hcells (hanswers row hrow)]
      rfl] at hplan
  have hsome : (fun changed : Row × Option Row => changed.2.isSome) ∘
      (fun row => (row, if p row then some (naming.overwritten row cells) else none)) = p := by
    funext row
    rw [Function.comp_apply]
    cases p row <;> rfl
  have hchanged : (fun changed : Row × Option Row => changed.2.getD changed.1) ∘
      (fun row => (row, if p row then some (naming.overwritten row cells) else none)) =
      fun row => if p row then naming.overwritten row cells else row := by
    funext row
    rw [Function.comp_apply]
    cases p row <;> rfl
  rw [update, hplan]
  change (Except.ok (List.countP _ (rows.map _)), db.replace ⟨_, _, (rows.map _).map _⟩) = _
  rw [List.countP_map, List.map_map, hsome, hchanged]

/-- An update whose condition fails changes nothing. -/
theorem update_own_error {cause : EvalError}
    (hfails : keepRows (fun row => Frame.satisfiesAll
      ⟨(naming.tableWith e rows).scope, cells.map Prod.snd ++ parameters, row⟩ filter) rows =
        .error cause) :
    db.update (cells.map Prod.snd ++ parameters) (naming.ownUpdate e cells filter) =
      (.error (.evaluation cause), db) := by
  have hplan := updatePlan_own hstores (cells.map Prod.snd ++ parameters) filter hspells hcells
  rw [mapM_error_of_keepRows ?_ ?_ hfails] at hplan
  · rw [update, hplan]
    rfl
  · intro row answer hanswer
    rw [updatedRow_own hcells hanswer]
    exact ⟨_, rfl⟩
  · intro row cause' hcause'
    rw [Table.updatedRow]
    dsimp only
    rw [hcause']
    rfl

end Write

/-- A delete leaves the rows that do not satisfy its condition. -/
theorem delete_own {p : Row → Bool}
    (hanswers : ∀ row ∈ rows, Frame.satisfiesAll
      ⟨(naming.tableWith e rows).scope, parameters, row⟩ filter = .ok (p row)) :
    db.delete parameters ⟨naming.tableName e, filter⟩ =
      (.ok (rows.countP p), db.replace (naming.tableWith e (rows.filter fun row => !p row))) := by
  have hplan : db.deletePlan parameters ⟨naming.tableName e, filter⟩ =
      .ok (naming.tableWith e rows, rows.filter fun row => !p row) := by
    refine (except_bind_of_ok (table_own hstores)).trans ?_
    cases filter with
    | none =>
      have hnone : rows.filter (fun row => !p row) = [] := by
        rw [List.filter_eq_nil_iff]
        intro row hrow
        rw [← Except.ok.inj (hanswers row hrow)]
        simp
      rw [hnone]
      rfl
    | some filter =>
      have hkept : keepRows (fun row => do
          return !(← Frame.satisfies ⟨(naming.tableWith e rows).scope, parameters, row⟩ filter)) rows =
            .ok (rows.filter fun row => !p row) := keepRows_eq_filter fun row hrow => by
        rw [show Frame.satisfies _ filter = .ok (p row) from hanswers row hrow]
        rfl
      exact except_bind_of_ok (congrArg (Except.mapError BackendError.evaluation) hkept)
  have hcount := List.length_eq_countP_add_countP p (l := rows)
  simp only [Bool.not_eq_true, Bool.decide_eq_false] at hcount
  rw [delete, hplan]
  dsimp only
  rw [← List.countP_eq_length_filter, hcount, Nat.add_sub_cancel]

/-- A delete whose condition fails changes nothing. -/
theorem delete_own_error {cause : EvalError}
    (hfails : keepRows (fun row => Frame.satisfiesAll
      ⟨(naming.tableWith e rows).scope, parameters, row⟩ filter) rows = .error cause) :
    db.delete parameters ⟨naming.tableName e, filter⟩ = (.error (.evaluation cause), db) := by
  have hplan : db.deletePlan parameters ⟨naming.tableName e, filter⟩ =
      .error (.evaluation cause) := by
    refine (except_bind_of_ok (table_own hstores)).trans ?_
    cases filter with
    | none =>
      have hkept : keepRows (fun row => Frame.satisfiesAll
          ⟨(naming.tableWith e rows).scope, parameters, row⟩ none) rows =
            .ok (rows.filter fun _ => true) := keepRows_eq_filter fun row hrow => rfl
      cases hkept.symm.trans hfails
    | some filter =>
      have hkept := keepRows_not_error hfails
      exact except_bind_of_error (congrArg (Except.mapError BackendError.evaluation) hkept)
  rw [delete, hplan]

end Database

end EntityQuery
