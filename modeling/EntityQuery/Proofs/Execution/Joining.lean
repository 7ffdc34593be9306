import EntityQuery.Execution.Select
import EntityQuery.Proofs.Evaluation.Meaning
import EntityQuery.Proofs.Storage.EntityTables

/-!
# Joined rows as combinations

A query joins the rows of its tables and works on the joined rows. Behind each of them is a combination
of one row of each entity, in which every field has its cell.

* `combinations` lists the combinations in the order of the joined rows (`joinRows_eq`).
* `Naming.cell` is the cell of a field, and `cell_joined` finds it in the joined row by the names of
  table and column.
* `selectRows_eq`: the rows of a query are the selected cells of the combinations of which the
  constraint is true.
-/

namespace EntityQuery

open Sql

/-! ## Combinations -/

/-- One row of each of some entities. -/
abbrev Combination := List (Entity × Row)

/-- All combinations of one row of each entity, those of the first varying slowest. -/
def combinations (rows : Entity → List Row) : List Entity → List Combination
  | [] => [[]]
  | e :: es => (rows e).flatMap fun row => (combinations rows es).map ((e, row) :: ·)

/-- The cells side by side. -/
def Combination.joined (c : Combination) : Row := c.flatMap (·.2)

/-- The cell of a field. -/
def Naming.cell (naming : Naming) (c : Combination) (f : Field) : Value :=
  ((c.lookup f.entity).bind (·[naming.place f]?)).getD .null

/-- The table of an entity with some rows. -/
def Naming.tableOf (naming : Naming) (rows : Entity → List Row) (e : Entity) : Table :=
  ⟨Database.key (naming.tableName e), naming.columnsOf e, rows e⟩

/-- The joined rows are those of the combinations. -/
theorem joinRows_eq (naming : Naming) (rows : Entity → List Row) (es : List Entity) :
    joinRows (es.map (naming.tableOf rows)) = (combinations rows es).map Combination.joined := by
  induction es with
  | nil => rfl
  | cons e es ih =>
    rw [List.map_cons, joinRows, ih, combinations, List.map_flatMap]
    congr 1
    funext row
    rw [List.map_map, List.map_map]
    rfl

/-- A combination has one row of each entity. -/
theorem of_mem_combinations {rows : Entity → List Row} {es : List Entity} {c : Combination}
    (h : c ∈ combinations rows es) : c.map (·.1) = es ∧ ∀ p ∈ c, p.2 ∈ rows p.1 := by
  induction es generalizing c with
  | nil =>
    rw [List.mem_singleton.1 h]
    exact ⟨rfl, fun p hp => absurd hp List.not_mem_nil⟩
  | cons e es ih =>
    obtain ⟨row, hrow, h⟩ := List.mem_flatMap.1 h
    obtain ⟨c', hc', rfl⟩ := List.mem_map.1 h
    obtain ⟨hes, hrows⟩ := ih hc'
    refine ⟨by rw [List.map_cons, hes], fun p hp => ?_⟩
    rcases List.mem_cons.1 hp with rfl | hp
    · exact hrow
    · exact hrows p hp

/-! ## Cells -/

section Cells

variable {naming : Naming} {es : List Entity} (htells : naming.Tells es)
include htells

/-- A field has no place in the rows of other entities. -/
theorem positionsFrom_of_other {f : Field} (hf : f.entity ∈ es) {others : List Entity}
    (hothers : ∀ e ∈ others, e ∈ es ∧ e ≠ f.entity) (column : String) (offset : Nat) :
    Scope.positionsFrom (some (naming.tableName f.entity)) column offset
      (others.map fun e => (Database.key (naming.tableName e), (naming.columnsOf e).map (·.name))) =
      [] := by
  induction others generalizing offset with
  | nil => rfl
  | cons e others ih =>
    obtain ⟨he, hne⟩ := hothers e List.mem_cons_self
    have hmeant : Scope.isMeant (some (naming.tableName f.entity))
        (Database.key (naming.tableName e)) = false := by
      rw [Scope.isMeant, Option.all_some, Database.sameName_key (htells.table_ascii e he)]
      exact eq_false_of_ne_true fun h => hne (htells.table_distinct e he f.entity hf h)
    rw [List.map_cons, Scope.positionsFrom, hmeant]
    exact ih (fun e' he' => hothers e' (List.mem_cons_of_mem _ he')) _

/-- A field has one place in a joined row, where its cell is. -/
theorem positionsFrom_joined {f : Field} (hmapped : (naming.columnName f).isSome)
    {c : Combination} (hc : ∀ p ∈ c, p.1 ∈ es ∧ p.2.length = (naming.columnsOf p.1).length)
    (hnodup : (c.map (·.1)).Nodup) (hf : f.entity ∈ c.map (·.1)) (offset : Nat) :
    ∃ i, Scope.positionsFrom (some (naming.tableName f.entity)) (naming.columnText f) offset
        ((c.map (·.1)).map fun e =>
          (Database.key (naming.tableName e), (naming.columnsOf e).map (·.name))) = [offset + i] ∧
      c.joined[i]? = some (naming.cell c f) := by
  -- The columns in front are counted by `offset`, so the induction is over all offsets.
  induction c generalizing offset with
  | nil => cases hf
  | cons p c ih =>
    obtain ⟨e, row⟩ := p
    obtain ⟨he, hwidth⟩ := hc (e, row) List.mem_cons_self
    rw [List.map_cons, List.nodup_cons] at hnodup
    rw [List.map_cons, List.map_cons, Scope.positionsFrom]
    by_cases hentity : f.entity = e
    -- the field's own table: its place there, and none in the tables behind
    · subst hentity
      have hmeant : Scope.isMeant (some (naming.tableName f.entity))
          (Database.key (naming.tableName f.entity)) = true := by
        rw [Scope.isMeant, Option.all_some, Database.sameName_key (htells.table_ascii _ he)]
        exact Text.sameName_self _
      have hothers : ∀ e ∈ c.map (·.1), e ∈ es ∧ e ≠ f.entity := by
        intro e' he'
        refine ⟨?_, fun h => hnodup.1 (h ▸ he')⟩
        obtain ⟨p, hp, rfl⟩ := List.mem_map.1 he'
        exact (hc p (List.mem_cons_of_mem _ hp)).1
      have hplace := naming.place_lt hmapped
      refine ⟨naming.place f, ?_, ?_⟩
      · rw [hmeant, positionsFrom_of_other htells he hothers]
        simp only [if_true]
        rw [(htells.spells he).columnIndex?_place hmapped]
        rfl
      · have hlt : naming.place f < row.length := hwidth ▸ hplace
        have hcell : naming.cell ((f.entity, row) :: c) f = row[naming.place f] := by
          rw [Naming.cell, List.lookup_cons, beq_self_eq_true]
          simp [hlt]
        rw [hcell, Combination.joined, List.flatMap_cons, List.getElem?_append_left hlt]
        exact List.getElem?_eq_getElem hlt
    -- another table: all of its columns are skipped
    · have hmem : f.entity ∈ c.map (·.1) := (List.mem_cons.1 hf).resolve_left hentity
      have hfes : f.entity ∈ es := by
        obtain ⟨p, hp, hpf⟩ := List.mem_map.1 hmem
        exact hpf ▸ (hc p (List.mem_cons_of_mem _ hp)).1
      have hmeant : Scope.isMeant (some (naming.tableName f.entity))
          (Database.key (naming.tableName e)) = false := by
        rw [Scope.isMeant, Option.all_some, Database.sameName_key (htells.table_ascii e he)]
        exact eq_false_of_ne_true fun h =>
          hentity (htells.table_distinct e he f.entity hfes h).symm
      obtain ⟨i, hpositions, hcell⟩ := ih (fun p hp => hc p (List.mem_cons_of_mem _ hp)) hnodup.2
        hmem (offset + ((naming.columnsOf e).map (·.name)).length)
      refine ⟨row.length + i, ?_, ?_⟩
      · rw [hmeant]
        simp only [Bool.false_eq_true, if_false]
        rw [hpositions, List.length_map, ← hwidth, Nat.add_assoc]
        rfl
      · have hne : (f.entity == e) = false := beq_eq_false_iff_ne.2 hentity
        have hother : naming.cell ((e, row) :: c) f = naming.cell c f := by
          rw [Naming.cell, Naming.cell, List.lookup_cons, hne]
        rw [hother, Combination.joined, List.flatMap_cons,
          List.getElem?_append_right (Nat.le_add_right _ _), Nat.add_sub_cancel_left]
        exact hcell

/-- The rows of these entities have a cell for each column. -/
def Naming.Wide (naming : Naming) (rows : Entity → List Row) (es : List Entity) : Prop :=
  ∀ e ∈ es, ∀ row ∈ rows e, row.length = (naming.columnsOf e).length

variable {rows : Entity → List Row} {f : Field}

/-- In a joined row, the column of a field is its cell. -/
theorem evaluate_column (hwide : naming.Wide rows es) (hnodup : es.Nodup)
    (hmapped : (naming.columnName f).isSome) (hf : f.entity ∈ es) {c : Combination}
    (hc : c ∈ combinations rows es) (parameters : List Value) :
    Frame.evaluate ⟨Scope.ofTables (es.map (naming.tableOf rows)), parameters, c.joined⟩
      (naming.image f) = .ok (naming.cell c f) := by
  obtain ⟨hes, hrows⟩ := of_mem_combinations hc
  have hmem : ∀ p ∈ c, p.1 ∈ es ∧ p.2.length = (naming.columnsOf p.1).length := by
    intro p hp
    have he : p.1 ∈ es := hes ▸ List.mem_map_of_mem hp
    exact ⟨he, hwide p.1 he p.2 (hrows p hp)⟩
  obtain ⟨i, hpositions, hcell⟩ :=
    positionsFrom_joined htells hmapped hmem (hes.symm ▸ hnodup) (hes.symm ▸ hf) 0
  rw [hes, Nat.zero_add] at hpositions
  have htable : naming.tableIdent f = naming.tableName f.entity :=
    (isName_of_tokenize (htells.table_word f.entity hf)).2
  have hcolumn : naming.columnIdent f = naming.columnText f := by
    obtain ⟨column, hname⟩ := Option.isSome_iff_exists.1 hmapped
    rw [Naming.columnIdent, Naming.columnText, hname]
    exact (isName_of_tokenize (htells.column_word f hf column hname)).2
  have hresolve : (Scope.ofTables (es.map (naming.tableOf rows))).resolve
      (some (naming.tableIdent f)) (naming.columnIdent f) = .ok i := by
    rw [Scope.resolve_eq_ok_iff, htable, hcolumn, Scope.positions, Scope.ofTables, List.map_map]
    exact hpositions
  rw [Naming.image, Frame.evaluate, Frame.cell, hresolve]
  simp only [hcell]

end Cells

/-! ## Keeping and selecting -/

section Rows

variable {α : Type} {row : α → Row} {xs : List α}

/-- Rows that come from items are kept as the items are. -/
theorem keepRows_map {holds : Row → Except EvalError Bool} {p : α → Bool}
    (h : ∀ x ∈ xs, holds (row x) = .ok (p x)) :
    keepRows holds (xs.map row) = .ok ((xs.filter p).map row) := by
  induction xs with
  | nil => rfl
  | cons x xs ih =>
    have hx := h x List.mem_cons_self
    have hrest := ih fun y hy => h y (List.mem_cons_of_mem _ hy)
    rw [List.map_cons, keepRows, hx, hrest, List.filter_cons]
    cases p x <;> rfl

/-- Without repetitions to drop and without limit, every row has its result. -/
theorem takeRows_map {project : Row → Except EvalError Row} {result : α → Row}
    (h : ∀ x ∈ xs, project (row x) = .ok (result x)) (taken : List Row) :
    takeRows project false none taken (xs.map row) = .ok (taken.reverse ++ xs.map result) := by
  induction xs generalizing taken with
  | nil =>
    rw [List.map_nil, takeRows, List.map_nil, List.append_nil]
  | cons x xs ih =>
    have hx := h x List.mem_cons_self
    have hrest := ih (fun y hy => h y (List.mem_cons_of_mem _ hy)) (result x :: taken)
    rw [List.map_cons, takeRows, hx]
    · change takeRows project false none (result x :: taken) (xs.map row) = _
      rw [hrest, List.reverse_cons, List.append_assoc]
      rfl
    · simp

/-- Selecting the columns of fields selects their cells. -/
theorem projectRow_columns {evaluate : Row → Expr → Except EvalError Value} {naming : Naming}
    {fields : List Field} {cells : Row} {cell : Field → Value}
    (h : ∀ f ∈ fields, evaluate cells (naming.image f) = .ok (cell f)) :
    projectRow evaluate (fields.map fun f => .expr (naming.image f)) cells =
      .ok (fields.map cell) := by
  have hitems : (fields.map fun f => SelectItem.expr (naming.image f)).mapM
      (projectItem evaluate cells) = .ok (fields.map fun f => [cell f]) := by
    induction fields with
    | nil => rfl
    | cons f fs ih =>
      have hf := h f List.mem_cons_self
      have hrest := ih fun g hg => h g (List.mem_cons_of_mem _ hg)
      rw [List.map_cons, List.mapM_cons, projectItem, hf, hrest]
      rfl
  have hflatten (fs : List Field) : (fs.map fun f => [cell f]).flatten = fs.map cell := by
    induction fs with
    | nil => rfl
    | cons f fs ih => exact congrArg (cell f :: ·) ih
  rw [projectRow, hitems, ← hflatten]
  rfl

end Rows

/-! ## Queries -/

/-- A table that is found exists. -/
theorem Database.hasTable_of_table {db : Database} {name : String} {t : Table}
    (h : db.table name = .ok t) : db.hasTable name = true := by
  rw [table] at h
  rw [hasTable]
  split at h
  · next hfound => rw [hfound, Option.isSome_some]
  · cases h

/-- Where all tables of a query exist, its result columns have names. -/
theorem Database.resultColumns_of_tables {db : Database} {s : Select} {tables : List Table}
    (htables : s.tables.mapM db.table = .ok tables) :
    db.resultColumns (.select s) = .ok (s.columnNames db.columnNames) := by
  have hnone : s.tables.reverse.find? (!db.hasTable ·) = none := by
    rw [List.find?_eq_none]
    intro name hname
    obtain ⟨t, -, ht⟩ := ok_of_mapM htables (List.mem_reverse.1 hname)
    rw [hasTable_of_table ht]
    simp
  rw [resultColumns, hnone]

/-- The truth of a condition, which is true if it is absent. -/
def conditionMeaning (cell : Field → Value) (fed : Array Value) : Option Constraint → Option Truth
  | none => some .yes
  | some c => c.meaning cell fed

/-- The values that a condition hands over. -/
def conditionArguments (fed : Array Value) : Option Constraint → Option (List Value)
  | none => some []
  | some c => c.arguments fed

/-- The selected cells of the combinations of which the condition is true. -/
def Naming.selected (naming : Naming) (rows : Entity → List Row) (es : List Entity)
    (fields : List Field) (condition : Option Constraint) (fed : Array Value) : List Row :=
  ((combinations rows es).filter fun c =>
    conditionMeaning (naming.cell c) fed condition == some .yes).map fun c =>
      fields.map (naming.cell c)

/-- The rows of a query are the selected cells of the combinations of which its condition is true. -/
theorem selectRows_eq {naming : Naming} {rows : Entity → List Row} {es : List Entity}
    {fields : List Field} {condition : Option Constraint} {fed : Array Value}
    {parameters : List Value} {tables : List String} (htells : naming.Tells es)
    (hwide : naming.Wide rows es) (hnodup : es.Nodup)
    (hfields : ∀ f ∈ fields ++ conditionFields condition,
      (naming.columnName f).isSome ∧ f.entity ∈ es)
    (harguments : conditionArguments fed condition = some parameters)
    (hmeaning : ∀ c ∈ combinations rows es,
      (conditionMeaning (naming.cell c) fed condition).isSome) :
    selectRows (es.map (naming.tableOf rows)) parameters
        ⟨false, fields.map fun f => .expr (naming.image f), tables,
          condition.map (·.image naming 1), [], none⟩ =
      .ok (naming.selected rows es fields condition fed) := by
  have hcolumn (c : Combination) (hc : c ∈ combinations rows es) (f : Field)
      (hf : f ∈ fields ++ conditionFields condition) :
      Frame.evaluate ⟨Scope.ofTables (es.map (naming.tableOf rows)), parameters, c.joined⟩
        (naming.image f) = .ok (naming.cell c f) :=
    evaluate_column htells hwide hnodup (hfields f hf).1 (hfields f hf).2 hc parameters
  have hholds : ∀ c ∈ combinations rows es, Frame.satisfiesAll
      ⟨Scope.ofTables (es.map (naming.tableOf rows)), parameters, c.joined⟩
      (condition.map (·.image naming 1)) =
      .ok (conditionMeaning (naming.cell c) fed condition == some .yes) := by
    intro c hc
    cases condition with
    | none => rfl
    | some constraint =>
      obtain ⟨t, ht⟩ := Option.isSome_iff_exists.1 (hmeaning c hc)
      rw [ht]
      exact Frame.satisfies_image (fun g hg => hcolumn c hc g (List.mem_append_right _ hg))
        harguments ht
  -- each step works on joined rows, and is followed on the combinations behind them
  have hkept : keepRows (fun row => Frame.satisfiesAll
      ⟨Scope.ofTables (es.map (naming.tableOf rows)), parameters, row⟩
      (condition.map (·.image naming 1))) ((combinations rows es).map Combination.joined) =
      .ok (((combinations rows es).filter fun c =>
        conditionMeaning (naming.cell c) fed condition == some .yes).map Combination.joined) :=
    keepRows_map hholds
  have hresult : ∀ c ∈ (combinations rows es).filter fun c =>
      conditionMeaning (naming.cell c) fed condition == some .yes,
      projectRow (fun row => Frame.evaluate
        ⟨Scope.ofTables (es.map (naming.tableOf rows)), parameters, row⟩)
        (fields.map fun f => .expr (naming.image f)) c.joined = .ok (fields.map (naming.cell c)) :=
    fun c hc => projectRow_columns fun f hf =>
      hcolumn c (List.mem_filter.1 hc).1 f (List.mem_append_left _ hf)
  have htaken := takeRows_map hresult []
  rw [selectRows, joinRows_eq]
  simp only [bind, Except.bind, hkept]
  exact htaken

end EntityQuery
