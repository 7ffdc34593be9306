import EntityQuery.Proofs.Execution.SortedRows

/-!
# Reading the rows of one entity

A query over one entity reads nothing but its own cells, so it has an answer wherever its condition has
one:

* `Naming.cellIn` is the cell of a field in a row of its entity, and `evaluate_own` finds it;
* `answers_of_keepRows` and `keepRows_not_error` are the two outcomes of a condition, which either has an
  answer on every row or fails on one;
* `selectRows_own`, `selectRows_own_taken` and `selectRows_singleton_error` say what a query does in
  either case.
-/

namespace EntityQuery

open Sql

/-! ## Cells of a row -/

/-- The table of an entity with some rows. -/
abbrev Naming.tableWith (naming : Naming) (e : Entity) (rows : List Row) : Table :=
  ⟨Database.key (naming.tableName e), naming.columnsOf e, rows⟩

/-- The cell of a field in a row of its entity. -/
def Naming.cellIn (naming : Naming) (row : Row) (f : Field) : Value :=
  row[naming.place f]?.getD .null

section Own

variable {naming : Naming} {e : Entity} (htells : naming.Tells [e])
include htells

/-- A name that is looked up in the table of an entity is found if the table is meant. -/
theorem cell_own {q : Option String}
    (hmeant : Scope.isMeant q (Database.key (naming.tableName e)) = true) {rows : List Row} {row : Row}
    (hrow : row.length = (naming.columnsOf e).length) {f : Field} (hf : f.entity = e)
    (hmapped : (naming.columnName f).isSome) (parameters : List Value) :
    (⟨(naming.tableWith e rows).scope, parameters, row⟩ : Frame).cell q (naming.columnText f) =
      .ok (naming.cellIn row f) := by
  subst hf
  have hindex := (htells.spells (List.mem_singleton_self _)).columnIndex?_place hmapped
  have hresolve : (naming.tableWith f.entity rows).scope.resolve q (naming.columnText f) =
      .ok (naming.place f) := by
    rw [Scope.resolve_eq_ok_iff, Scope.positions, Table.scope, Scope.positionsFrom, hmeant]
    simp only [if_true, Table.columnNames, hindex, Scope.positionsFrom]
    simp
  have hcell : row[naming.place f]? = some (naming.cellIn row f) := by
    rw [Naming.cellIn, List.getElem?_eq_getElem (hrow ▸ Naming.place_lt hmapped)]
    rfl
  rw [Frame.cell, hresolve]
  simp only [hcell]

theorem isMeant_own : Scope.isMeant (some (naming.tableName e))
    (Database.key (naming.tableName e)) = true := by
  rw [Scope.isMeant, Option.all_some,
    Database.sameName_key (htells.table_ascii e (List.mem_singleton_self e))]
  exact Text.sameName_self _

variable {rows : List Row} {row : Row} (hrow : row.length = (naming.columnsOf e).length) {f : Field}
  (hf : f.entity = e) (hmapped : (naming.columnName f).isSome) (parameters : List Value)
include hrow hf hmapped

/-- The column of a field is its cell. -/
theorem evaluate_own :
    (⟨(naming.tableWith e rows).scope, parameters, row⟩ : Frame).evaluate (naming.image f) =
      .ok (naming.cellIn row f) := by
  have htable : naming.tableIdent f = naming.tableName e := by
    subst hf
    exact (isName_of_tokenize (htells.table_word _ (List.mem_singleton_self _))).2
  rw [Naming.image, Frame.evaluate, htable,
    (htells.spells (List.mem_singleton.2 hf)).columnIdent_eq hmapped]
  exact cell_own htells (isMeant_own htells) hrow hf hmapped parameters

/-- So is the column without its table. -/
theorem evaluate_own_bare :
    (⟨(naming.tableWith e rows).scope, parameters, row⟩ : Frame).evaluate
      (.column (naming.columnIdent f)) = .ok (naming.cellIn row f) := by
  rw [Frame.evaluate, (htells.spells (List.mem_singleton.2 hf)).columnIdent_eq hmapped]
  exact cell_own htells rfl hrow hf hmapped parameters

end Own

/-! ## Conditions that have answers, and conditions that fail -/

section Answers

variable {holds : Row → Except EvalError Bool} {rows : List Row} {cause : EvalError}

/-- If rows are kept, the condition has an answer on each of them. -/
theorem answers_of_keepRows {kept : List Row} (h : keepRows holds rows = .ok kept) :
    ∀ row ∈ rows, holds row = .ok (isYes (holds row)) := by
  induction rows generalizing kept with
  | nil => exact fun row hrow => nomatch hrow
  | cons first rows ih =>
    rw [keepRows] at h
    obtain ⟨answer, hanswer, h⟩ := ok_of_bind h
    obtain ⟨rest, hrest, -⟩ := ok_of_bind h
    intro row hrow
    rcases List.mem_cons.1 hrow with rfl | hrow
    · rw [hanswer]
      cases answer <;> rfl
    · exact ih hrest row hrow

/-- Where a condition fails, so does its negation. -/
theorem keepRows_not_error (h : keepRows holds rows = .error cause) :
    keepRows (fun row => do return !(← holds row)) rows = .error cause := by
  induction rows with
  | nil => cases h
  | cons row rows ih =>
    rw [keepRows] at h ⊢
    cases hanswer : holds row with
    | error e =>
      rw [hanswer] at h
      cases h
      rfl
    | ok answer =>
      rw [hanswer] at h
      cases hrest : keepRows holds rows with
      | error e =>
        rw [hrest] at h
        cases h
        simp only [bind, Except.bind, pure, Except.pure] at ih ⊢
        rw [ih hrest]
      | ok rest =>
        rw [hrest] at h
        cases h

/-- Where a condition fails, so does what is done with its answers. -/
theorem mapM_error_of_keepRows {β : Type} {f : Row → Except BackendError β}
    (hok : ∀ row answer, holds row = .ok answer → ∃ b, f row = .ok b)
    (herror : ∀ row e, holds row = .error e → f row = .error (.evaluation e))
    (h : keepRows holds rows = .error cause) : rows.mapM f = .error (.evaluation cause) := by
  induction rows with
  | nil => cases h
  | cons row rows ih =>
    rw [keepRows] at h
    rw [List.mapM_cons]
    cases hanswer : holds row with
    | error e =>
      rw [hanswer] at h
      cases h
      rw [herror row cause hanswer]
      rfl
    | ok answer =>
      rw [hanswer] at h
      obtain ⟨b, hb⟩ := hok row answer hanswer
      cases hrest : keepRows holds rows with
      | error e =>
        rw [hrest] at h
        cases h
        rw [hb, ih hrest]
        rfl
      | ok rest =>
        rw [hrest] at h
        cases h

end Answers

/-! ## Selecting -/

/-- Sorting by keys that all have values only rearranges, and not even this without keys. -/
theorem sortRows_perm (evaluate : Row → Expr → Except EvalError Value) {s : Select} {rows : List Row}
    (h : ∀ row ∈ rows, ∃ keys,
      s.order.mapM (fun item => evaluate row (sortExpr s.items item.expr)) = .ok keys) :
    ∃ sorted, sortRows evaluate s rows = .ok sorted ∧ sorted.Perm rows ∧
      (s.order = [] → sorted = rows) := by
  have hkeyed : ∃ keyed : List (List Value × Row), (rows.mapM fun row => do
      return (← s.order.mapM fun (item : OrderItem) => evaluate row (sortExpr s.items item.expr), row)) =
        .ok keyed ∧ keyed.map (·.2) = rows := by
    induction rows with
    | nil => exact ⟨[], rfl, rfl⟩
    | cons row rows ih =>
      obtain ⟨keys, hkeys⟩ := h row List.mem_cons_self
      obtain ⟨keyed, hkeyed, hrows⟩ := ih fun row' hrow' => h row' (List.mem_cons_of_mem _ hrow')
      refine ⟨(keys, row) :: keyed, ?_, congrArg (row :: ·) hrows⟩
      rw [List.mapM_cons, hkeyed, hkeys]
      rfl
  rw [sortRows]
  split
  · exact ⟨rows, rfl, List.Perm.refl _, fun _ => rfl⟩
  · next hkeys =>
    obtain ⟨keyed, hkeyed, hrows⟩ := hkeyed
    rw [hkeyed]
    refine ⟨_, rfl, ?_, fun hnone => absurd (List.isEmpty_iff.2 hnone) hkeys⟩
    rw [← hrows]
    exact (sortBy_perm _ keyed).map _

theorem joinRows_singleton (t : Table) : joinRows [t] = t.rows := by
  simp [joinRows]

section Select

variable {naming : Naming} {e : Entity} {rows : List Row} {parameters : List Value}
  {filter : Option Expr} {fields : List Field} {orders : List (Field × Direction)}
  {tables : List String}

/-- The query for fields of an entity, under a condition and with sort keys. -/
def Naming.ownQuery (naming : Naming) (tables : List String) (filter : Option Expr)
    (fields : List Field) (orders : List (Field × Direction)) : Select :=
  ⟨false, fields.map fun f => .expr (naming.image f), tables, filter, orders.map naming.orderItem, none⟩

section Rows

variable (htells : naming.Tells [e])
  (hfields : ∀ f ∈ fields, f.entity = e ∧ (naming.columnName f).isSome)
include htells hfields

variable (tables filter parameters rows) in
/-- Rows of an entity are sorted by keys of this entity. -/
theorem sortRows_own {kept : List Row}
    (hwidth : ∀ row ∈ kept, row.length = (naming.columnsOf e).length)
    (horders : ∀ key ∈ orders, key.1.entity = e ∧ (naming.columnName key.1).isSome) :
    ∃ sorted, sortRows
        (fun row => Frame.evaluate ⟨(naming.tableWith e rows).scope, parameters, row⟩)
        (naming.ownQuery tables filter fields orders) kept = .ok sorted ∧
      sorted.Perm kept ∧ (orders = [] → sorted = kept) := by
  obtain ⟨sorted, hsorted, hperm, hunsorted⟩ := sortRows_perm
    (fun row => Frame.evaluate ⟨(naming.tableWith e rows).scope, parameters, row⟩)
    (s := naming.ownQuery tables filter fields orders) fun row (hrow : row ∈ kept) => by
      refine ⟨orders.map fun key => naming.cellIn row (naming.sortField fields key.1), ?_⟩
      rw [Naming.ownQuery, List.mapM_map]
      refine mapM_of_ok fun key hkey => ?_
      obtain ⟨hentity, hmapped⟩ := horders key hkey
      have hexpr := sortExpr_image htells
        (fun g (hg : g ∈ fields) => ⟨(hfields g hg).2, List.mem_singleton.2 (hfields g hg).1⟩)
        (List.mem_singleton.2 hentity) hmapped
      rw [Function.comp_apply, Naming.orderItem]
      dsimp only
      rw [hexpr, Naming.sortField]
      cases hfound : fields.find? fun g =>
          Text.sameName (naming.columnText g) (naming.columnText key.1) with
      | none => exact evaluate_own_bare htells (hwidth row hrow) hentity hmapped parameters
      | some g =>
        obtain ⟨hg, hgmapped⟩ := hfields g (List.mem_of_find?_eq_some hfound)
        exact evaluate_own htells (hwidth row hrow) hg hgmapped parameters
  exact ⟨sorted, hsorted, hperm, fun hnone => hunsorted (congrArg (List.map _) hnone)⟩

variable (rows parameters) in
/-- The fields that are selected from a row of an entity are its cells. -/
theorem projectRow_own {row : Row} (hrow : row.length = (naming.columnsOf e).length) :
    projectRow (fun row => Frame.evaluate ⟨(naming.tableWith e rows).scope, parameters, row⟩)
      (fields.map fun f => .expr (naming.image f)) row = .ok (fields.map (naming.cellIn row)) :=
  projectRow_columns fun f hf => evaluate_own htells hrow (hfields f hf).1 (hfields f hf).2 parameters

variable (tables) in
/-- A query for fields of an entity yields their cells in the rows that satisfy its condition, sorted by
its keys if there are any. -/
theorem selectRows_own (hwidth : ∀ row ∈ rows, row.length = (naming.columnsOf e).length)
    (horders : ∀ key ∈ orders, key.1.entity = e ∧ (naming.columnName key.1).isSome) {kept : List Row}
    (hkept : keepRows (fun row => Frame.satisfiesAll
      ⟨(naming.tableWith e rows).scope, parameters, row⟩ filter) rows = .ok kept) :
    ∃ sorted : List Row, selectRows [naming.tableWith e rows] parameters
        (naming.ownQuery tables filter fields orders) =
          .ok (sorted.map fun row => fields.map (naming.cellIn row)) ∧
      sorted.Perm kept ∧ (orders = [] → sorted = kept) := by
  have hwidth' : ∀ row ∈ kept, row.length = (naming.columnsOf e).length :=
    fun row hrow => hwidth row (keepRows_mem hkept row hrow)
  obtain ⟨sorted, hsorted, hperm, hunsorted⟩ :=
    sortRows_own rows parameters filter tables htells hfields hwidth' horders
  have htaken : takeRows _ false none [] (sorted.map id) = .ok ([].reverse ++ sorted.map _) :=
    takeRows_map (fun row hrow =>
      projectRow_own rows parameters htells hfields (hwidth' row (hperm.mem_iff.1 hrow))) []
  rw [List.map_id] at htaken
  refine ⟨sorted, ?_, hperm, hunsorted⟩
  rw [selectRows, joinRows_singleton]
  exact (except_bind_of_ok hkept).trans ((except_bind_of_ok hsorted).trans htaken)

variable (tables) in
/-- With a limit or without repetitions, such a query yields the cells of some of these rows. -/
theorem selectRows_own_taken (hwidth : ∀ row ∈ rows, row.length = (naming.columnsOf e).length)
    (horders : ∀ key ∈ orders, key.1.entity = e ∧ (naming.columnName key.1).isSome) {kept : List Row}
    (hkept : keepRows (fun row => Frame.satisfiesAll
      ⟨(naming.tableWith e rows).scope, parameters, row⟩ filter) rows = .ok kept)
    (distinct : Bool) (limit : Option Nat) :
    ∃ sorted taken : List Row, selectRows [naming.tableWith e rows] parameters
        { naming.ownQuery tables filter fields orders with distinct := distinct, limit := limit } =
          .ok (taken.map fun row => fields.map (naming.cellIn row)) ∧
      taken.Sublist sorted ∧ sorted.Perm kept := by
  have hwidth' : ∀ row ∈ kept, row.length = (naming.columnsOf e).length :=
    fun row hrow => hwidth row (keepRows_mem hkept row hrow)
  obtain ⟨sorted, hsorted, hperm, -⟩ :=
    sortRows_own rows parameters filter tables htells hfields hwidth' horders
  obtain ⟨taken, hsublist, htaken⟩ : ∃ taken : List Row, taken.Sublist sorted ∧
      takeRows _ distinct limit [] (sorted.map id) = .ok ([].reverse ++ taken.map _) :=
    takeRows_sublist (fun row hrow =>
      projectRow_own rows parameters htells hfields (hwidth' row (hperm.mem_iff.1 hrow)))
      distinct limit []
  rw [List.map_id] at htaken
  refine ⟨sorted, taken, ?_, hsublist, hperm⟩
  rw [selectRows, joinRows_singleton]
  exact (except_bind_of_ok hkept).trans ((except_bind_of_ok hsorted).trans htaken)

end Rows

/-- A query of one table whose condition fails fails. -/
theorem selectRows_singleton_error {t : Table} {s : Select} {cause : EvalError}
    (hfails : keepRows (fun row => Frame.satisfiesAll ⟨t.scope, parameters, row⟩ s.filter) t.rows =
      .error cause) : selectRows [t] parameters s = .error cause := by
  rw [selectRows, joinRows_singleton]
  exact except_bind_of_error hfails

end Select

end EntityQuery
