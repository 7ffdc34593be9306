import EntityQuery.Proofs.Execution.Joining
import EntityQuery.Proofs.Execution.Ordering
import EntityQuery.Proofs.Execution.TypedRows
import EntityQuery.Proofs.Request.Selecting

/-!
# Rows of selections with sort keys

A sort key is written as a bare column. Running the statement looks for the name among the selected
columns first, and in the joined row if it is not there:

* `Naming.sortField` is the field that a sort key is taken for. It is the first selected field whose
  column has this name, of whatever entity, or else the field itself.
* `evaluate_sortExpr`: the value of the key is the cell of that field, and nothing else.
* `selectRows_sorted`: a selection that succeeds has filtered the combinations, put them in the order
  of the keys and taken some of them.
-/

namespace EntityQuery

open Sql

/-! ## What a sort key is taken for -/

/-- The field that a sort key is taken for. -/
def Naming.sortField (naming : Naming) (fields : List Field) (f : Field) : Field :=
  (fields.find? fun g => Text.sameName (naming.columnText g) (naming.columnText f)).getD f

/-- The sort keys as they are taken. -/
def Naming.sortKeys (naming : Naming) (fields : List Field) (orders : List (Field × Direction)) :
    List (Field × Direction) := orders.map fun key => (naming.sortField fields key.1, key.2)

/-- A sort key is taken for a selected field or for its own. -/
theorem Naming.sortField_mem (naming : Naming) (fields : List Field) (f : Field) :
    naming.sortField fields f ∈ fields ∨ naming.sortField fields f = f := by
  rw [sortField]
  cases hfound : fields.find? fun g => Text.sameName (naming.columnText g) (naming.columnText f) with
  | none => exact .inr rfl
  | some g => exact .inl (List.mem_of_find?_eq_some hfound)

/-- A sort key is taken for its own field if no other selected field has a column of its name. -/
theorem Naming.sortField_self {naming : Naming} {fields : List Field} {f : Field}
    (h : ∀ g ∈ fields, Text.sameName (naming.columnText g) (naming.columnText f) = true → g = f) :
    naming.sortField fields f = f := by
  rw [sortField]
  cases hfound : fields.find? fun g => Text.sameName (naming.columnText g) (naming.columnText f) with
  | none => rfl
  | some g =>
    have hname := List.find?_some hfound
    exact h g (List.mem_of_find?_eq_some hfound) hname

/-- Sort keys that are each taken for their own field. -/
theorem Naming.sortKeys_self {naming : Naming} {fields : List Field} {orders : List (Field × Direction)}
    (h : ∀ key ∈ orders, naming.sortField fields key.1 = key.1) :
    naming.sortKeys fields orders = orders := by
  refine (List.map_congr_left fun key hkey => ?_).trans (List.map_id _)
  rw [h key hkey]
  rfl

/-- Every place of a qualified column is a place of the bare one. -/
theorem positionsFrom_bare {qualifier : String} {column : String} {offset i : Nat}
    {tables : List (String × List String)}
    (h : i ∈ Scope.positionsFrom (some qualifier) column offset tables) :
    i ∈ Scope.positionsFrom none column offset tables := by
  induction tables generalizing offset with
  | nil => cases h
  | cons table tables ih =>
    rcases table with ⟨table, columns⟩
    rw [Scope.positionsFrom] at h ⊢
    rcases List.mem_append.1 h with h | h
    · refine List.mem_append_left _ ?_
      split at h
      · exact h
      · cases h
    · exact List.mem_append_right _ (ih h)

section SortKey

variable {naming : Naming} {es : List Entity} (htells : naming.Tells es)
include htells

omit htells in
/-- The identifier of a column is its name. -/
theorem Naming.Spells.columnIdent_eq {f : Field} (h : naming.Spells f.entity)
    (hmapped : (naming.columnName f).isSome) : naming.columnIdent f = naming.columnText f := by
  obtain ⟨column, hname⟩ := Option.isSome_iff_exists.1 hmapped
  rw [columnIdent, columnText, hname]
  exact (isName_of_tokenize (h.column_word f rfl column hname)).2

/-- A sort key means the first selected column of its name, or else stays a bare column. -/
theorem sortExpr_image {fields : List Field}
    (hfields : ∀ g ∈ fields, (naming.columnName g).isSome ∧ g.entity ∈ es) {f : Field}
    (hf : f.entity ∈ es) (hmapped : (naming.columnName f).isSome) :
    sortExpr (fields.map fun g => .expr (naming.image g)) (.column (naming.columnIdent f)) =
      ((fields.find? fun g => Text.sameName (naming.columnText g) (naming.columnText f)).map
        naming.image).getD (.column (naming.columnIdent f)) := by
  rw [sortExpr, List.findSome?_map]
  congr 1
  induction fields with
  | nil => rfl
  | cons g fields ih =>
    obtain ⟨hgmapped, hg⟩ := hfields g List.mem_cons_self
    have hrest := ih fun g' hg' => hfields g' (List.mem_cons_of_mem _ hg')
    rw [List.findSome?_cons, hrest, List.find?_cons, ← (htells.spells hf).columnIdent_eq hmapped,
      ← (htells.spells hg).columnIdent_eq hgmapped]
    rw [Function.comp_apply, Naming.image]
    dsimp only
    cases Text.sameName (naming.columnIdent g) (naming.columnIdent f) <;> rfl

variable {rows : Entity → List Row} {f : Field} {c : Combination}

/-- A bare column that has a value has the cell of its field. -/
theorem evaluate_bare (hwide : naming.Wide rows es) (hnodup : es.Nodup)
    (hmapped : (naming.columnName f).isSome) (hf : f.entity ∈ es) (hc : c ∈ combinations rows es)
    {parameters : List Value} {v : Value}
    (h : Frame.evaluate ⟨Scope.ofTables (es.map (naming.tableOf rows)), parameters, c.joined⟩
      (.column (naming.columnIdent f)) = .ok v) : v = naming.cell c f := by
  have hqualified := evaluate_column htells hwide hnodup hmapped hf hc parameters
  rw [Naming.image, Frame.evaluate, Frame.cell] at hqualified
  rw [Frame.evaluate, Frame.cell] at h
  split at hqualified
  · cases hqualified
  · next i hi =>
    split at h
    · cases h
    · next j hj =>
      -- the place of the qualified column is a place of the bare one, which has only one
      have hplace : i ∈ Scope.positions (.ofTables (es.map (naming.tableOf rows))) none
          (naming.columnIdent f) := by
        have hown := List.mem_singleton_self i
        rw [← Scope.resolve_eq_ok_iff.1 hi] at hown
        exact positionsFrom_bare hown
      rw [Scope.resolve_eq_ok_iff.1 hj, List.mem_singleton] at hplace
      subst hplace
      dsimp only at h hqualified
      exact Except.ok.inj (h.symm.trans hqualified)

/-- A sort key that has a value has the cell of the field that it is taken for. -/
theorem evaluate_sortExpr (hwide : naming.Wide rows es) (hnodup : es.Nodup) {fields : List Field}
    (hfields : ∀ g ∈ fields, (naming.columnName g).isSome ∧ g.entity ∈ es)
    (hmapped : (naming.columnName f).isSome) (hf : f.entity ∈ es) (hc : c ∈ combinations rows es)
    {parameters : List Value} {v : Value}
    (h : Frame.evaluate ⟨Scope.ofTables (es.map (naming.tableOf rows)), parameters, c.joined⟩
      (sortExpr (fields.map fun g => .expr (naming.image g)) (.column (naming.columnIdent f))) =
        .ok v) : v = naming.cell c (naming.sortField fields f) := by
  rw [sortExpr_image htells hfields hf hmapped] at h
  rw [Naming.sortField]
  cases hfound : fields.find? fun g => Text.sameName (naming.columnText g) (naming.columnText f) with
  | none =>
    rw [hfound] at h
    exact evaluate_bare htells hwide hnodup hmapped hf hc h
  | some g =>
    obtain ⟨hgmapped, hg⟩ := hfields g (List.mem_of_find?_eq_some hfound)
    rw [hfound] at h
    have hcolumn := evaluate_column htells hwide hnodup hgmapped hg hc parameters
    exact Except.ok.inj (h.symm.trans hcolumn)

end SortKey

/-! ## Steps of a selection -/

section Rows

variable {α : Type} {row : α → Row} {xs : List α}

/-- Whether an answer is yes. -/
def isYes (answer : Except EvalError Bool) : Bool := answer.toOption == some true

/-- Rows that come from items are kept where the answer is yes. -/
theorem keepRows_eq_ok {holds : Row → Except EvalError Bool} {kept : List Row}
    (h : keepRows holds (xs.map row) = .ok kept) :
    kept = (xs.filter fun x => isYes (holds (row x))).map row := by
  induction xs generalizing kept with
  | nil => exact (Except.ok.inj h).symm
  | cons x xs ih =>
    rw [List.map_cons, keepRows] at h
    obtain ⟨answer, hanswer, h⟩ := ok_of_bind h
    obtain ⟨rest, hrest, h⟩ := ok_of_bind h
    rw [← Except.ok.inj h, ih hrest, List.filter_cons, hanswer]
    cases answer <;> rfl

/-- Rows that come from items are sorted as the items are by the values of their keys. -/
theorem sortRows_eq_ok {evaluate : Row → Expr → Except EvalError Value} {s : Select}
    {keys : α → List Value} {sorted : List Row}
    (hkeys : ∀ x ∈ xs, ∀ vs,
      s.order.mapM (fun item => evaluate (row x) (sortExpr s.items item.expr)) = .ok vs → vs = keys x)
    (h : sortRows evaluate s (xs.map row) = .ok sorted) :
    sorted = (if s.order.isEmpty then xs
      else sortBy (fun a b => keysBefore (s.order.map (·.direction)) (keys a) (keys b)) xs).map row := by
  rw [sortRows] at h
  split at h
  · next hempty =>
    rw [if_pos hempty]
    exact (Except.ok.inj h).symm
  · next hempty =>
    rw [if_neg hempty]
    obtain ⟨keyed, hkeyed, h⟩ := ok_of_bind h
    rw [List.mapM_map] at hkeyed
    have hpairs : keyed = xs.map fun x => (keys x, row x) := by
      refine eq_map_of_mapM (fun x hx pair hpair => ?_) hkeyed
      obtain ⟨vs, hvs, hpair⟩ := ok_of_bind hpair
      rw [← Except.ok.inj hpair, hkeys x hx vs hvs]
    rw [← Except.ok.inj h, hpairs, sortBy_map, List.map_map]
    rfl

/-- Of rows that all have a result, some are taken, in their order. -/
theorem takeRows_sublist {project : Row → Except EvalError Row} {result : α → Row}
    (h : ∀ x ∈ xs, project (row x) = .ok (result x)) (distinct : Bool) (limit : Option Nat)
    (taken : List Row) :
    ∃ ys : List α, ys.Sublist xs ∧
      takeRows project distinct limit taken (xs.map row) = .ok (taken.reverse ++ ys.map result) := by
  induction xs generalizing limit taken with
  | nil =>
    refine ⟨[], List.Sublist.refl _, ?_⟩
    rw [List.map_nil, takeRows, List.map_nil, List.append_nil]
  | cons x xs ih =>
    have hx := h x List.mem_cons_self
    have hrest := fun y hy => h y (List.mem_cons_of_mem _ hy)
    by_cases hlimit : limit = some 0
    · subst hlimit
      refine ⟨[], List.nil_sublist _, ?_⟩
      rw [List.map_cons, takeRows, List.map_nil, List.append_nil]
      simp
    · rw [List.map_cons, takeRows, hx]
      · simp only [bind, Except.bind]
        split
        · obtain ⟨ys, hys, htaken⟩ := ih hrest limit taken
          exact ⟨ys, hys.cons x, htaken⟩
        · obtain ⟨ys, hys, htaken⟩ := ih hrest (limit.map (· - 1)) (result x :: taken)
          refine ⟨x :: ys, hys.cons_cons x, htaken.trans ?_⟩
          rw [List.reverse_cons, List.append_assoc]
          rfl
      · exact hlimit

end Rows

/-- A query that succeeds has the rows of its tables. -/
theorem Database.select_eq_ok {db : Database} {parameters : List Value} {s : Select} {r : ResultSet}
    (h : db.select parameters s = .ok r) :
    ∃ tables, s.tables.mapM db.table = .ok tables ∧ selectRows tables parameters s = .ok r.rows := by
  obtain ⟨tables, htables, h⟩ := ok_of_bind h
  obtain ⟨rows, hrows, h⟩ := ok_of_bind h
  obtain ⟨names, -, h⟩ := ok_of_bind h
  obtain rfl := Except.ok.inj h
  exact ⟨tables, htables, ok_of_mapError hrows⟩

/-! ## Sorted selections -/

/-- The cells of these rows have the types of their columns. -/
def Naming.Typed (naming : Naming) (rows : Entity → List Row) (es : List Entity) : Prop :=
  ∀ e ∈ es, ∀ row ∈ rows e, (naming.tableOf rows e).RowOk row

/-- In a database that only ever was mutated, the rows of all entities are typed. -/
theorem Database.WellTyped.typed {db : Database} {naming : Naming} {rows : Entity → List Row}
    {es : List Entity} (h : db.WellTyped) (hstores : ∀ e ∈ es, db.Stores naming e (rows e)) :
    naming.Typed rows es :=
  fun e he row hrow => h _ (mem_of_find? (hstores e he).found) row hrow

/-- The cell of a field is in the stored form of its kind. -/
theorem holds_cell {naming : Naming} {rows : Entity → List Row} {es : List Entity}
    (htyped : naming.Typed rows es) {c : Combination} (hc : c ∈ combinations rows es) {f : Field}
    (hf : (naming.columnName f).isSome) :
    (ColumnType.ofKind f.kind).holds (naming.cell c f) = true := by
  obtain ⟨hes, hrows⟩ := of_mem_combinations hc
  have hnull : (ColumnType.ofKind f.kind).holds .null = true := by cases f.kind <;> rfl
  rw [Naming.cell]
  cases hrow : c.lookup f.entity with
  | none => exact hnull
  | some row =>
    obtain ⟨before, behind, rfl, -⟩ := List.lookup_eq_some_iff.1 hrow
    have hmem : (f.entity, row) ∈ before ++ (f.entity, row) :: behind := by simp
    have he : f.entity ∈ es := hes ▸ List.mem_map_of_mem hmem
    rw [Option.bind_some]
    cases hv : row[naming.place f]? with
    | none => exact hnull
    | some v => exact (htyped _ he row (hrows _ hmem)).2 _ _ v (Naming.columnsOf_place hf) hv

section Select

variable {naming : Naming} {rows : Entity → List Row} {es : List Entity} {fields : List Field}
  {orders : List (Field × Direction)}

/-- The combinations that a filter keeps. -/
def Naming.kept (naming : Naming) (rows : Entity → List Row) (es : List Entity)
    (parameters : List Value) (filter : Option Expr) : List Combination :=
  (combinations rows es).filter fun c => isYes <|
    Frame.satisfiesAll ⟨Scope.ofTables (es.map (naming.tableOf rows)), parameters, c.joined⟩ filter

/-- Combinations in the order of sort keys. -/
def Naming.sorted (naming : Naming) (keys : List (Field × Direction)) (cs : List Combination) :
    List Combination :=
  sortBy (fun a b => keyOrder keys (naming.cell a) (naming.cell b) == .lt) cs

/-- No key of these combinations is a NaN. -/
def Naming.Comparable (naming : Naming) (keys : List (Field × Direction)) (cs : List Combination) :
    Prop := ∀ c ∈ cs, ∀ key ∈ keys, (naming.cell c key.1).isNaN = false

/-- The combinations are in the order of the keys. -/
def Naming.SortedBy (naming : Naming) (keys : List (Field × Direction)) (cs : List Combination) :
    Prop := cs.Pairwise fun a b => keyOrder keys (naming.cell a) (naming.cell b) ≠ .gt

/-- Sorting puts combinations in order, as far as no key is a NaN. -/
theorem Naming.sortedBy_sorted {keys : List (Field × Direction)} {cs : List Combination}
    (htyped : naming.Typed rows es) (hcs : ∀ c ∈ cs, c ∈ combinations rows es)
    (hkeys : ∀ key ∈ keys, (naming.columnName key.1).isSome) (hnan : naming.Comparable keys cs) :
    naming.SortedBy keys (naming.sorted keys cs) := by
  have horders := (ordersOn_keyOrder keys fun f => .ofKind f.kind).comap (f := naming.cell)
  exact sortBy_sorted horders fun c hc key hkey =>
    ⟨holds_cell htyped (hcs c hc) (hkeys key hkey), hnan c hc key hkey⟩

theorem Naming.sorted_nil (naming : Naming) (cs : List Combination) : naming.sorted [] cs = cs := by
  have hplaced (ys : List Combination) :
      cs.foldl (fun sorted c => placeBackwards (fun _ _ => false) c sorted) ys = cs.reverse ++ ys := by
    induction cs generalizing ys with
    | nil => rfl
    | cons c cs ih =>
      have hplace : placeBackwards (fun _ _ => false) c ys = c :: ys := by cases ys <;> rfl
      rw [List.foldl_cons, hplace, ih, List.reverse_cons, List.append_assoc]
      rfl
  have hall := hplaced []
  rw [List.append_nil] at hall
  exact (congrArg List.reverse hall).trans (List.reverse_reverse cs)

/-- A selection that succeeds has kept the combinations that satisfy its filter, sorted them by its
keys, and taken some of them. -/
theorem selectRows_sorted {parameters : List Value} (htells : naming.Tells es)
    (hwide : naming.Wide rows es) (hnodup : es.Nodup)
    (hfields : ∀ f ∈ fields, (naming.columnName f).isSome ∧ f.entity ∈ es)
    (horders : ∀ key ∈ orders, (naming.columnName key.1).isSome ∧ key.1.entity ∈ es)
    {distinct : Bool} {tables : List String} {filter : Option Expr} {limit : Option Nat}
    {out : List Row}
    (h : selectRows (es.map (naming.tableOf rows)) parameters
      ⟨distinct, fields.map fun f => .expr (naming.image f), tables, filter,
        orders.map naming.orderItem, limit⟩ = .ok out) :
    ∃ taken : List Combination,
      taken.Sublist (naming.sorted (naming.sortKeys fields orders)
        (naming.kept rows es parameters filter)) ∧
      out = taken.map fun c => fields.map (naming.cell c) := by
  obtain ⟨kept, hkept, h⟩ := ok_of_bind h
  obtain ⟨sorted, hsorted, h⟩ := ok_of_bind h
  rw [joinRows_eq] at hkept
  obtain rfl := keepRows_eq_ok hkept
  have hmem : ∀ c ∈ naming.kept rows es parameters filter, c ∈ combinations rows es :=
    fun c hc => (List.mem_filter.1 hc).1
  have hkeys : ∀ c ∈ naming.kept rows es parameters filter, ∀ vs,
      (orders.map naming.orderItem).mapM (fun item => Frame.evaluate
        ⟨Scope.ofTables (es.map (naming.tableOf rows)), parameters, c.joined⟩
        (sortExpr (fields.map fun f => .expr (naming.image f)) item.expr)) = .ok vs →
      vs = (naming.sortKeys fields orders).map fun key => naming.cell c key.1 := by
    intro c hc vs hvs
    rw [List.mapM_map] at hvs
    rw [Naming.sortKeys, List.map_map]
    refine eq_map_of_mapM (fun key hkey v hv => ?_) hvs
    obtain ⟨hmapped, he⟩ := horders key hkey
    exact evaluate_sortExpr htells hwide hnodup hfields hmapped he (hmem c hc) hv
  have hsorted' : sorted = (naming.sorted (naming.sortKeys fields orders)
      (naming.kept rows es parameters filter)).map Combination.joined := by
    have hbefore (a b : Combination) : keysBefore ((orders.map naming.orderItem).map (·.direction))
        ((naming.sortKeys fields orders).map fun key => naming.cell a key.1)
        ((naming.sortKeys fields orders).map fun key => naming.cell b key.1) =
        (keyOrder (naming.sortKeys fields orders) (naming.cell a) (naming.cell b) == .lt) := by
      have hdirections : (orders.map naming.orderItem).map (·.direction) =
          (naming.sortKeys fields orders).map (·.2) := by
        rw [Naming.sortKeys, List.map_map, List.map_map]
        rfl
      rw [hdirections]
      exact keysBefore_eq _ (naming.cell a) (naming.cell b)
    have hsorted := sortRows_eq_ok hkeys hsorted
    simp only [hbefore] at hsorted
    rw [hsorted, Naming.sorted]
    cases orders with
    | nil => exact congrArg _ (naming.sorted_nil _).symm
    | cons key orders => rfl
  subst hsorted'
  have hproject : ∀ c ∈ naming.sorted (naming.sortKeys fields orders)
      (naming.kept rows es parameters filter),
      projectRow (fun row => Frame.evaluate
        ⟨Scope.ofTables (es.map (naming.tableOf rows)), parameters, row⟩)
        (fields.map fun f => .expr (naming.image f)) c.joined = .ok (fields.map (naming.cell c)) := by
    intro c hc
    have hc' := hmem c ((sortBy_perm _ _).mem_iff.1 hc)
    exact projectRow_columns fun f hf =>
      evaluate_column htells hwide hnodup (hfields f hf).1 (hfields f hf).2 hc' parameters
  obtain ⟨taken, hsublist, htaken⟩ := takeRows_sublist hproject distinct limit []
  exact ⟨taken, hsublist, Except.ok.inj (h.symm.trans htaken)⟩

end Select

end EntityQuery
