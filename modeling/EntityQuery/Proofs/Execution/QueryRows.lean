import EntityQuery.Proofs.Execution.SortKeys

/-!
# What a query yields

A query chooses one row of each table in all ways, keeps the choices in which its condition is true,
sorts them, selects from them, and then drops repetitions and what is behind its limit.

* `withoutRepeats` are the rows that are the same as no earlier one. The rows that are taken are these
  (`takeRows_distinct`), although each is compared with the rows taken before it only.
* `takeRows_limit`: a limit cuts off the end.
* `select_sorts_and_takes` is what a query yields, for all databases that can be reached.
-/

namespace EntityQuery

open Sql

/-! ## Taking rows -/

theorem Double.same_trans {a b c : Double} (hab : a.same b = true) (hbc : b.same c = true) :
    a.same c = true := by
  simp only [same, compare?] at hab hbc ⊢
  grind

/-- To be the same is transitive, although a NaN is not even the same as itself. -/
theorem Value.same_trans {u v w : Value} (huv : u.same v = true) (hvw : v.same w = true) :
    u.same w = true := by
  fun_cases Value.same u v with
  | case1 a b =>
    cases w with
    | double c => exact Double.same_trans huv hvw
    | _ => cases hvw
  | case2 _ _ =>
    rw [same] at huv
    · exact eq_of_beq huv ▸ hvw
    · assumption

/-- Rows are the same if they have the same cells. -/
theorem sameRow_iff {a b : Row} :
    sameRow a b = true ↔ List.Forall₂ (fun x y : Value => x.same y = true) a b := by
  rw [sameRow, Bool.and_eq_true, beq_iff_eq, List.all_eq_true, List.forall₂_iff_zip, Prod.forall]

theorem sameRow_trans {a b c : Row} (hab : sameRow a b = true) (hbc : sameRow b c = true) :
    sameRow a c = true := by
  rw [sameRow_iff] at hab hbc ⊢
  induction hab generalizing c with
  | nil => exact hbc
  | cons hxy _ ih =>
    obtain ⟨z, rest, hyz, hrest, rfl⟩ := List.forall₂_cons_left_iff.1 hbc
    exact .cons (Value.same_trans hxy hyz) (ih hrest)

/-- The rows that are the same as no earlier one. -/
def withoutRepeats (rows : List Row) : List Row :=
  (rows.zipIdx.filter fun (row, i) => !(rows.take i).any (sameRow · row)).map (·.1)

/-- A last row is dropped if it is the same as an earlier one. -/
theorem withoutRepeats_concat (rows : List Row) (row : Row) :
    withoutRepeats (rows ++ [row]) =
      if rows.any (sameRow · row) then withoutRepeats rows else withoutRepeats rows ++ [row] := by
  have hearlier : (rows.zipIdx.filter fun x => !((rows ++ [row]).take x.2).any (sameRow · x.1)) =
      rows.zipIdx.filter fun x => !(rows.take x.2).any (sameRow · x.1) := by
    refine List.filter_congr fun x hx => ?_
    have hlt : x.2 < rows.length := List.snd_lt_of_mem_zipIdx hx
    rw [List.take_append_of_le_length (Nat.le_of_lt hlt)]
  have hlast : (rows ++ [row]).take rows.length = rows := List.take_left' rfl
  rw [withoutRepeats, withoutRepeats, List.zipIdx_append, List.filter_append, hearlier,
    List.map_append, List.zipIdx_singleton, List.filter_singleton, Nat.zero_add]
  dsimp only
  rw [hlast]
  cases rows.any (sameRow · row) with
  | false => rfl
  | true => exact List.append_nil _

/-- A row is the same as one of some rows if it is the same as one that is no repetition. -/
theorem any_withoutRepeats (rows : List Row) (row : Row) :
    (withoutRepeats rows).any (sameRow · row) = rows.any (sameRow · row) := by
  induction rows using List.reverseRecOn with
  | nil => rfl
  | append_singleton rows last ih =>
    rw [withoutRepeats_concat, List.any_append]
    split
    -- what the repetition is the same as, an earlier row is the same as too
    · next hrepeat =>
      obtain ⟨first, hfirst, hsame⟩ := List.any_eq_true.1 hrepeat
      rw [ih, List.any_cons, List.any_nil, Bool.or_false]
      cases hlast : sameRow last row with
      | false => exact (Bool.or_false _).symm
      | true =>
        rw [Bool.or_true]
        exact List.any_eq_true.2 ⟨first, hfirst, sameRow_trans hsame hlast⟩
    · rw [List.any_append, ih]

section Take

variable {α : Type} {project : Row → Except EvalError Row} {row result : α → Row} {xs : List α}

theorem takeRows_zero (project : Row → Except EvalError Row) (distinct : Bool) (taken rows : List Row) :
    takeRows project distinct (some 0) taken rows = .ok taken.reverse := by
  cases rows <;> rfl

/-- A row is taken unless it is the same as one that is taken already. -/
theorem takeRows_cons {first out : Row} (h : project first = .ok out) (distinct : Bool)
    {limit : Option Nat} (hlimit : limit ≠ some 0) (taken rows : List Row) :
    takeRows project distinct limit taken (first :: rows) =
      if distinct && taken.any (sameRow · out) then takeRows project distinct limit taken rows
      else takeRows project distinct (limit.map (· - 1)) (out :: taken) rows := by
  rw [takeRows, h]
  · rfl
  · exact hlimit

/-- Where repetitions are dropped, the rows that are the same as no earlier one are taken. -/
theorem takeRows_distinct (h : ∀ x ∈ xs, project (row x) = .ok (result x)) (earlier : List Row) :
    takeRows project true none (withoutRepeats earlier).reverse (xs.map row) =
      .ok (withoutRepeats (earlier ++ xs.map result)) := by
  -- The rows taken so far are those of the earlier results, so the induction is over all of these.
  induction xs generalizing earlier with
  | nil => rw [List.map_nil, takeRows, List.map_nil, List.append_nil, List.reverse_reverse]
  | cons x xs ih =>
    have hrest := ih (fun y hy => h y (List.mem_cons_of_mem _ hy)) (earlier ++ [result x])
    rw [withoutRepeats_concat, List.append_assoc] at hrest
    rw [List.map_cons, takeRows_cons (h x List.mem_cons_self) true (by simp), List.any_reverse,
      any_withoutRepeats, Bool.true_and]
    refine Eq.trans ?_ hrest
    split
    · rfl
    · rw [List.reverse_append]
      rfl

/-- With a limit, the first of the rows are taken. -/
theorem takeRows_limit (h : ∀ x ∈ xs, project (row x) = .ok (result x)) (distinct : Bool) (n : Nat)
    (taken : List Row) :
    takeRows project distinct (some n) taken (xs.map row) =
      (takeRows project distinct none taken (xs.map row)).map (List.take (taken.length + n)) := by
  induction xs generalizing n taken with
  | nil =>
    rw [List.map_nil, takeRows, takeRows]
    exact congrArg Except.ok (List.take_of_length_le (by simp)).symm
  | cons x xs ih =>
    have hx := h x List.mem_cons_self
    have hrest := ih fun y hy => h y (List.mem_cons_of_mem _ hy)
    cases n with
    | zero =>
      -- the rows that are taken already stand in front
      obtain ⟨ys, -, hall⟩ := takeRows_sublist h distinct none taken
      rw [hall, takeRows_zero]
      exact congrArg Except.ok (List.take_left' List.length_reverse).symm
    | succ n =>
      rw [List.map_cons, takeRows_cons hx distinct (by simp), takeRows_cons hx distinct (by simp)]
      split
      · exact hrest (n + 1) taken
      · refine (hrest n (result x :: taken)).trans ?_
        rw [List.length_cons, Nat.add_right_comm, Nat.add_assoc]
        rfl

end Take

/-! ## Queries -/

/-- All choices of one row of each table, side by side. The choices are made in the monad of lists, so
those of the first table vary slowest. -/
def Table.choices (tables : List Table) : List Row := (tables.mapM Table.rows).map List.flatten

/-- The joined rows are the choices of one row of each table, in their order. -/
theorem joinRows_eq_choices (tables : List Table) : joinRows tables = Table.choices tables := by
  rw [Table.choices]
  induction tables with
  | nil => rfl
  | cons t tables ih =>
    rw [joinRows, ih, List.mapM_cons]
    simp only [List.bind_eq_flatMap, List.pure_def, List.map_flatMap, List.map_map, List.map_cons,
      List.map_nil]
    congr 1
    funext row
    rw [List.map_eq_flatMap]
    rfl

/-- Whether the condition of a query is true in a joined row. -/
def Sql.Select.isTrueIn (s : Select) (tables : List Table) (parameters : List Value) (row : Row) :
    Bool :=
  s.filter.all fun e =>
    (Frame.evaluate ⟨Scope.ofTables tables, parameters, row⟩ e).toOption == some (.boolean true)

/-- The choices in which the condition of a query is true, each with its place among all choices. -/
def Sql.Select.candidates (s : Select) (tables : List Table) (parameters : List Value) :
    List (Row × Nat) :=
  (Table.choices tables).zipIdx.filter fun (row, _) => s.isTrueIn tables parameters row

/-- Everything that a query computes from the choices has a value: the condition in each of them, and
where it is true also the sort keys, of which none is a NaN, and the selection. -/
structure Sql.Select.Computes (s : Select) (tables : List Table) (parameters : List Value)
    (keys : Row → List Value) (result : Row → Row) : Prop where
  /-- the condition is decided -/
  filter : ∀ row ∈ Table.choices tables, ∃ answer,
    Frame.satisfiesAll ⟨Scope.ofTables tables, parameters, row⟩ s.filter = .ok answer
  /-- these are the sort keys -/
  order : ∀ row ∈ Table.choices tables, s.isTrueIn tables parameters row = true →
    s.order.mapM (fun item => Frame.evaluate ⟨Scope.ofTables tables, parameters, row⟩
      (sortExpr s.items item.expr)) = .ok (keys row)
  /-- the sort keys compare -/
  comparable : ∀ row ∈ Table.choices tables, s.isTrueIn tables parameters row = true →
    ∀ v ∈ keys row, v.isNaN = false
  /-- this is the selection -/
  project : ∀ row ∈ Table.choices tables, s.isTrueIn tables parameters row = true →
    projectRow (fun row => Frame.evaluate ⟨Scope.ofTables tables, parameters, row⟩) s.items row =
      .ok (result row)

/-- A condition that is decided holds if it is true. -/
theorem isTrueIn_of_satisfiesAll {s : Select} {tables : List Table} {parameters : List Value}
    {row : Row} {answer : Bool}
    (h : Frame.satisfiesAll ⟨Scope.ofTables tables, parameters, row⟩ s.filter = .ok answer) :
    s.isTrueIn tables parameters row = answer := Frame.isTrue_of_satisfiesAll h

/-- The candidates stand in the order of their places. -/
theorem candidates_pairwise (s : Select) (tables : List Table) (parameters : List Value) :
    (s.candidates tables parameters).Pairwise fun a b => a.2 < b.2 := by
  refine List.Pairwise.filter _ ((List.pairwise_map (f := Prod.snd) (R := (· < ·))).1 ?_)
  rw [List.zipIdx_map_snd]
  exact List.pairwise_lt_range'

/-- Without their places, the candidates are the rows that satisfy the condition. -/
theorem candidates_map (s : Select) (tables : List Table) (parameters : List Value) :
    (s.candidates tables parameters).map (·.1) =
      (Table.choices tables).filter (s.isTrueIn tables parameters) := by
  conv_rhs => rw [← List.zipIdx_map_fst 0 (Table.choices tables), List.filter_map]
  rfl

namespace Sql.Select.Computes

variable {s : Select} {tables : List Table} {parameters : List Value} {keys : Row → List Value}
  {result : Row → Row} (h : s.Computes tables parameters keys result)
include h

/-- The sort keys have the types of their expressions. -/
theorem keysOf (htyped : ∀ t ∈ tables, ∀ row ∈ t.rows, t.RowOk row) {row : Row}
    (hrow : row ∈ Table.choices tables) (htrue : s.isTrueIn tables parameters row = true) :
    KeysOf (s.order.map fun item => (sortExpr s.items item.expr).type tables parameters)
      (keys row) where
  typed := by
    rw [List.forall₂_map_left_iff]
    exact (forall₂_of_mapM (h.order row hrow htrue)).imp fun item v hv =>
      Frame.holds_evaluate (Table.rowOk_joined htyped (joinRows_eq_choices tables ▸ hrow)) hv
  comparable := h.comparable row hrow htrue

/-- Sort keys that can be computed as they are written have the values that are sorted by. -/
theorem keys_eq_written {row : Row} (hrow : row ∈ Table.choices tables)
    (htrue : s.isTrueIn tables parameters row = true) {vs : List Value}
    (hvs : s.order.mapM (fun item =>
      Frame.evaluate ⟨Scope.ofTables tables, parameters, row⟩ item.expr) = .ok vs) : keys row = vs := by
  have horder := h.order row hrow htrue
  let value : OrderItem → Value := fun item =>
    (Frame.evaluate ⟨Scope.ofTables tables, parameters, row⟩
      (sortExpr s.items item.expr)).toOption.getD .null
  have hkeys : keys row = s.order.map value := by
    refine eq_map_of_mapM (fun item _ v hv => ?_) horder
    dsimp only [value]
    rw [hv]
    rfl
  have hwritten : vs = s.order.map value := by
    refine eq_map_of_mapM (fun item hitem v hv => ?_) hvs
    obtain ⟨w, -, hw⟩ := ok_of_mapM horder hitem
    dsimp only [value]
    rw [hw]
    exact evaluate_written hv hw
  rw [hkeys, hwritten]

/-- With any limit, with or without repetitions, rows are taken from the candidates, after these are
sorted. -/
theorem selectRows_eq (htyped : ∀ t ∈ tables, ∀ row ∈ t.rows, t.RowOk row) :
    ∃ placed : List (Row × Nat), placed.Perm (s.candidates tables parameters) ∧
      placed.Pairwise (fun a b =>
        keysOrder (s.order.map (·.direction)) (keys a.1) (keys b.1) = .lt ∨
        keysOrder (s.order.map (·.direction)) (keys a.1) (keys b.1) = .eq ∧ a.2 < b.2) ∧
      ∀ distinct limit, selectRows tables parameters { s with distinct := distinct, limit := limit } =
        takeRows (projectRow (fun row => Frame.evaluate ⟨Scope.ofTables tables, parameters, row⟩)
          s.items) distinct limit [] (placed.map (·.1)) := by
  have hmem : ∀ x ∈ s.candidates tables parameters,
      x.1 ∈ Table.choices tables ∧ s.isTrueIn tables parameters x.1 = true := by
    intro x hx
    rw [← List.mem_filter, ← candidates_map]
    exact List.mem_map_of_mem hx
  obtain ⟨placed, hperm, hsorted, hplaced⟩ := sortRows_stable
    (fun row => Frame.evaluate ⟨Scope.ofTables tables, parameters, row⟩) s Prod.fst
    (candidates_pairwise s tables parameters)
    (fun x hx => h.order x.1 (hmem x hx).1 (hmem x hx).2)
    (fun x hx => h.keysOf htyped (hmem x hx).1 (hmem x hx).2)
  refine ⟨placed, hperm, hsorted, fun distinct limit => ?_⟩
  have hkept : keepRows (fun row => Frame.satisfiesAll ⟨Scope.ofTables tables, parameters, row⟩
      s.filter) (joinRows tables) = .ok ((s.candidates tables parameters).map (·.1)) := by
    rw [joinRows_eq_choices, candidates_map]
    refine keepRows_eq_filter fun row hrow => ?_
    obtain ⟨answer, hanswer⟩ := h.filter row hrow
    rw [hanswer, isTrueIn_of_satisfiesAll hanswer]
  exact (except_bind_of_ok hkept).trans (except_bind_of_ok hplaced)

end Sql.Select.Computes

/-- The tables of a query have rows in stored form. -/
theorem rowOk_of_tables {db : Database} (h : db.WellTyped) {names : List String} {tables : List Table}
    (htables : names.mapM db.table = .ok tables) : ∀ t ∈ tables, ∀ row ∈ t.rows, t.RowOk row := by
  intro t ht
  obtain ⟨name, -, hname⟩ := exists_of_mapM htables ht
  exact h t (Database.table_eq_ok hname)

/-- The rows of a query over tables that exist. -/
theorem Database.select_rows {db : Database} {s : Select} {tables : List Table}
    (htables : s.tables.mapM db.table = .ok tables) (parameters : List Value) :
    (db.select parameters s).map (·.rows) = (selectRows tables parameters s).mapError .evaluation := by
  rw [select, except_bind_of_ok htables]
  cases selectRows tables parameters s with
  | error e => rfl
  | ok rows =>
    rw [resultColumns_of_tables htables]
    rfl

/-- A query sorts the choices in which its condition is true by its sort keys, and those with the same
keys by their places. These are the sort keys that are written, where they have values. Without limit
and with repetitions, its rows are what is selected from these choices. Without repetitions, they are
those of these results that are the same as no earlier one. With a limit, they are the first of the rows
without it. -/
theorem select_sorts_and_takes (steps : List StorageStep) {s : Select} {tables : List Table}
    {parameters : List Value} {keys : Row → List Value} {result : Row → Row}
    (htables : s.tables.mapM (Memory.reach steps).1.database.table = .ok tables)
    (h : s.Computes tables parameters keys result) :
    let rows := fun distinct limit => ((Memory.reach steps).1.database.select parameters
      { s with distinct := distinct, limit := limit }).map (·.rows)
    let order := fun a b : Row => keysOrder (s.order.map (·.direction)) (keys a) (keys b)
    (∀ row ∈ Table.choices tables, s.isTrueIn tables parameters row = true →
      ∀ vs, s.order.mapM (fun item =>
        Frame.evaluate ⟨Scope.ofTables tables, parameters, row⟩ item.expr) = .ok vs →
          keys row = vs) ∧
    ∃ placed : List (Row × Nat), placed.Perm (s.candidates tables parameters) ∧
      placed.Pairwise (fun a b => order a.1 b.1 = .lt ∨ order a.1 b.1 = .eq ∧ a.2 < b.2) ∧
      rows false none = .ok (placed.map fun x => result x.1) ∧
      rows true none = .ok (withoutRepeats (placed.map fun x => result x.1)) ∧
      ∀ distinct n, rows distinct (some n) = (rows distinct none).map (List.take n) := by
  intro rows order
  have htyped := rowOk_of_tables (Memory.sound_reach steps).rows htables
  obtain ⟨placed, hperm, hsorted, hselect⟩ := h.selectRows_eq htyped
  have hproject : ∀ x ∈ placed, projectRow (fun row => Frame.evaluate
      ⟨Scope.ofTables tables, parameters, row⟩) s.items x.1 = .ok (result x.1) := by
    intro x hx
    have hmem : x.1 ∈ (s.candidates tables parameters).map (·.1) :=
      List.mem_map_of_mem (hperm.mem_iff.1 hx)
    rw [candidates_map, List.mem_filter] at hmem
    exact h.project x.1 hmem.1 hmem.2
  have hrows (distinct : Bool) (limit : Option Nat) : rows distinct limit = (takeRows (projectRow
      (fun row => Frame.evaluate ⟨Scope.ofTables tables, parameters, row⟩) s.items) distinct limit []
        (placed.map (·.1))).mapError .evaluation := by
    rw [← hselect]
    exact Database.select_rows (s := { s with distinct := distinct, limit := limit }) htables parameters
  refine ⟨fun row hrow htrue vs hvs => h.keys_eq_written hrow htrue hvs, placed, hperm, hsorted, ?_, ?_,
    fun distinct n => ?_⟩
  · rw [hrows, takeRows_map hproject []]
    rfl
  · rw [hrows]
    exact congrArg _ (takeRows_distinct hproject [])
  · rw [hrows, hrows, takeRows_limit hproject, List.length_nil, Nat.zero_add]
    cases takeRows _ distinct none [] (placed.map (·.1)) <;> rfl

/-- Two tables with some rows. -/
def StorageStep.twoTables : List StorageStep :=
  [.create "T" [⟨"A", .integer⟩, ⟨"B", .integer⟩],
    .execute "INSERT INTO T VALUES (1, 5), (2, 5), (1, NULL), (3, 7)",
    .create "U" [⟨"C", .varchar⟩],
    .execute "INSERT INTO U VALUES ('x'), ('y')"]

/-- These tables. -/
def Table.twoTables : List Table :=
  [⟨"T", [⟨"A", .integer⟩, ⟨"B", .integer⟩], [[.integer 1, .integer 5], [.integer 2, .integer 5],
      [.integer 1, .null], [.integer 3, .integer 7]]⟩,
    ⟨"U", [⟨"C", .varchar⟩], [[.string "x"], [.string "y"]]⟩]

/-- `SELECT DISTINCT A FROM t, u WHERE C = 'x' OR b = 5 ORDER BY T.B DESC, C LIMIT 2` -/
def Sql.Select.twoTables : Select :=
  ⟨true, [.expr (.column "A")], ["t", "u"],
    some (.or (.compare .equal (.column "C") (.literal (.string "x")))
      (.compare .equal (.column "b") (.literal (.integer 5)))),
    [⟨.qualified "T" "B", .desc⟩, ⟨.column "C", .asc⟩], some 2⟩

/-- The query computes all that it needs from these tables, and takes the first two different values. -/
theorem select_sorts_and_takes_twoTables :
    (parse "SELECT DISTINCT A FROM t, u WHERE C = 'x' OR b = 5 ORDER BY T.B DESC, C LIMIT 2").map
        (·.statement) = .ok (.select .twoTables) ∧
      Select.twoTables.tables.mapM (Memory.reach StorageStep.twoTables).1.database.table =
        .ok Table.twoTables ∧
      Select.twoTables.Computes Table.twoTables [] (fun row => [row[1]!, row[2]!])
        (fun row => [row[0]!]) ∧
      ∃ placed : List (Row × Nat), placed.Perm (Select.twoTables.candidates Table.twoTables []) ∧
        ((Memory.reach StorageStep.twoTables).1.database.select [] .twoTables).map (·.rows) =
          .ok ((withoutRepeats (placed.map fun x => [x.1[0]!])).take 2) := by
  have htables : Select.twoTables.tables.mapM (Memory.reach StorageStep.twoTables).1.database.table =
      .ok Table.twoTables := by cbv
  have hcomputes : Select.twoTables.Computes Table.twoTables [] (fun row => [row[1]!, row[2]!])
      (fun row => [row[0]!]) := ⟨by decide, by decide, by decide, by decide⟩
  obtain ⟨-, placed, hperm, -, -, hdistinct, hlimit⟩ :=
    select_sorts_and_takes StorageStep.twoTables htables hcomputes
  have hrows := hlimit true 2
  rw [hdistinct] at hrows
  exact ⟨by cbv, htables, hcomputes, placed, hperm, hrows⟩

example : ((Memory.reach StorageStep.twoTables).1.database.select [] .twoTables).map (·.rows) =
    .ok [[.integer 3], [.integer 1]] := by cbv

end EntityQuery
