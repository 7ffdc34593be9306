import EntityQuery.Proofs.Execution.QueryRows
import EntityQuery.Proofs.Execution.UpdatedRows
import EntityQuery.Proofs.Storage.Spellings

/-!
# Joined rows and their columns

The rows of several tables are joined by choosing one of each, and the cells of the chosen rows stand side
by side. `Scope` tells, from the widths of the tables alone, where a column stands in them.

* `Table.rowPositions` are the choices, each as the positions of the chosen rows. They are all choices that
  can be made (`Table.mem_rowPositions`), in lexicographic order (`Table.rowPositions_pairwise`), and the
  joined rows are the choices in this order (`joinRows_eq_chosenRow`).
* `Scope.resolve_ofTables` finds a column in the one table that has it, behind the cells of the tables in
  front (`Table.offset`), and `Table.getElem?_chosenRow` shows that there are its cells.
* `joined_rows_aligned` puts this together for the tables of a database.
-/

namespace EntityQuery

namespace Table

/-! ## Choices of rows -/

/-- The choices of one row of each table, by their positions. -/
def rowPositions : List Table → List (List Nat)
  | [] => [[]]
  | t :: ts => (List.range t.rows.length).flatMap fun r => (rowPositions ts).map (r :: ·)

/-- The cells of the chosen rows, side by side. -/
def chosenRow : List Table → List Nat → Row
  | t :: ts, r :: rs => t.rows.getD r [] ++ chosenRow ts rs
  | _, _ => []

/-- A choice is a position in each of the tables. -/
theorem mem_rowPositions {tables : List Table} {p : List Nat} :
    p ∈ rowPositions tables ↔ List.Forall₂ (fun r t => r < t.rows.length) p tables := by
  induction tables generalizing p with
  | nil => simp [rowPositions]
  | cons t ts ih =>
    rw [rowPositions, List.mem_flatMap, List.forall₂_cons_right_iff]
    constructor
    · rintro ⟨r, hr, hp⟩
      obtain ⟨rs, hrs, rfl⟩ := List.mem_map.1 hp
      exact ⟨r, rs, List.mem_range.1 hr, ih.1 hrs, rfl⟩
    · rintro ⟨r, rs, hr, hrs, rfl⟩
      exact ⟨r, List.mem_range.2 hr, List.mem_map_of_mem (ih.2 hrs)⟩

/-- The choices stand in lexicographic order, so none is made twice. -/
theorem rowPositions_pairwise (tables : List Table) : (rowPositions tables).Pairwise (· < ·) := by
  induction tables with
  | nil => exact List.pairwise_singleton _ _
  | cons t ts ih =>
    rw [rowPositions, List.pairwise_flatMap]
    constructor
    · intro r _
      rw [List.pairwise_map]
      exact ih.imp fun h => List.cons_lt_cons_iff.2 (.inr ⟨rfl, h⟩)
    · refine List.pairwise_lt_range.imp fun hlt p hp q hq => ?_
      obtain ⟨rs, -, rfl⟩ := List.mem_map.1 hp
      obtain ⟨rs', -, rfl⟩ := List.mem_map.1 hq
      exact List.cons_lt_cons_iff.2 (.inl hlt)

/-- The joined rows are the choices, in their order. -/
theorem joinRows_eq_chosenRow (tables : List Table) :
    joinRows tables = (rowPositions tables).map (chosenRow tables) := by
  induction tables with
  | nil => rfl
  | cons t ts ih =>
    have hrows : t.rows = (List.range t.rows.length).map fun r => t.rows.getD r [] := by
      refine List.ext_getElem (by simp) fun i hi _ => ?_
      simp [hi]
    calc joinRows (t :: ts)
      _ = ((List.range t.rows.length).map fun r => t.rows.getD r []).flatMap fun row =>
            ((rowPositions ts).map (chosenRow ts)).map (row ++ ·) := by
        rw [joinRows, ih, ← hrows]
      _ = (rowPositions (t :: ts)).map (chosenRow (t :: ts)) := by
        rw [rowPositions, List.flatMap_map, List.map_flatMap]
        refine List.flatMap_congr fun r _ => ?_
        rw [List.map_map, List.map_map]
        rfl

/-! ## Places of columns -/

/-- Where the cells of a table start in a joined row: behind those of the tables in front. -/
def offset (tables : List Table) (k : Nat) : Nat := ((tables.take k).map (·.columns.length)).sum

theorem offset_zero (tables : List Table) : offset tables 0 = 0 := rfl

theorem offset_cons (t : Table) (ts : List Table) (k : Nat) :
    offset (t :: ts) (k + 1) = t.columns.length + offset ts k := by
  rw [offset, List.take_succ_cons, List.map_cons, List.sum_cons, offset]

/-- Behind the cells of the tables in front are those of the chosen row. -/
theorem getElem?_chosenRow {tables : List Table} {p : List Nat} {k r i : Nat} {t : Table} {row : Row}
    {v : Value} (hrows : ∀ t ∈ tables, ∀ row ∈ t.rows, row.length = t.columns.length)
    (hp : p ∈ rowPositions tables) (ht : tables[k]? = some t) (hr : p[k]? = some r)
    (hrow : t.rows[r]? = some row) (hv : row[i]? = some v) :
    (chosenRow tables p)[offset tables k + i]? = some v := by
  rw [mem_rowPositions] at hp
  induction hp generalizing k with
  | nil => cases ht
  | @cons r' t' p ts hr' hp ih =>
    obtain ⟨hother, hts⟩ := List.forall_mem_cons.1 hrows
    have hchosen : t'.rows.getD r' [] = t'.rows[r'] := by simp [hr']
    rw [chosenRow, hchosen]
    cases k with
    | zero =>
      obtain rfl : t' = t := Option.some.inj ht
      obtain rfl : r' = r := Option.some.inj hr
      obtain ⟨_, rfl⟩ := List.getElem?_eq_some_iff.1 hrow
      rw [offset_zero, Nat.zero_add,
        List.getElem?_append_left (List.getElem?_eq_some_iff.1 hv).1, hv]
    | succ k =>
      have hwidth := hother _ (List.getElem_mem hr')
      rw [offset_cons, List.getElem?_append_right (by omega), hwidth, Nat.add_assoc,
        Nat.add_sub_cancel_left]
      exact ih hts ht hr

end Table

namespace Scope

/-- Where a table has a column, if it is meant by the qualifier. -/
def placeIn (q : Option String) (c : String) (t : Table) : Option Nat :=
  if isMeant q t.name then t.columnIndex? c else none

/-- The table at position `k` has the column at position `i`, and no other table that is meant has it. -/
structure OnlyIn (q : Option String) (c : String) (tables : List Table) (k i : Nat) : Prop where
  /-- this table has it -/
  here : (tables[k]?).bind (placeIn q c) = some i
  /-- no other does -/
  only : ∀ k' t', tables[k']? = some t' → (placeIn q c t').isSome → k' = k

variable {q : Option String} {c : String} {t : Table} {tables : List Table} {k i place : Nat}

/-- A table without the column in front does not matter. -/
theorem onlyIn_cons_of_none (h : placeIn q c t = none) :
    OnlyIn q c (t :: tables) k i ↔ ∃ j, k = j + 1 ∧ OnlyIn q c tables j i := by
  constructor
  · rintro ⟨hhere, honly⟩
    cases k with
    | zero =>
      rw [List.getElem?_cons_zero, Option.bind_some, h] at hhere
      cases hhere
    | succ j =>
      exact ⟨j, rfl, hhere, fun k' t' ht' hsome => Nat.succ.inj (honly (k' + 1) t' ht' hsome)⟩
  · rintro ⟨j, rfl, hhere, honly⟩
    refine ⟨hhere, fun k' t' ht' hsome => ?_⟩
    cases k' with
    | zero =>
      obtain rfl : t = t' := Option.some.inj ht'
      rw [h] at hsome
      cases hsome
    | succ k' => rw [honly k' t' ht' hsome]

/-- A table with the column in front must be the only one. -/
theorem onlyIn_cons_of_some {j : Nat} (h : placeIn q c t = some j) :
    OnlyIn q c (t :: tables) k i ↔ k = 0 ∧ i = j ∧ ∀ t' ∈ tables, placeIn q c t' = none := by
  constructor
  · rintro ⟨hhere, honly⟩
    obtain rfl : 0 = k := honly 0 t rfl (by rw [h]; rfl)
    refine ⟨rfl, Option.some.inj (hhere.symm.trans h), fun t' ht' => ?_⟩
    refine Option.not_isSome_iff_eq_none.1 fun hsome => ?_
    obtain ⟨k', hk'⟩ := List.mem_iff_getElem?.1 ht'
    cases honly (k' + 1) t' hk' hsome
  · rintro ⟨rfl, rfl, hrest⟩
    refine ⟨h, fun k' t' ht' hsome => ?_⟩
    cases k' with
    | zero => rfl
    | succ k' =>
      rw [hrest t' (List.mem_of_getElem? ht')] at hsome
      cases hsome

/-- The places of a column in several tables: in the first, and behind its cells. -/
theorem positionsFrom_cons (offset : Nat) (t : Table) (ts : List Table) :
    positionsFrom q c offset ((t :: ts).map fun t => (t.name, t.columnNames)) =
      ((placeIn q c t).map (offset + ·)).toList ++
        positionsFrom q c (offset + t.columns.length) (ts.map fun t => (t.name, t.columnNames)) := by
  rw [List.map_cons, positionsFrom, Table.columnNames, List.length_map]
  rfl

/-- A column has no place if no table that is meant has it. -/
theorem positionsFrom_eq_nil_iff {offset : Nat} :
    positionsFrom q c offset (tables.map fun t => (t.name, t.columnNames)) = [] ↔
      ∀ t ∈ tables, placeIn q c t = none := by
  induction tables generalizing offset with
  | nil => simp [positionsFrom]
  | cons t ts ih =>
    rw [positionsFrom_cons, List.append_eq_nil_iff, ih, List.forall_mem_cons]
    cases placeIn q c t <;> simp

/-- A column has one place if one table that is meant has it, and no other. The place is behind the
tables in front of this one. -/
theorem positionsFrom_eq_singleton_iff {offset : Nat} :
    positionsFrom q c offset (tables.map fun t => (t.name, t.columnNames)) = [place] ↔
      ∃ k i, OnlyIn q c tables k i ∧ place = offset + Table.offset tables k + i := by
  induction tables generalizing offset with
  | nil =>
    constructor
    · intro h
      cases h
    · rintro ⟨k, i, ⟨hhere, -⟩, -⟩
      cases hhere
  | cons t ts ih =>
    rw [positionsFrom_cons]
    cases hplace : placeIn q c t with
    | none =>
      rw [Option.map_none, Option.toList_none, List.nil_append, ih]
      constructor
      · rintro ⟨k, i, honly, rfl⟩
        refine ⟨k + 1, i, (onlyIn_cons_of_none hplace).2 ⟨k, rfl, honly⟩, ?_⟩
        rw [Table.offset_cons]
        omega
      · rintro ⟨k, i, honly, rfl⟩
        obtain ⟨j, rfl, hrest⟩ := (onlyIn_cons_of_none hplace).1 honly
        refine ⟨j, i, hrest, ?_⟩
        rw [Table.offset_cons]
        omega
    | some j =>
      rw [Option.map_some, Option.toList_some, List.singleton_append, List.cons.injEq,
        positionsFrom_eq_nil_iff]
      constructor
      · rintro ⟨rfl, hrest⟩
        exact ⟨0, j, (onlyIn_cons_of_some hplace).2 ⟨rfl, rfl, hrest⟩, rfl⟩
      · rintro ⟨k, i, honly, rfl⟩
        obtain ⟨rfl, rfl, hrest⟩ := (onlyIn_cons_of_some hplace).1 honly
        exact ⟨rfl, hrest⟩

/-- A column resolves exactly if one table that is meant has it, and no other: to its place in this
table, behind the tables in front. -/
theorem resolve_ofTables :
    (ofTables tables).resolve q c = .ok place ↔
      ∃ k i, OnlyIn q c tables k i ∧ place = Table.offset tables k + i := by
  rw [resolve_eq_ok_iff, positions, ofTables, positionsFrom_eq_singleton_iff]
  simp only [Nat.zero_add]

/-- Without a qualifier, a column resolves exactly if one table has it. -/
theorem resolve_none_ofTables :
    (∃ place, (ofTables tables).resolve none c = .ok place) ↔
      ∃! k : Nat, ∃ t : Table, tables[k]? = some t ∧ (t.columnIndex? c).isSome := by
  constructor
  · rintro ⟨place, h⟩
    obtain ⟨k, i, ⟨hhere, honly⟩, -⟩ := resolve_ofTables.1 h
    obtain ⟨t, ht, hi⟩ := Option.bind_eq_some_iff.1 hhere
    refine ⟨k, ⟨t, ht, Option.isSome_of_eq_some hi⟩, ?_⟩
    rintro k' ⟨t', ht', hsome⟩
    exact honly k' t' ht' hsome
  · rintro ⟨k, ⟨t, ht, hsome⟩, honly⟩
    obtain ⟨i, hi⟩ := Option.isSome_iff_exists.1 hsome
    refine ⟨_, resolve_ofTables.2 ⟨k, i, ⟨?_, fun k' t' ht' hsome' => honly k' ⟨t', ht', hsome'⟩⟩, rfl⟩⟩
    rw [ht]
    exact hi

/-- With a qualifier, the tables of this name are meant. -/
theorem placeIn_some_isSome {q : String} (h : (placeIn (some q) c t).isSome) :
    Text.sameName t.name q = true := by
  by_contra hmeant
  rw [placeIn, isMeant, Option.all_some, if_neg hmeant] at h
  cases h

end Scope

/-! ## Tables of a database -/

/-- The tables of a statement go by different names, also up to case, if they are different. -/
theorem Database.eq_of_sameName {db : Database} {names : List String} {tables : List Table}
    (htables : names.mapM db.table = .ok tables) (hnames : (tables.map (·.name)).Nodup) {k k' : Nat}
    {t t' : Table} (ht : tables[k]? = some t) (ht' : tables[k']? = some t')
    (h : Text.sameName t.name t'.name = true) : k' = k := by
  have hfiled {t : Table} (ht : t ∈ tables) : ∃ n, t.name = Text.uppercased n := by
    obtain ⟨n, -, hn⟩ := exists_of_mapM htables ht
    exact ⟨n, name_of_find? (find?_of_table hn)⟩
  obtain ⟨n, hn⟩ := hfiled (List.mem_of_getElem? ht)
  obtain ⟨n', hn'⟩ := hfiled (List.mem_of_getElem? ht')
  have heq : t.name = t'.name := by
    rw [hn, hn'] at h ⊢
    exact Text.sameName_uppercased_iff.1 h
  have hlt : k' < (tables.map (·.name)).length := by
    rw [List.length_map]
    exact (List.getElem?_eq_some_iff.1 ht').1
  refine (List.getElem?_inj hlt hnames).1 ?_
  rw [List.getElem?_map, List.getElem?_map, ht, ht', Option.map_some, Option.map_some, heq]

/-- The joined rows of tables with different names are all choices of one row of each, each made once, in
the order of the positions of the rows. In each of them the cells of a column stand where the name of the
column resolves with the name of its table, whatever the case of its letters, and without it exactly if
no other table has such a column. -/
theorem joined_rows_aligned {db : Database} (hdb : db.WellTyped) {names : List String}
    {tables : List Table} (htables : names.mapM db.table = .ok tables)
    (hnames : (tables.map (·.name)).Nodup) :
    (joinRows tables = (Table.rowPositions tables).map (Table.chosenRow tables) ∧
      (Table.rowPositions tables).Pairwise (· < ·) ∧
      ∀ p, p ∈ Table.rowPositions tables ↔ List.Forall₂ (fun r t => r < t.rows.length) p tables) ∧
    (∀ (k : Nat) (t : Table) (c : String) (i : Nat), tables[k]? = some t → t.columnIndex? c = some i →
      ∃ place,
        (∀ q, Text.sameName t.name q = true →
          (Scope.ofTables tables).resolve (some q) c = .ok place) ∧
        ∀ p ∈ Table.rowPositions tables, ∃ (r : Nat) (row : Row) (v : Value), p[k]? = some r ∧
          t.rows[r]? = some row ∧ row[i]? = some v ∧ (Table.chosenRow tables p)[place]? = some v) ∧
    ∀ c,
      ((∃ place, (Scope.ofTables tables).resolve none c = .ok place) ↔
        ∃! k : Nat, ∃ t : Table, tables[k]? = some t ∧ (t.columnIndex? c).isSome) ∧
      ∀ place, (Scope.ofTables tables).resolve none c = .ok place → ∃ t ∈ tables,
        (t.columnIndex? c).isSome ∧ (Scope.ofTables tables).resolve (some t.name) c = .ok place := by
  -- a table with the column is the only one of its name that has it
  have hqualified {k : Nat} {t : Table} {c : String} {i : Nat} {q : String}
      (ht : tables[k]? = some t) (hi : t.columnIndex? c = some i)
      (hq : Text.sameName t.name q = true) :
      (Scope.ofTables tables).resolve (some q) c = .ok (Table.offset tables k + i) := by
    refine Scope.resolve_ofTables.2 ⟨k, i, ⟨?_, fun k' t' ht' hsome => ?_⟩, rfl⟩
    · rw [ht, Option.bind_some, Scope.placeIn, Scope.isMeant, Option.all_some, if_pos hq, hi]
    · refine Database.eq_of_sameName htables hnames ht ht' (Text.sameName_trans hq ?_)
      rw [Text.sameName_comm]
      exact Scope.placeIn_some_isSome hsome
  have hwidths : ∀ t ∈ tables, ∀ row ∈ t.rows, row.length = t.columns.length :=
    fun t ht row hrow => (rowOk_of_tables hdb htables t ht row hrow).1
  refine ⟨⟨Table.joinRows_eq_chosenRow tables, Table.rowPositions_pairwise tables,
    fun p => Table.mem_rowPositions⟩, fun k t c i ht hi => ?_, fun c =>
      ⟨Scope.resolve_none_ofTables, fun place hplace => ?_⟩⟩
  · refine ⟨Table.offset tables k + i, fun q hq => hqualified ht hi hq, fun p hp => ?_⟩
    have hforall := Table.mem_rowPositions.1 hp
    obtain ⟨hk, rfl⟩ := List.getElem?_eq_some_iff.1 ht
    have hkp : k < p.length := hforall.length_eq ▸ hk
    have hr : p[k] < tables[k].rows.length := List.Forall₂.get hforall hkp hk
    have hwidth := hwidths tables[k] (List.getElem_mem hk) tables[k].rows[p[k]] (List.getElem_mem hr)
    have hi' : i < tables[k].rows[p[k]].length := hwidth ▸ Table.lt_of_columnIndex? hi
    have hrow := List.getElem?_eq_getElem hr
    have hv := List.getElem?_eq_getElem hi'
    exact ⟨p[k], _, _, List.getElem?_eq_getElem hkp, hrow, hv,
      Table.getElem?_chosenRow hwidths hp ht (List.getElem?_eq_getElem hkp) hrow hv⟩
  · obtain ⟨k, i, ⟨hhere, -⟩, rfl⟩ := Scope.resolve_ofTables.1 hplace
    obtain ⟨t, ht, hi⟩ := Option.bind_eq_some_iff.1 hhere
    exact ⟨t, List.mem_of_getElem? ht, Option.isSome_of_eq_some hi,
      hqualified ht hi (Text.sameName_self _)⟩

/-- Eight rows are joined from four and two, and in each of them `u.c` is the cell of the second table. -/
theorem joined_rows_aligned_twoTables :
    ["t", "u"].mapM (Memory.reach StorageStep.twoTables).1.database.table = .ok Table.twoTables ∧
      (Table.twoTables.map (·.name)).Nodup ∧
      (joinRows Table.twoTables).length = 8 ∧
      ∃ place, (Scope.ofTables Table.twoTables).resolve (some "u") "c" = .ok place ∧
        ∀ p ∈ Table.rowPositions Table.twoTables, ∃ (r : Nat) (row : Row) (v : Value), p[1]? = some r ∧
          [[Value.string "x"], [.string "y"]][r]? = some row ∧ row[0]? = some v ∧
          (Table.chosenRow Table.twoTables p)[place]? = some v := by
  have htables : ["t", "u"].mapM (Memory.reach StorageStep.twoTables).1.database.table =
      .ok Table.twoTables := by cbv
  have hnames : (Table.twoTables.map (·.name)).Nodup := by decide
  obtain ⟨⟨hjoined, -⟩, hcolumns, -⟩ :=
    joined_rows_aligned (Memory.sound_reach StorageStep.twoTables).rows htables hnames
  obtain ⟨place, hresolve, hcells⟩ := hcolumns 1 _ "c" 0 rfl (by decide)
  refine ⟨htables, hnames, ?_, place, hresolve "u" (by decide), hcells⟩
  rw [hjoined]
  rfl

end EntityQuery
