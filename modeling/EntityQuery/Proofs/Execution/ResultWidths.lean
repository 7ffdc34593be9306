import EntityQuery.Proofs.Execution.QueryRows

/-!
# The width of a result

The names of the result columns and the cells of the rows come about in two ways. `selectionNames` goes
through the selection with the names of all columns at hand, and `projectRow` goes through it with a joined
row. Both step over the same items: `*` stands for as many names as a joined row has cells
(`length_joinRows`), and every expression for one.

* `length_projectItem` is the step, for one item, and `length_projectRow` goes through the selection.
* `Database.select_widths`: all rows of a result are as long as the list of its columns.
* `Select.columnNames_congr`: these are the same as long as the tables have the same columns.
-/

namespace EntityQuery

open Sql

/-! ## One row -/

section Project

variable {evaluate : Row → Expr → Except EvalError Value} {all : List String} {row cells : Row}
  (hrow : row.length = all.length)
include hrow

/-- An item selects a cell for each of its names. -/
theorem length_projectItem {item : SelectItem} (h : projectItem evaluate row item = .ok cells)
    (before : Nat) : cells.length = (item.columnNames all before).length := by
  cases item with
  | allColumns =>
    cases h
    exact hrow
  | expr e =>
    obtain ⟨v, -, h⟩ := ok_of_bind h
    cases h
    cases e <;> rfl

/-- A selection selects a cell for each of its names. -/
theorem length_projectRow {items : List SelectItem} (h : projectRow evaluate items row = .ok cells)
    (before : Nat) : cells.length = (selectionNames all before items).length := by
  obtain ⟨parts, hparts, hcells⟩ := ok_of_bind h
  cases hcells
  clear h
  -- how many columns there are before an item only changes the names of those without one
  induction items generalizing parts before with
  | nil =>
    cases hparts
    rfl
  | cons item items ih =>
    rw [List.mapM_cons] at hparts
    obtain ⟨first, hfirst, hparts⟩ := ok_of_bind hparts
    obtain ⟨others, hothers, hparts⟩ := ok_of_bind hparts
    cases hparts
    rw [List.flatten_cons, List.length_append, selectionNames, List.length_append,
      length_projectItem hrow hfirst before, ih _ _ hothers]

end Project

/-! ## All rows -/

/-- A joined row has a cell for each column of its tables. -/
theorem length_joinRows {tables : List Table}
    (hrows : ∀ t ∈ tables, ∀ row ∈ t.rows, row.length = t.columns.length) :
    ∀ row ∈ joinRows tables, row.length = (tables.flatMap Table.columnNames).length := by
  induction tables with
  | nil =>
    intro row hrow
    rw [List.mem_singleton.1 hrow]
    rfl
  | cons t ts ih =>
    intro joined hjoined
    rw [joinRows, List.mem_flatMap] at hjoined
    obtain ⟨row, hrow, hjoined⟩ := hjoined
    obtain ⟨rest, hrest, rfl⟩ := List.mem_map.1 hjoined
    have hfirst : row.length = t.columnNames.length := by
      rw [hrows t List.mem_cons_self row hrow, Table.columnNames, List.length_map]
    rw [List.length_append, List.flatMap_cons, List.length_append, hfirst,
      ih (fun t ht => hrows t (List.mem_cons_of_mem _ ht)) rest hrest]

/-- Sorted rows were there before. -/
theorem sortRows_mem {evaluate : Row → Expr → Except EvalError Value} {s : Select}
    {rows sorted : List Row} (h : sortRows evaluate s rows = .ok sorted) :
    ∀ row ∈ sorted, row ∈ rows := by
  rw [sortRows] at h
  split at h
  · cases h
    exact fun row hrow => hrow
  · obtain ⟨keyed, hkeyed, h⟩ := ok_of_bind h
    cases h
    intro row hsorted
    obtain ⟨entry, hentry, rfl⟩ := List.mem_map.1 hsorted
    obtain ⟨row, hrow, hkeys⟩ := exists_of_mapM hkeyed ((sortBy_perm _ keyed).mem_iff.1 hentry)
    obtain ⟨keys, -, hkeys⟩ := ok_of_bind hkeys
    cases hkeys
    exact hrow

/-- Results were taken before, or they come from one of the rows. -/
theorem takeRows_mem {project : Row → Except EvalError Row} {distinct : Bool} {limit : Option Nat}
    {taken rows results : List Row} (h : takeRows project distinct limit taken rows = .ok results) :
    ∀ result ∈ results, result ∈ taken ∨ ∃ row ∈ rows, project row = .ok result := by
  induction rows generalizing limit taken with
  | nil =>
    rw [takeRows] at h
    cases h
    exact fun result hresult => .inl (List.mem_reverse.1 hresult)
  | cons row rows ih =>
    by_cases hlimit : limit = some 0
    · rw [hlimit, takeRows_zero] at h
      cases h
      exact fun result hresult => .inl (List.mem_reverse.1 hresult)
    · rw [takeRows] at h
      swap
      · exact hlimit
      obtain ⟨first, hfirst, h⟩ := ok_of_bind h
      have hbehind {result : Row} : (∃ row ∈ rows, project row = .ok result) →
          ∃ row' ∈ row :: rows, project row' = .ok result := by
        rintro ⟨row', hrow', hresult⟩
        exact ⟨row', List.mem_cons_of_mem _ hrow', hresult⟩
      intro result hresult
      split at h
      · exact (ih h result hresult).imp_right hbehind
      · rcases ih h result hresult with hresult | hrow
        · rcases List.mem_cons.1 hresult with rfl | hresult
          · exact .inr ⟨row, List.mem_cons_self, hfirst⟩
          · exact .inl hresult
        · exact .inr (hbehind hrow)

/-- A row of a query has a cell for each name of its selection. -/
theorem length_selectRows {tables : List Table} {parameters : List Value} {s : Select} {rows : List Row}
    (hrows : ∀ t ∈ tables, ∀ row ∈ t.rows, row.length = t.columns.length)
    (h : selectRows tables parameters s = .ok rows) :
    ∀ row ∈ rows,
      row.length = (selectionNames (tables.flatMap Table.columnNames) 0 s.items).length := by
  obtain ⟨kept, hkept, h⟩ := ok_of_bind h
  obtain ⟨sorted, hsorted, htaken⟩ := ok_of_bind h
  intro row hrow
  obtain hnone | ⟨source, hsource, hproject⟩ := takeRows_mem htaken row hrow
  · cases hnone
  · refine length_projectRow (length_joinRows hrows source ?_) hproject 0
    exact keepRows_mem hkept source (sortRows_mem hsorted source hsource)

/-! ## Results -/

/-- The columns of tables that are found, one table behind the other. -/
theorem Database.flatMap_columnNames {db : Database} {names : List String} {tables : List Table}
    (h : names.mapM db.table = .ok tables) :
    names.flatMap db.columnNames = tables.flatMap Table.columnNames := by
  have hfound := forall₂_of_mapM h
  clear h
  induction hfound with
  | nil => rfl
  | @cons name t names tables htable _ ih =>
    have hcolumns : db.columnNames name = t.columnNames := by
      rw [Database.table] at htable
      rw [Database.columnNames]
      split at htable
      · next hfound =>
        cases htable
        rw [hfound]
        rfl
      · cases htable
    rw [List.flatMap_cons, List.flatMap_cons, hcolumns, ih]

/-- The names of a result's columns only depend on those of its tables. -/
theorem Sql.Select.columnNames_congr {s : Select} {columns columns' : String → List String}
    (h : ∀ name ∈ s.tables, columns name = columns' name) :
    s.columnNames columns = s.columnNames columns' := by
  rw [Select.columnNames, Select.columnNames, List.flatMap_congr h]

/-- The columns that are announced for a query. -/
theorem Database.eq_of_resultColumns {db : Database} {s : Select} {names : List String}
    (h : db.resultColumns (.select s) = .ok names) : s.columnNames db.columnNames = names := by
  rw [resultColumns] at h
  split at h
  · split at h
    · cases h
    · exact Except.ok.inj h
  · exact Except.ok.inj h

/-- A result has the columns that were announced, and each of its rows has a cell for each of them. -/
theorem Database.select_widths {db : Database} (hdb : db.WellTyped) {parameters : List Value}
    {s : Select} {result : ResultSet} (h : db.select parameters s = .ok result) :
    result.columns = s.columnNames db.columnNames ∧
      ∀ row ∈ result.rows, row.length = result.columns.length := by
  obtain ⟨tables, htables, h⟩ := ok_of_bind h
  obtain ⟨rows, hrows, h⟩ := ok_of_bind h
  rw [resultColumns_of_tables htables] at h
  cases h
  refine ⟨rfl, fun row hrow => ?_⟩
  have hstored := rowOk_of_tables hdb htables
  rw [Select.columnNames, flatMap_columnNames htables]
  exact length_selectRows (fun t ht row hrow => (Table.rowOk_iff.1 (hstored t ht row hrow)).1)
    (ok_of_mapError hrows) row hrow

end EntityQuery
