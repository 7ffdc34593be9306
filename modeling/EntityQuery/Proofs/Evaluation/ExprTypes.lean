import EntityQuery.Execution.Select
import EntityQuery.Proofs.Storage.Reachable

/-!
# Types of expressions

The rows of stored tables have typed cells, and so do the rows that a query joins from them. The values
that an expression takes in all these rows are therefore of one type:

* `Table.joined` is a join as a table, whose rows are in stored form if those of its tables are
  (`Table.rowOk_joined`);
* `Sql.Expr.type` is the type of an expression. A column has that of its cells, a literal or a
  parameter that of its value, and everything else is a truth value or unknown;
* `Frame.holds_evaluate`: each value that is found has this type, or is absent.
-/

namespace EntityQuery

open Sql

/-! ## Joined rows -/

/-- The join of some tables. -/
def Table.joined (tables : List Table) : Table := ⟨"", tables.flatMap (·.columns), joinRows tables⟩

/-- Rows side by side have the columns of both. -/
theorem Table.RowOk.append {t t' : Table} {row row' : Row} (h : t.RowOk row) (h' : t'.RowOk row')
    (name : String) (rows : List Row) :
    (⟨name, t.columns ++ t'.columns, rows⟩ : Table).RowOk (row ++ row') := by
  rw [rowOk_iff] at h h' ⊢
  dsimp only
  rw [List.length_append, List.length_append, h.1, h'.1, List.zip_append h.1.symm]
  exact ⟨rfl, fun cell hcell => (List.mem_append.1 hcell).elim (h.2 cell) (h'.2 cell)⟩

/-- The rows of a join are in stored form if those of its tables are. -/
theorem Table.rowOk_joined {tables : List Table} (h : ∀ t ∈ tables, ∀ row ∈ t.rows, t.RowOk row)
    {row : Row} (hrow : row ∈ joinRows tables) : (joined tables).RowOk row := by
  induction tables generalizing row with
  | nil =>
    obtain rfl := List.mem_singleton.1 hrow
    exact ⟨rfl, fun i column v hcolumn _ => nomatch hcolumn⟩
  | cons t tables ih =>
    obtain ⟨first, hfirst, hrow⟩ := List.mem_flatMap.1 hrow
    obtain ⟨rest, hrest, rfl⟩ := List.mem_map.1 hrow
    have hok := h t List.mem_cons_self first hfirst
    exact hok.append (ih (fun t' ht' => h t' (List.mem_cons_of_mem _ ht')) hrest) _ _

/-! ## Truth values -/

section Truth

variable {a b v : Value}

theorem holds_compareValues {op : Comparison} (h : compareValues op a b = .ok v) :
    ColumnType.boolean.holds v = true := by
  rw [compareValues] at h
  split at h
  · cases h; rfl
  · split at h <;> cases h
    rfl

theorem holds_andValues (h : andValues a b = .ok v) : ColumnType.boolean.holds v = true := by
  rw [andValues.eq_def] at h
  split at h <;> cases h <;> rfl

theorem holds_orValues (h : orValues a b = .ok v) : ColumnType.boolean.holds v = true := by
  rw [orValues.eq_def] at h
  split at h <;> cases h <;> rfl

theorem holds_notValue (h : notValue a = .ok v) : ColumnType.boolean.holds v = true := by
  rw [notValue.eq_def] at h
  split at h <;> cases h <;> rfl

theorem holds_likeValues {negated : Bool} {escape : Option Char}
    (h : likeValues negated escape a b = .ok v) : ColumnType.boolean.holds v = true := by
  rw [likeValues.eq_def] at h
  split at h <;> cases h <;> rfl

theorem holds_negateIf (negated : Bool) (h : ColumnType.boolean.holds v = true) :
    ColumnType.boolean.holds (negateIf negated v) = true := by
  cases v with
  | boolean b => rfl
  | _ => exact h

/-- A search finds a truth value, or does not know. -/
theorem Frame.holds_isAmong {f : Frame} {sofar : Value} {items : List Expr}
    (hsofar : ColumnType.boolean.holds sofar = true) (h : f.isAmong a sofar items = .ok v) :
    ColumnType.boolean.holds v = true := by
  induction items generalizing sofar with
  | nil =>
    rw [isAmong] at h
    exact Except.ok.inj h ▸ hsofar
  | cons item items ih =>
    rw [isAmong] at h
    obtain ⟨w, -, h⟩ := ok_of_bind h
    obtain ⟨equal, -, h⟩ := ok_of_bind h
    obtain ⟨found, hfound, h⟩ := ok_of_bind h
    split at h
    · exact Except.ok.inj h ▸ holds_orValues hfound
    · exact ih (holds_orValues hfound) h

end Truth

/-! ## Expressions -/

/-- A value has its own type. -/
theorem Value.holds_columnType (v : Value) : (v.columnType?.getD .boolean).holds v = true := by
  cases v <;> rfl

/-- The type of a column in joined rows. -/
def Table.joinedType (tables : List Table) (qualifier : Option String) (name : String) : ColumnType :=
  match (Scope.ofTables tables).resolve qualifier name with
  | .ok i => ((joined tables).columns[i]?.map (·.type)).getD .boolean
  | .error _ => .boolean

/-- The type of the values of an expression in joined rows. -/
def Sql.Expr.type (tables : List Table) (parameters : List Value) : Expr → ColumnType
  | .literal v => v.columnType?.getD .boolean
  | .parameter number => (parameters[number - 1]?.bind Value.columnType?).getD .boolean
  | .column name => Table.joinedType tables none name
  | .qualified table name => Table.joinedType tables (some table) name
  | _ => .boolean

namespace Frame

variable {tables : List Table} {parameters : List Value} {row : Row} {v : Value}

/-- The value of a column is in the place of the column. -/
theorem cell_eq_ok {f : Frame} {qualifier : Option String} {column : String} {v : Value}
    (h : f.cell qualifier column = .ok v) :
    ∃ i, f.scope.resolve qualifier column = .ok i ∧ f.row[i]? = some v := by
  rw [cell] at h
  split at h
  · cases h
  · next i hi =>
    split at h
    · next w hw =>
      obtain rfl := Except.ok.inj h
      exact ⟨i, hi, hw⟩
    · cases h

/-- The cell of a column has the type of the column. -/
theorem holds_cell (hrow : (Table.joined tables).RowOk row) {qualifier : Option String} {name : String}
    (h : cell ⟨Scope.ofTables tables, parameters, row⟩ qualifier name = .ok v) :
    (Table.joinedType tables qualifier name).holds v = true := by
  obtain ⟨i, hi, hv⟩ := cell_eq_ok h
  obtain ⟨hlt, -⟩ := List.getElem?_eq_some_iff.1 hv
  have hcolumn := List.getElem?_eq_getElem (l := (Table.joined tables).columns) (hrow.1 ▸ hlt)
  rw [Table.joinedType, hi]
  dsimp only
  rw [hcolumn]
  exact hrow.2 i _ v hcolumn hv

/-- The value of a parameter has the type of the parameter. -/
theorem holds_parameter {f : Frame} {number : Nat} (h : f.parameter number = .ok v) :
    ((f.parameters[number - 1]?.bind Value.columnType?).getD .boolean).holds v = true := by
  cases number with
  | zero => cases h
  | succ k =>
    rw [parameter] at h
    split at h
    · next w hw =>
      obtain rfl := Except.ok.inj h
      rw [Nat.add_sub_cancel, hw]
      exact w.holds_columnType
    · cases h

/-- The values of an expression have its type. -/
theorem holds_evaluate (hrow : (Table.joined tables).RowOk row) {e : Expr}
    (h : evaluate ⟨Scope.ofTables tables, parameters, row⟩ e = .ok v) :
    (e.type tables parameters).holds v = true := by
  cases e with
  | literal w =>
    rw [evaluate] at h
    exact Except.ok.inj h ▸ w.holds_columnType
  | parameter number =>
    rw [evaluate] at h
    exact holds_parameter h
  | column name =>
    rw [evaluate] at h
    exact holds_cell hrow h
  | qualified table name =>
    rw [evaluate] at h
    exact holds_cell hrow h
  | compare op left right =>
    rw [evaluate] at h
    obtain ⟨a, -, h⟩ := ok_of_bind h
    obtain ⟨b, -, h⟩ := ok_of_bind h
    exact holds_compareValues h
  | and left right =>
    rw [evaluate] at h
    obtain ⟨a, -, h⟩ := ok_of_bind h
    obtain ⟨b, -, h⟩ := ok_of_bind h
    exact holds_andValues h
  | or left right =>
    rw [evaluate] at h
    obtain ⟨a, -, h⟩ := ok_of_bind h
    obtain ⟨b, -, h⟩ := ok_of_bind h
    exact holds_orValues h
  | not e =>
    rw [evaluate] at h
    obtain ⟨a, -, h⟩ := ok_of_bind h
    exact holds_notValue h
  | inList negated e items =>
    rw [evaluate] at h
    obtain ⟨a, -, h⟩ := ok_of_bind h
    split at h
    · cases h
      rfl
    · obtain ⟨found, hfound, h⟩ := ok_of_bind h
      exact Except.ok.inj h ▸ holds_negateIf negated (holds_isAmong rfl hfound)
  | like negated e pattern escape =>
    rw [evaluate] at h
    obtain ⟨a, -, h⟩ := ok_of_bind h
    obtain ⟨b, -, h⟩ := ok_of_bind h
    exact holds_likeValues h
  | isNull negated e =>
    rw [evaluate] at h
    obtain ⟨a, -, h⟩ := ok_of_bind h
    exact Except.ok.inj h ▸ rfl

end Frame

end EntityQuery
