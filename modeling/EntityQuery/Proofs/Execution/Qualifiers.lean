import EntityQuery.Proofs.Execution.EntityRows
import EntityQuery.Proofs.Execution.QueryRows
import EntityQuery.Proofs.Execution.UpdatedRows
import EntityQuery.Proofs.Storage.Addressing
import EntityQuery.Proofs.Storage.Spellings

/-!
# Names of tables as qualifiers

A statement names its table twice: where it says which table it is about, and in front of a column. The
first is looked up in upper case, the second is compared up to the case of ASCII letters with the name that
the table is filed under. A name that does the first need not do the second.

* `Frame.errorsIn_evaluate`: an expression fails on a name only if the name does not resolve, so a
  statement whose names resolve does not fail on a name (`errorsIn_select`, `errorsIn_update`,
  `errorsIn_delete`).
* `Database.Qualifies` says that a name that finds a table may stand in front of a column of it.
* `table_qualifies` finds these names: their letters past ASCII must be in upper case. With any other
  the column is unknown in every row (`Frame.evaluate_of_not_upper`).
-/

namespace EntityQuery

open Sql

/-! ## Errors about names -/

/-- Errors about names are errors of the scope. -/
def EvalError.OfScope (s : Scope) (e : EvalError) : Prop :=
  ∀ cause, e = .name cause → ∃ q c, s.resolve q c = .error cause

section Values

variable {s : Scope}

theorem EvalError.ofScope_of_ne {e : EvalError} (h : ∀ cause, e ≠ .name cause) : e.OfScope s :=
  fun cause hcause => absurd hcause (h cause)

theorem errorsIn_compareValues (op : Comparison) (a b : Value) :
    ErrorsIn (EvalError.OfScope s) (compareValues op a b) := by
  rw [compareValues]
  split
  · exact .ok _
  · split
    · exact .ok _
    · exact .error (EvalError.ofScope_of_ne (by simp))

theorem errorsIn_andValues (a b : Value) : ErrorsIn (EvalError.OfScope s) (andValues a b) := by
  unfold andValues
  split <;> first | exact .ok _ | exact .error (EvalError.ofScope_of_ne (by simp))

theorem errorsIn_orValues (a b : Value) : ErrorsIn (EvalError.OfScope s) (orValues a b) := by
  unfold orValues
  split <;> first | exact .ok _ | exact .error (EvalError.ofScope_of_ne (by simp))

theorem errorsIn_notValue (v : Value) : ErrorsIn (EvalError.OfScope s) (notValue v) := by
  unfold notValue
  split <;> first | exact .ok _ | exact .error (EvalError.ofScope_of_ne (by simp))

theorem errorsIn_likeValues (negated : Bool) (escape : Option Char) (a b : Value) :
    ErrorsIn (EvalError.OfScope s) (likeValues negated escape a b) := by
  unfold likeValues
  split <;> first | exact .ok _ | exact .error (EvalError.ofScope_of_ne (by simp))

end Values

namespace Frame

theorem errorsIn_parameter (f : Frame) (number : Nat) :
    ErrorsIn (EvalError.OfScope f.scope) (f.parameter number) := by
  cases number with
  | zero => exact .error (EvalError.ofScope_of_ne (by simp))
  | succ k =>
    rw [parameter]
    split
    · exact .ok _
    · exact .error (EvalError.ofScope_of_ne (by simp))

theorem errorsIn_cell (f : Frame) (q : Option String) (c : String) :
    ErrorsIn (EvalError.OfScope f.scope) (f.cell q c) := by
  rw [cell]
  split
  · next cause hcause =>
    refine .error fun cause' h => ⟨q, c, ?_⟩
    rw [← EvalError.name.inj h, hcause]
  · split
    · exact .ok _
    · exact .error (EvalError.ofScope_of_ne (by simp))

mutual

/-- An expression fails on a name only if the name does not resolve. -/
theorem errorsIn_evaluate (f : Frame) (e : Expr) :
    ErrorsIn (EvalError.OfScope f.scope) (f.evaluate e) := by
  cases e with
  | literal v => exact .ok v
  | parameter number => exact f.errorsIn_parameter number
  | column name => exact f.errorsIn_cell none name
  | qualified table name => exact f.errorsIn_cell (some table) name
  | compare op left right =>
    rw [evaluate]
    exact (f.errorsIn_evaluate left).bind fun a => (f.errorsIn_evaluate right).bind fun b =>
      errorsIn_compareValues op a b
  | and left right =>
    rw [evaluate]
    exact (f.errorsIn_evaluate left).bind fun a => (f.errorsIn_evaluate right).bind fun b =>
      errorsIn_andValues a b
  | or left right =>
    rw [evaluate]
    exact (f.errorsIn_evaluate left).bind fun a => (f.errorsIn_evaluate right).bind fun b =>
      errorsIn_orValues a b
  | not e =>
    rw [evaluate]
    exact (f.errorsIn_evaluate e).bind fun a => errorsIn_notValue a
  | inList negated e items =>
    rw [evaluate]
    refine (f.errorsIn_evaluate e).bind fun v => ?_
    split
    · exact .ok _
    · exact (f.errorsIn_isAmong v (.boolean false) items).bind fun found => .ok _
  | like negated e pattern escape =>
    rw [evaluate]
    exact (f.errorsIn_evaluate e).bind fun a => (f.errorsIn_evaluate pattern).bind fun b =>
      errorsIn_likeValues negated escape a b
  | isNull negated e =>
    rw [evaluate]
    exact (f.errorsIn_evaluate e).bind fun a => .ok _

/-- So does a test for membership. -/
theorem errorsIn_isAmong (f : Frame) (v sofar : Value) (items : List Expr) :
    ErrorsIn (EvalError.OfScope f.scope) (f.isAmong v sofar items) := by
  cases items with
  | nil => exact .ok sofar
  | cons item items =>
    rw [isAmong]
    refine (f.errorsIn_evaluate item).bind fun w => (errorsIn_compareValues .equal v w).bind fun equal =>
      (errorsIn_orValues sofar equal).bind fun found => ?_
    split
    · exact .ok _
    · exact f.errorsIn_isAmong v found items

end

theorem errorsIn_satisfies (f : Frame) (e : Expr) :
    ErrorsIn (EvalError.OfScope f.scope) (f.satisfies e) := by
  rw [satisfies]
  refine (f.errorsIn_evaluate e).bind fun v => ?_
  split
  · exact .ok _
  · exact .ok _
  · exact .error (EvalError.ofScope_of_ne (by simp))

theorem errorsIn_satisfiesAll (f : Frame) (filter : Option Expr) :
    ErrorsIn (EvalError.OfScope f.scope) (f.satisfiesAll filter) := by
  cases filter with
  | none => exact .ok true
  | some e => exact f.errorsIn_satisfies e

end Frame

/-! ## Statements -/

section Rows

variable {P : EvalError → Prop}

theorem errorsIn_keepRows {holds : Row → Except EvalError Bool} (h : ∀ row, ErrorsIn P (holds row))
    (rows : List Row) : ErrorsIn P (keepRows holds rows) := by
  induction rows with
  | nil => exact .ok []
  | cons row rows ih => exact (h row).bind fun kept => ih.bind fun rest => .ok _

variable {evaluate : Row → Expr → Except EvalError Value} (h : ∀ row e, ErrorsIn P (evaluate row e))
include h

theorem errorsIn_sortRows (s : Select) (rows : List Row) : ErrorsIn P (sortRows evaluate s rows) := by
  rw [sortRows]
  split
  · exact .ok rows
  · have hkeys (row : Row) :
        ErrorsIn P (s.order.mapM fun item => evaluate row (sortExpr s.items item.expr)) :=
      .mapM fun item _ => h row _
    exact ErrorsIn.bind (.mapM fun row _ => (hkeys row).bind fun keys => .ok _) fun keyed => .ok _

theorem errorsIn_projectRow (items : List SelectItem) (row : Row) :
    ErrorsIn P (projectRow evaluate items row) := by
  refine ErrorsIn.bind (.mapM fun item _ => ?_) fun cells => .ok _
  cases item with
  | allColumns => exact .ok row
  | expr e => exact (h row e).bind fun v => .ok _

omit h in
theorem errorsIn_takeRows {project : Row → Except EvalError Row} (h : ∀ row, ErrorsIn P (project row))
    (distinct : Bool) (limit : Option Nat) (taken rows : List Row) :
    ErrorsIn P (takeRows project distinct limit taken rows) := by
  induction rows generalizing limit taken with
  | nil =>
    rw [takeRows]
    exact .ok _
  | cons row rows ih =>
    by_cases hlimit : limit = some 0
    · rw [hlimit, takeRows_zero]
      exact .ok _
    · rw [takeRows]
      · refine (h row).bind fun result => ?_
        split <;> exact ih _ _
      · exact hlimit

end Rows

/-- Errors of a statement about names are errors of the scope. -/
def BackendError.OfScope (s : Scope) (e : BackendError) : Prop :=
  ∀ cause, e = .evaluation (.name cause) → ∃ q c, s.resolve q c = .error cause

theorem BackendError.ofScope_evaluation {s : Scope} {e : EvalError} (h : e.OfScope s) :
    BackendError.OfScope s (.evaluation e) :=
  fun cause hcause => h cause (BackendError.evaluation.inj hcause)

variable {db : Database} {t : Table} {n : String}

/-- A query fails on a name only if the name does not resolve in its tables. -/
theorem errorsIn_select {tables : List Table} {s : Select}
    (htables : s.tables.mapM db.table = .ok tables) (parameters : List Value) :
    ErrorsIn (BackendError.OfScope (Scope.ofTables tables)) (db.select parameters s) := by
  have hrows : ErrorsIn (EvalError.OfScope (Scope.ofTables tables)) (selectRows tables parameters s) := by
    have hevaluate (row : Row) (e : Expr) := Frame.errorsIn_evaluate ⟨Scope.ofTables tables, parameters, row⟩ e
    rw [selectRows]
    refine (errorsIn_keepRows (fun row => Frame.errorsIn_satisfiesAll ⟨_, _, row⟩ _) _).bind fun kept => ?_
    refine (errorsIn_sortRows hevaluate s kept).bind fun sorted => ?_
    exact errorsIn_takeRows (fun row => errorsIn_projectRow hevaluate s.items row) _ _ _ _
  rw [Database.select, except_bind_of_ok htables]
  refine (hrows.mapError fun e => BackendError.ofScope_evaluation).bind fun rows => ?_
  rw [Database.resultColumns_of_tables htables]
  exact .ok _

/-- An update fails on a name only if the name does not resolve in its table. -/
theorem errorsIn_update {s : Update} (ht : db.table s.table = .ok t) (parameters : List Value) :
    ErrorsIn (BackendError.OfScope t.scope) (db.update parameters s).1 := by
  have htarget (column : String) : ErrorsIn (BackendError.OfScope t.scope) (t.target column) := by
    rw [Table.target]
    split
    · exact .ok _
    · exact .error fun _ h => nomatch h
  have hcell (target : Nat) (v : Value) :
      ErrorsIn (BackendError.OfScope t.scope) ((t.normalize target v).mapError .storage) :=
    ErrorsIn.mapError (P := fun _ => True) (fun _ _ => trivial) fun _ _ _ h => nomatch h
  have hrow (assignments : List (Nat × Expr)) (row : Row) :
      ErrorsIn (BackendError.OfScope t.scope) (t.updatedRow parameters s.filter assignments row) := by
    rw [Table.updatedRow]
    have hfilter := Frame.errorsIn_satisfiesAll ⟨t.scope, parameters, row⟩ s.filter
    refine (hfilter.mapError fun e => BackendError.ofScope_evaluation).bind fun meant => ?_
    split
    · refine ErrorsIn.bind (.mapM fun assignment _ => ?_) fun cells => .ok _
      have hvalue := Frame.errorsIn_evaluate ⟨t.scope, parameters, row⟩ assignment.2
      exact (hvalue.mapError fun e => BackendError.ofScope_evaluation).bind fun v =>
        (hcell assignment.1 v).bind fun stored => .ok _
    · exact .ok none
  have hplan : ErrorsIn (BackendError.OfScope t.scope) (db.updatePlan parameters s) := by
    rw [Database.updatePlan, except_bind_of_ok ht]
    refine ErrorsIn.bind (.mapM fun assignment _ => (htarget _).bind fun i => .ok _) fun targets => ?_
    exact ErrorsIn.bind (.mapM fun row _ => (hrow targets row).bind fun new => .ok _) fun rows => .ok _
  rw [Database.update]
  split
  · next e he => exact .error (hplan e he)
  · exact .ok _

/-- A delete fails on a name only if the name does not resolve in its table. -/
theorem errorsIn_delete {s : Delete} (ht : db.table s.table = .ok t) (parameters : List Value) :
    ErrorsIn (BackendError.OfScope t.scope) (db.delete parameters s).1 := by
  have hplan : ErrorsIn (BackendError.OfScope t.scope) (db.deletePlan parameters s) := by
    rw [Database.deletePlan, except_bind_of_ok ht]
    split
    · exact .ok _
    · next e _ =>
      refine ErrorsIn.bind (ErrorsIn.mapError (errorsIn_keepRows (fun row => ?_) t.rows)
        fun e => BackendError.ofScope_evaluation) fun rows => .ok _
      exact (Frame.errorsIn_satisfies ⟨t.scope, parameters, row⟩ e).bind fun holds => .ok _
  rw [Database.delete]
  split
  · next e he => exact .error (hplan e he)
  · exact .ok _

/-! ## Qualified columns -/

/-- The error of a statement in which a qualified column is unknown. -/
def BackendError.unknownQualified (n c : String) : BackendError :=
  .evaluation (.name (.unknown (some n) c))

/-- A name of the table may stand in front of the column at position `i`: in every row it stands for the
cell of the column, and no statement about the table alone fails because the column is unknown. -/
structure Database.Qualifies (db : Database) (n c : String) (t : Table) (i : Nat) : Prop where
  /-- the cell is read -/
  reads : ∀ parameters, ∀ row ∈ t.rows, ∃ v, row[i]? = some v ∧
    Frame.evaluate ⟨t.scope, parameters, row⟩ (.qualified n c) = .ok v
  /-- in queries the column is known -/
  select : ∀ parameters (s : Select), s.tables = [n] →
    db.select parameters s ≠ .error (.unknownQualified n c)
  /-- in updates -/
  update : ∀ parameters (s : Update), s.table = n →
    (db.update parameters s).1 ≠ .error (.unknownQualified n c)
  /-- and in deletes -/
  delete : ∀ parameters (s : Delete), s.table = n →
    (db.delete parameters s).1 ≠ .error (.unknownQualified n c)

/-- A table is meant by the names that find it, if their letters past ASCII are in upper case. -/
theorem isMeant_iff (ht : db.table n = .ok t) :
    Scope.isMeant (some n) t.name = true ↔ Text.UpperPastAscii n := by
  rw [Scope.isMeant, Option.all_some, Database.name_of_find? (Database.find?_of_table ht), Database.key,
    Text.sameName_uppercased_self_iff]

/-- A name error is about the name that does not resolve. -/
theorem Scope.resolve_eq_unknown {s : Scope} {q : Option String} {c c' : String}
    (h : s.resolve q c = .error (.unknown (some n) c')) :
    s.resolve (some n) c' = .error (.unknown (some n) c') := by
  have hself := h
  rw [resolve] at hself
  split at hself
  · obtain ⟨rfl, rfl⟩ := NameError.unknown.inj (Except.error.inj hself)
    exact h
  · cases hself
  · cases hself

/-- With a letter past ASCII that is not in upper case, the column is unknown, whatever the row. -/
theorem Frame.evaluate_of_not_upper (ht : db.table n = .ok t) (hn : ¬ Text.UpperPastAscii n) {f : Frame}
    (hf : f.scope = t.scope) (c : String) :
    f.evaluate (.qualified n c) = .error (.name (.unknown (some n) c)) := by
  have hresolve : t.scope.resolve (some n) c = .error (.unknown (some n) c) := by
    rw [Scope.resolve, Scope.positions, Table.scope, Scope.positionsFrom,
      if_neg fun h => hn ((isMeant_iff ht).1 h)]
    rfl
  rw [evaluate, cell, hf, hresolve]

/-- Names whose letters past ASCII are in upper case may stand in front of a column. -/
theorem Database.qualifies_of_upper (hdb : db.WellTyped) (ht : db.table n = .ok t)
    (hn : Text.UpperPastAscii n) {c : String} {i : Nat} (hi : t.columnIndex? c = some i) :
    db.Qualifies n c t i := by
  have hresolve : t.scope.resolve (some n) c = .ok i :=
    (Table.resolve_scope ((isMeant_iff ht).2 hn)).2 hi
  have hknown : ¬ BackendError.OfScope t.scope (.unknownQualified n c) := by
    intro h
    obtain ⟨q, c', hq⟩ := h _ rfl
    cases hresolve.symm.trans (Scope.resolve_eq_unknown hq)
  have htables : [n].mapM db.table = .ok [t] := by
    rw [List.mapM_cons, ht]
    rfl
  refine ⟨fun parameters row hrow => ?_, ?_, ?_, ?_⟩
  · have hlength := (hdb t (table_eq_ok ht) row hrow).1
    have hlt : i < row.length := hlength ▸ Table.lt_of_columnIndex? hi
    refine ⟨row[i], List.getElem?_eq_getElem hlt, ?_⟩
    rw [Frame.evaluate, Frame.cell, hresolve]
    dsimp only
    rw [List.getElem?_eq_getElem hlt]
  · intro parameters s hs h
    have htable : s.tables.mapM db.table = .ok [t] := hs ▸ htables
    exact hknown (errorsIn_select htable parameters _ h)
  · intro parameters s hs h
    exact hknown (errorsIn_update (hs ▸ ht) parameters _ h)
  · intro parameters s hs h
    exact hknown (errorsIn_delete (hs ▸ ht) parameters _ h)

/-- `SELECT n.c FROM n`. -/
def Sql.Select.qualified (n c : String) : Select :=
  ⟨false, [.expr (.qualified n c)], [n], none, [], none⟩

/-- With a letter past ASCII that is not in upper case, a query for the column fails at the first row. -/
theorem select_of_not_upper (ht : db.table n = .ok t) (hn : ¬ Text.UpperPastAscii n) (hrows : t.rows ≠ [])
    (c : String) (parameters : List Value) :
    db.select parameters (.qualified n c) = .error (.unknownQualified n c) := by
  obtain ⟨row, rows, hcons⟩ := List.exists_cons_of_ne_nil hrows
  have htables : (Select.qualified n c).tables.mapM db.table = .ok [t] := by
    rw [Select.qualified, List.mapM_cons, ht]
    rfl
  have hkept : keepRows (fun row => Frame.satisfiesAll ⟨Scope.ofTables [t], parameters, row⟩
      (Select.qualified n c).filter) t.rows = .ok t.rows :=
    (keepRows_eq_filter (p := fun _ => true) fun _ _ => rfl).trans (by rw [List.filter_true])
  have hproject : projectRow (fun row => Frame.evaluate ⟨Scope.ofTables [t], parameters, row⟩)
      (Select.qualified n c).items row = .error (.name (.unknown (some n) c)) := by
    rw [projectRow, Select.qualified, List.mapM_cons, projectItem,
      Frame.evaluate_of_not_upper ht hn rfl]
    rfl
  have hselect : selectRows [t] parameters (.qualified n c) = .error (.name (.unknown (some n) c)) := by
    have hsorted : sortRows (fun row => Frame.evaluate ⟨Scope.ofTables [t], parameters, row⟩)
        (.qualified n c) t.rows = .ok t.rows := rfl
    rw [selectRows, joinRows_singleton, except_bind_of_ok hkept, except_bind_of_ok hsorted, hcons,
      takeRows, hproject]
    · rfl
    · simp [Select.qualified]
  rw [Database.select, except_bind_of_ok htables, hselect]
  rfl

/-- A name that finds a table may stand in front of a column of it if its letters past ASCII are in upper
case. With any other name, the column is unknown in every row, and a query for it fails if there is one. -/
theorem table_qualifies (hdb : db.WellTyped) (ht : db.table n = .ok t) {c : String} {i : Nat}
    (hi : t.columnIndex? c = some i) :
    (Text.UpperPastAscii n → db.Qualifies n c t i) ∧
      (¬ Text.UpperPastAscii n →
        (∀ parameters row, Frame.evaluate ⟨t.scope, parameters, row⟩ (.qualified n c) =
          .error (.name (.unknown (some n) c))) ∧
        (t.rows ≠ [] → ∀ parameters, db.select parameters (.qualified n c) =
          .error (.unknownQualified n c))) :=
  ⟨fun hn => Database.qualifies_of_upper hdb ht hn hi, fun hn =>
    ⟨fun _ _ => Frame.evaluate_of_not_upper ht hn rfl c, fun hrows => select_of_not_upper ht hn hrows c⟩⟩

/-- A table that is created as `straße`, which is longer in upper case. -/
def Database.street : Database := ⟨[⟨"STRASSE", [⟨"A", .integer⟩], [[.integer 1]]⟩], by decide⟩

theorem wellTyped_street : Database.street.WellTyped := by
  intro t ht
  obtain rfl := List.mem_singleton.1 ht
  decide

example :
    (Memory.reach [.create "straße" [⟨"A", .integer⟩],
      .execute "INSERT INTO straße (A) VALUES (1)"]).1.database = .street := by
  decide +kernel

/-- As `Strasse` it qualifies its column, as `straße` it does not. -/
theorem table_qualifies_street :
    ∃ t, Database.street.table "Strasse" = .ok t ∧ Database.street.table "straße" = .ok t ∧
      Database.street.Qualifies "Strasse" "a" t 0 ∧
      Database.street.select [] (.qualified "straße" "a") =
        .error (.unknownQualified "straße" "a") := by
  have hstrasse : Text.UpperPastAscii "Strasse" := by decide
  have hsharp : ¬ Text.UpperPastAscii "straße" := by decide
  refine ⟨⟨"STRASSE", [⟨"A", .integer⟩], [[.integer 1]]⟩, by rfl, by rfl, ?_, ?_⟩
  · exact (table_qualifies wellTyped_street rfl (by decide)).1 hstrasse
  · exact ((table_qualifies (i := 0) wellTyped_street rfl (by decide)).2 hsharp).2 (by decide) []

/-- A name may find a table in `FROM` and be unknown in front of its column: `straße` is an identifier, but
`SELECT straße.A FROM straße` fails. -/
theorem table_does_not_qualify :
    ¬ ∀ (db : Database) (n c : String) (t : Table) (i : Nat), db.WellTyped →
      tokenize n = [.identifier n] → db.table n = .ok t → t.columnIndex? c = some i →
      db.Qualifies n c t i := by
  intro h
  have hqualifies := h .street "straße" "A" _ 0 wellTyped_street (by decide +kernel) rfl (by decide)
  exact hqualifies.select [] (.qualified "straße" "A") rfl (by rfl)

end EntityQuery
