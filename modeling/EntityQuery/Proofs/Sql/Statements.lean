import EntityQuery.Proofs.Sql.Expressions

/-!
# Printed statements are parsed

The clauses of a statement are read one behind the other: each lemma on a clause says what it reads, and
what may stand behind it. A statement is printed without a parenthesis too many, and none is missing, for
its text is parsed as the statement itself.

* `Statement.reads`: the tokens of a printable statement are read as the statement.
* `parse_text`: the text of a printable statement whose parameters are numbered in order is parsed as the
  statement with the number of its parameters, with a semicolon behind it and without one.
-/

namespace EntityQuery.Sql

open Reader

/-! ## What may follow a clause -/

/-- A statement ends with the text, or in front of a semicolon. -/
def EndsStatement (found : Option Token) : Prop := found = none ∨ found = some (.symbol .semicolon)

/-- A limit may stand behind sort keys. -/
def EndsOrdering (found : Option Token) : Prop :=
  EndsStatement found ∨ found = some (.keyword .LIMIT)

/-- Sort keys or a limit may stand behind a condition. -/
def EndsFilter (found : Option Token) : Prop :=
  EndsOrdering found ∨ found = some (.keyword .ORDER)

/-- A condition may stand behind a list. -/
def EndsList (found : Option Token) : Prop := EndsFilter found ∨ found = some (.keyword .WHERE)

theorem EndsStatement.not_limit {found : Option Token} (h : EndsStatement found) :
    found ≠ some (.keyword .LIMIT) := by
  rcases h with rfl | rfl <;> decide

theorem EndsOrdering.not_order {found : Option Token} (h : EndsOrdering found) :
    found ≠ some (.keyword .ORDER) ∧ found ≠ some (.symbol .comma) := by
  rcases h with (rfl | rfl) | rfl <;> decide

theorem EndsFilter.not_where {found : Option Token} (h : EndsFilter found) :
    found ≠ some (.keyword .WHERE) ∧ EndsExpression found := by
  rcases h with ((rfl | rfl) | rfl) | rfl <;> decide

theorem EndsList.noComma {found : Option Token} (h : EndsList found) : NoComma EndsOperand found := by
  rcases h with (((rfl | rfl) | rfl) | rfl) | rfl <;> exact ⟨by decide, by decide⟩

theorem endsOrdering_limit (top : Option Nat) {rest : List Token} (h : EndsStatement rest.head?) :
    EndsOrdering (limitTokens top ++ rest).head? := by
  cases top with
  | none => exact .inl h
  | some n => exact .inr rfl

theorem endsFilter_ordering (order : List OrderItem) {rest : List Token} (h : EndsOrdering rest.head?) :
    EndsFilter (orderingTokens order ++ rest).head? := by
  cases order with
  | nil => exact .inl h
  | cons o os => exact .inr rfl

theorem endsList_filter (filter : Option Expr) {rest : List Token} (h : EndsFilter rest.head?) :
    EndsList (filterTokens filter ++ rest).head? := by
  cases filter with
  | none => exact .inl h
  | some e => exact .inr rfl

/-! ## Clauses -/

section Clauses

variable {limit : Nat}

theorem yields_names {names : List String} (hne : names ≠ [])
    (hlimit : (nameListTokens names).length ≤ limit) :
    Yields (commaList name limit) (nameListTokens names) names [] (NoComma Anywhere) := by
  have hread := yields_commaList hne hlimit trivial fun n _ => yields_name n
  rwa [List.flatMap_eq_nil_iff.2 fun _ _ => rfl] at hread

theorem yields_filter {filter : Option Expr} (h : ∀ e ∈ filter, e.Printable)
    (hlimit : (filterTokens filter).length ≤ limit) :
    Yields (Reader.filter limit) (filterTokens filter) filter (filterParameters filter) EndsFilter := by
  cases filter with
  | none =>
    rw [Reader.filter]
    exact (yields_accept_miss _).bind (yields_pure none) fun _ h => h.not_where.1
  | some e =>
    rw [filterTokens, List.length_cons] at hlimit
    obtain ⟨m, rfl⟩ : ∃ m, limit = m + 1 := ⟨limit - 1, by omega⟩
    have hread := (e.reads (h e rfl)).expression (Nat.le_of_succ_le_succ hlimit)
    rw [Reader.filter]
    exact (yields_accept _).bind ((hread.weaken fun _ h => h.not_where.2).map some) fun _ _ => trivial

/-- What is read as a single value is read as an item. -/
theorem selectItem_of_primary {input input' : Input} {e : Expr}
    (h : primary input = .ok (e, input')) : selectItem input = .ok (.expr e, input') := by
  rcases input with ⟨tokens, k⟩
  have hstar : tokens.head? ≠ some (.symbol .star) := by
    intro hstar
    rw [primary, bind_of_read peek_apply, hstar] at h
    cases h
  rw [selectItem, bind_of_read (acceptSign_miss hstar)]
  simp only [Bool.false_eq_true, if_false]
  rw [bind_of_read h, Reader.pure_apply]

theorem yields_selectItem {item : SelectItem} (h : item.Printable) :
    Yields selectItem item.tokens item item.parameters EndsOperand := by
  cases item with
  | allColumns =>
    exact fun k rest _ _ => rfl
  | expr e =>
    have hread := (e.reads h.2).primary (Nat.le_of_eq h.1.symm)
    exact fun k rest hk hrest => selectItem_of_primary (hread k rest hk hrest)

theorem yields_orderItem {o : OrderItem} (h : o.Printable) :
    Yields orderItem o.tokens o o.expr.parameters Anywhere := by
  intro k rest hk _
  have hread := (o.expr.reads h.2).primary (Nat.le_of_eq h.1.symm)
  have hword : EndsOperand (some (.keyword (directionWord o.direction))) := by simp [EndsOperand]
  rw [OrderItem.tokens, List.append_assoc]
  exact orderItem_of_primary (hread k _ hk hword)

theorem yields_ordering {order : List OrderItem} (h : ∀ o ∈ order, o.Printable)
    (hlimit : (orderingTokens order).length ≤ limit) :
    Yields (ordering limit) (orderingTokens order) order (order.flatMap (·.expr.parameters))
      EndsOrdering := by
  cases order with
  | nil =>
    rw [ordering]
    exact (yields_accept_miss _).bind (yields_pure []) fun _ h => h.not_order.1
  | cons o os =>
    rw [orderingTokens, List.length_cons, List.length_cons] at hlimit
    have hlength : (commaTokens ((o :: os).map OrderItem.tokens)).length ≤ limit := by omega
    have hitems := yields_commaList (List.cons_ne_nil o os) hlength trivial
      fun o ho => yields_orderItem (h o ho)
    rw [ordering]
    exact (yields_accept _).bind ((yields_expect _).bind
      (hitems.weaken fun _ h => ⟨trivial, h.not_order.2⟩) fun _ _ => trivial) fun _ _ => trivial

theorem yields_rowLimit {top : Option Nat} (h : ∀ n ∈ top, n < UInt64.size) :
    Yields rowLimit (limitTokens top) top [] EndsStatement :=
  fun k _ _ hrest => rowLimit_reads h hrest.not_limit k

/-- The columns of an insert, which `VALUES` stands behind. -/
theorem yields_columnList {columns : Option (List String)} (hne : ∀ names ∈ columns, names ≠ [])
    (hlimit : (columnListTokens columns).length ≤ limit) :
    Yields (columnList limit) (columnListTokens columns) columns [] (· ≠ some (.symbol .leftParen)) := by
  cases columns with
  | none =>
    rw [columnList]
    exact (yields_accept_miss _).bind (yields_pure none) fun _ h => h
  | some names =>
    rw [columnListTokens, List.length_cons, List.length_append] at hlimit
    have hnames := yields_names (hne names rfl) (show (nameListTokens names).length ≤ limit by omega)
    rw [columnList]
    exact ((yields_accept _).bind (hnames.bind_expect ⟨trivial, by decide⟩ some)
      fun _ _ => trivial).weaken fun _ _ => trivial

theorem yields_row {row : List Expr} (hne : row ≠ []) (h : ∀ e ∈ row, e.Printable)
    (hlimit : (rowTokens row).length ≤ limit) :
    Yields (valueRow limit) (rowTokens row) row (Expr.listParameters row) Anywhere := by
  rw [rowTokens, List.length_cons, List.length_append] at hlimit
  have hlength : (commaTokens (row.map Expr.operandTokens)).length ≤ limit := by omega
  have hvalues := yields_commaList hne hlength (by decide) fun e he =>
    (e.reads (h e he)).operand
      ((length_le_of_mem_commaTokens (List.mem_map_of_mem he)).trans hlength)
  rw [valueRow, listParameters_eq]
  exact (yields_expect _).bind (hvalues.bind_expect ⟨by decide, by decide⟩ id) fun _ _ => trivial

theorem yields_assignment {a : String × Expr} (h : a.2.Printable)
    (hlimit : (assignmentTokens a).length ≤ limit) :
    Yields (assignment limit) (assignmentTokens a) a a.2.parameters EndsOperand := by
  rw [assignmentTokens, List.length_cons, List.length_cons] at hlimit
  have hvalue := (a.2.reads h).operand (show a.2.operandTokens.length ≤ limit by omega)
  rw [assignment]
  exact (yields_name a.1).bind ((yields_expect _).bind (hvalue.map (Prod.mk a.1)) fun _ _ => trivial)
    fun _ _ => trivial

/-- The type of a column, behind which no length is written. -/
theorem columnType_reads (type : ColumnType) {rest : List Token} {k : Nat}
    (hrest : rest.head? ≠ some (.symbol .leftParen)) :
    columnType ⟨.keyword (typeWord type) :: rest, k⟩ = .ok (type, ⟨rest, k⟩) := by
  cases type with
  | varchar =>
    have hskip : skip ⟨.keyword .VARCHAR :: rest, k⟩ = .ok ((), ⟨rest, k⟩) := rfl
    rw [typeWord, columnType, bind_of_read peek_apply]
    change (skip >>= _) _ = _
    rw [bind_of_read hskip]
    simp only [if_true]
    rw [bind_of_read (acceptSign_miss hrest)]
    rfl
  | _ => rfl

theorem yields_columnDef (column : String × ColumnType) :
    Yields columnDef (columnTokens column) column [] (· ≠ some (.symbol .leftParen)) := by
  have htype : Yields columnType [.keyword (typeWord column.2)] column.2 []
      (· ≠ some (.symbol .leftParen)) := fun _ _ _ hrest => columnType_reads column.2 hrest
  rw [columnDef]
  exact (yields_name column.1).bind (htype.map (Prod.mk column.1)) fun _ _ => trivial

end Clauses

/-! ## Statements -/

theorem integerTokens_head (i : Int) (rest : List Token) (w : Keyword) :
    (integerTokens i ++ rest).head? ≠ some (.keyword w) := by
  rw [integerTokens]
  split <;> simp

/-- No item starts with `DISTINCT`. -/
theorem SelectItem.head_tokens {item : SelectItem} (h : item.Printable) (rest : List Token) :
    (item.tokens ++ rest).head? ≠ some (.keyword .DISTINCT) := by
  cases item with
  | allColumns => simp [SelectItem.tokens]
  | expr e =>
    obtain ⟨hlevel, hprintable⟩ := h
    rw [SelectItem.tokens]
    cases e with
    | literal v =>
      rw [Expr.tokens]
      cases v with
      | null | string s => simp [literalTokens]
      | boolean b => cases b <;> simp [literalTokens]
      | integer i => exact integerTokens_head i.toInt rest _
      | long i => exact integerTokens_head i.toInt rest _
      | double d | date d | blob b => exact hprintable.elim
    | parameter n | column n | qualified t n => simp [Expr.tokens]
    | compare op l r | and l r | or l r | not e | inList n e es | like n e p c | isNull n e =>
      simp [Expr.level] at hlevel

/-- A list starts with its first item. -/
theorem commaTokens_append (ts : List Token) (items : List (List Token)) (rest : List Token) :
    ∃ others, commaTokens (ts :: items) ++ rest = ts ++ others := by
  cases items with
  | nil => exact ⟨rest, by rw [commaTokens_singleton]⟩
  | cons us items => exact ⟨_, by rw [commaTokens_cons, List.append_assoc]⟩

section Statements

variable {limit : Nat}

theorem yields_distinct (distinct : Bool) :
    Yields (acceptWord .DISTINCT) (if distinct then [.keyword .DISTINCT] else []) distinct []
      (· ≠ some (.keyword .DISTINCT)) := by
  cases distinct with
  | true => exact (yields_accept _).weaken fun _ _ => trivial
  | false => exact yields_accept_miss _

theorem Select.reads {s : Select} (h : s.Printable)
    (hlimit : (Statement.select s).tokens.length ≤ limit) :
    Yields (statement limit) (Statement.select s).tokens (.select s) (Statement.select s).parameters
      EndsStatement := by
  have hparameters : (Statement.select s).parameters = [] ++ (s.items.flatMap SelectItem.parameters ++
      ([] ++ ([] ++ (filterParameters s.filter ++ (s.order.flatMap (·.expr.parameters) ++ []))))) := by
    simp [Statement.parameters]
  rw [Statement.tokens] at hlimit ⊢
  simp only [List.length_append, List.length_cons] at hlimit
  have hlength : (commaTokens (s.items.map SelectItem.tokens)).length ≤ limit := by omega
  have hitems := yields_commaList h.items_ne hlength (by decide) fun item hitem =>
    yields_selectItem (h.items item hitem)
  have hnames := yields_names h.tables_ne (show (nameListTokens s.tables).length ≤ limit by omega)
  have hfilter := yields_filter h.filter (show (filterTokens s.filter).length ≤ limit by omega)
  have horder := yields_ordering h.order (show (orderingTokens s.order).length ≤ limit by omega)
  have hfirst (rest : List Token) :
      (commaTokens (s.items.map SelectItem.tokens) ++ rest).head? ≠ some (.keyword .DISTINCT) := by
    obtain ⟨item, items, hs⟩ := List.exists_cons_of_ne_nil h.items_ne
    obtain ⟨others, hothers⟩ := commaTokens_append item.tokens (items.map SelectItem.tokens) rest
    rw [hs, List.map_cons, hothers]
    exact SelectItem.head_tokens (h.items item (hs ▸ List.mem_cons_self)) others
  have hfrom : NoComma EndsOperand (some (.keyword .FROM)) := ⟨by decide, by decide⟩
  rw [hparameters]
  refine Yields.of_token ?_ fun _ _ => statement_select
  rw [select]
  refine (yields_distinct s.distinct).bind ?_ fun rest _ => List.append_assoc _ _ rest ▸ hfirst _
  refine hitems.bind ?_ fun _ _ => hfrom
  refine (yields_expect _).bind ?_ fun _ _ => trivial
  refine hnames.bind ?_ fun rest hrest => ?_
  · refine hfilter.bind ?_ fun rest hrest => ?_
    · exact horder.bind ((yields_rowLimit h.limit).map _) fun rest hrest =>
        endsOrdering_limit s.limit hrest
    · rw [List.append_assoc]
      exact endsFilter_ordering s.order (endsOrdering_limit s.limit hrest)
  · rw [List.append_assoc, List.append_assoc]
    exact ⟨trivial, (endsList_filter s.filter
      (endsFilter_ordering s.order (endsOrdering_limit s.limit hrest))).noComma.2⟩

theorem Insert.reads {s : Insert} (h : s.Printable)
    (hlimit : (Statement.insert s).tokens.length ≤ limit) :
    Yields (statement limit) (Statement.insert s).tokens (.insert s) (Statement.insert s).parameters
      EndsStatement := by
  have hparameters : (Statement.insert s).parameters =
      [] ++ ([] ++ ([] ++ ([] ++ s.rows.flatMap Expr.listParameters))) := rfl
  rw [Statement.tokens] at hlimit ⊢
  simp only [List.length_append, List.length_cons] at hlimit
  have hcolumns := yields_columnList h.columns_ne
    (show (columnListTokens s.columns).length ≤ limit by omega)
  have hlength : (commaTokens (s.rows.map rowTokens)).length ≤ limit := by omega
  have hrows := yields_commaList h.rows_ne hlength trivial fun row hrow =>
    yields_row (h.row_ne row hrow) (h.rows row hrow)
      ((length_le_of_mem_commaTokens (List.mem_map_of_mem hrow)).trans hlength)
  have hword : some (Token.keyword .VALUES) ≠ some (.symbol .leftParen) := by decide
  rw [hparameters]
  refine Yields.of_token ?_ fun _ _ => statement_insert
  rw [Reader.insert]
  refine (yields_expect _).bind ?_ fun _ _ => trivial
  refine (yields_name s.table).bind ?_ fun _ _ => trivial
  refine hcolumns.bind ?_ fun _ _ => hword
  refine (yields_expect _).bind ?_ fun _ _ => trivial
  exact (hrows.map _).weaken fun _ hrest => ⟨trivial, (EndsList.noComma (.inl (.inl (.inl hrest)))).2⟩

theorem Update.reads {s : Update} (h : s.Printable)
    (hlimit : (Statement.update s).tokens.length ≤ limit) :
    Yields (statement limit) (Statement.update s).tokens (.update s) (Statement.update s).parameters
      EndsStatement := by
  have hparameters : (Statement.update s).parameters =
      [] ++ ([] ++ (s.assignments.flatMap (·.2.parameters) ++ filterParameters s.filter)) := rfl
  rw [Statement.tokens] at hlimit ⊢
  simp only [List.length_append, List.length_cons] at hlimit
  have hlength : (commaTokens (s.assignments.map assignmentTokens)).length ≤ limit := by omega
  have hassignments := yields_commaList h.assignments_ne hlength (by decide) fun a ha =>
    yields_assignment (h.assignments a ha).2
      ((length_le_of_mem_commaTokens (List.mem_map_of_mem ha)).trans hlength)
  have hfilter := yields_filter h.filter (show (filterTokens s.filter).length ≤ limit by omega)
  rw [hparameters]
  refine Yields.of_token ?_ fun _ _ => statement_update
  rw [update]
  refine (yields_name s.table).bind ?_ fun _ _ => trivial
  refine (yields_expect _).bind ?_ fun _ _ => trivial
  refine hassignments.bind ((hfilter.map _).weaken fun _ h => .inl (.inl h)) fun rest hrest => ?_
  exact (endsList_filter s.filter (.inl (.inl hrest))).noComma

theorem Delete.reads {s : Delete} (h : s.Printable)
    (hlimit : (Statement.delete s).tokens.length ≤ limit) :
    Yields (statement limit) (Statement.delete s).tokens (.delete s) (Statement.delete s).parameters
      EndsStatement := by
  have hparameters : (Statement.delete s).parameters = [] ++ ([] ++ filterParameters s.filter) := rfl
  rw [Statement.tokens] at hlimit ⊢
  simp only [List.length_cons] at hlimit
  have hfilter := yields_filter h.filter (show (filterTokens s.filter).length ≤ limit by omega)
  rw [hparameters]
  refine Yields.of_token ?_ fun _ _ => statement_delete
  rw [delete]
  refine (yields_expect _).bind ?_ fun _ _ => trivial
  refine (yields_name s.table).bind ?_ fun _ _ => trivial
  exact (hfilter.map _).weaken fun _ hrest => .inl (.inl hrest)

theorem CreateTable.reads {s : CreateTable} (h : s.Printable)
    (hlimit : (Statement.createTable s).tokens.length ≤ limit) :
    Yields (statement limit) (Statement.createTable s).tokens (.createTable s) [] EndsStatement := by
  rw [Statement.tokens] at hlimit ⊢
  simp only [List.length_append, List.length_cons] at hlimit
  have hlength : (commaTokens (s.columns.map columnTokens)).length ≤ limit := by omega
  have hcolumns := yields_commaList h.columns_ne hlength (by decide)
    fun column _ => yields_columnDef column
  rw [List.flatMap_eq_nil_iff.2 fun _ _ => rfl] at hcolumns
  refine Yields.of_token ?_ fun _ _ => statement_create
  rw [createTable]
  refine (yields_expect _).bind ?_ fun _ _ => trivial
  refine (yields_name s.table).bind ?_ fun _ _ => trivial
  refine (yields_expect _).bind ?_ fun _ _ => trivial
  exact (hcolumns.bind_expect ⟨by decide, by decide⟩ _).weaken fun _ _ => trivial

/-- The tokens of a printable statement are read as the statement. -/
theorem Statement.reads {s : Statement} (h : s.Printable) (hlimit : s.tokens.length ≤ limit) :
    Yields (statement limit) s.tokens s s.parameters EndsStatement := by
  cases s with
  | select s => exact Select.reads h hlimit
  | insert s => exact Insert.reads h hlimit
  | update s => exact Update.reads h hlimit
  | delete s => exact Delete.reads h hlimit
  | createTable s => exact CreateTable.reads h hlimit

end Statements

/-! ## Texts -/

/-- The text of a printable statement is parsed as the statement, with a semicolon and without one. -/
theorem parse_text {s : Statement} (h : s.Printable)
    (hnumbered : s.parameters = List.range' 1 s.parameters.length) :
    parse s.text = .ok ⟨s, s.parameters.length⟩ ∧
      parse (s.text ++ ";") = .ok ⟨s, s.parameters.length⟩ := by
  have hread {rest : List Token} (hrest : rest = [] ∨ rest = [.symbol .semicolon]) :
      whole (s.tokens ++ rest).length ⟨s.tokens ++ rest, 0⟩ =
        .ok (s, ⟨[], 0 + s.parameters.length⟩) := by
    have hlimit : s.tokens.length ≤ (s.tokens ++ rest).length := by simp
    have hends : EndsStatement rest.head? := by
      rcases hrest with rfl | rfl
      · exact .inl rfl
      · exact .inr rfl
    exact whole_of_statement (Statement.reads h hlimit 0 rest hnumbered hends) hrest
  have hplain := hread (.inl rfl)
  have hsemicolon := hread (.inr rfl)
  rw [List.append_nil, Nat.zero_add] at hplain
  rw [Nat.zero_add] at hsemicolon
  exact ⟨parse_of_whole (tokenize_text h) hplain, parse_of_whole (tokenize_text_semicolon h) hsemicolon⟩

/-- A statement with expressions of every level. -/
def nestedDelete : Statement :=
  .delete
    { table := "person"
      filter := some
        (.and
          (.not (.inList true (.column "id") [.parameter 1, .literal (.integer (-2147483648))]))
          (.or (.like true (.qualified "person" "name") (.literal (.string "it's")) (some '!'))
            (.compare .notEqual (.not (.parameter 2)) (.literal (.boolean true))))) }

/-- A `NOT` in front of an expression and one inside a test, next to each other. -/
theorem parse_nestedDelete :
    nestedDelete.text = "DELETE FROM person WHERE NOT id NOT IN (?, -2147483648) AND " ++
      "(person.name NOT LIKE 'it''s' ESCAPE '!' OR (NOT ?) <> TRUE)" ∧
    parse nestedDelete.text = .ok ⟨nestedDelete, 2⟩ ∧
      parse (nestedDelete.text ++ ";") = .ok ⟨nestedDelete, 2⟩ := by
  have hperson : IsBare "person" := ⟨by decide, rfl⟩
  have hid : IsBare "id" := ⟨by decide, rfl⟩
  have hname : IsBare "name" := ⟨by decide, rfl⟩
  have hprintable : nestedDelete.Printable := by
    refine ⟨hperson, fun e he => ?_⟩
    obtain rfl := Option.some.inj he
    simp [Expr.Printable, Expr.AllPrintable, Value.Printable, hperson, hid, hname]
  exact ⟨by decide, parse_text hprintable rfl⟩

end EntityQuery.Sql
