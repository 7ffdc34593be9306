import EntityQuery.Proofs.Sql.Parameters
import EntityQuery.Proofs.Sql.Reading
import EntityQuery.Proofs.Sql.Rendering

/-!
# Printing statements

The text of a statement. An expression is put in parentheses only where the grammar needs them:
`Expr.level` says how tightly it binds, and each place in a statement says how tightly an expression there
must bind at least.

* `Expr.tokens` and `Statement.tokens` are the tokens of a text, and `Statement.text` is the text.
* `Statement.Printable` says which statements have one: their lists are not empty, their names are bare,
  their literals are those that a numeral, a string or a word stands for, and what is selected and sorted
  by is a single value.
* `tokenize_text`: the text of a printable statement is read as its tokens.
-/

namespace EntityQuery

/-- A value that a literal stands for: a long only if it is no integer. -/
def Value.Printable : Value → Prop
  | .null | .boolean _ | .string _ | .integer _ => True
  | .long i => narrow? i.toInt = none
  | .double _ | .date _ | .blob _ => False

namespace Sql

open Reader

/-! ## Expressions -/

/-- A whole number as tokens, the sign apart. -/
def integerTokens (i : Int) : List Token :=
  (if i < 0 then [.symbol .minus] else []) ++ [.number (toString i.natAbs)]

/-- A literal as tokens. -/
def literalTokens : Value → List Token
  | .null => [.keyword .NULL]
  | .boolean b => [.keyword (if b then .TRUE else .FALSE)]
  | .string s => [.string s]
  | .integer i => integerTokens i.toInt
  | .long i => integerTokens i.toInt
  | .double _ | .date _ | .blob _ => []

/-- The escape character of a pattern as tokens. -/
def escapeTokens : Option Char → List Token
  | none => []
  | some c => [.keyword .ESCAPE, .string (String.singleton c)]

namespace Expr

/-- How tightly an expression binds: `OR` least, then `AND`, `NOT`, the tests, and single values. -/
def level : Expr → Nat
  | .or _ _ => 0
  | .and _ _ => 1
  | .not _ => 2
  | .compare _ _ _ | .inList _ _ _ | .like _ _ _ _ | .isNull _ _ => 3
  | .literal _ | .parameter _ | .column _ | .qualified _ _ => 4

/-- The tokens of an expression where only one may stand that binds as tightly as `least`: without
parentheses if it does, and with them if not. -/
def enclosed (e : Expr) (least : Nat) (tokens : List Token) : List Token :=
  if least ≤ e.level then tokens else .symbol .leftParen :: (tokens ++ [.symbol .rightParen])

theorem enclosed_of_le {e : Expr} {least : Nat} (h : least ≤ e.level) (ts : List Token) :
    e.enclosed least ts = ts := if_pos h

theorem enclosed_of_lt {e : Expr} {least : Nat} (h : e.level < least) (ts : List Token) :
    e.enclosed least ts = .symbol .leftParen :: (ts ++ [.symbol .rightParen]) :=
  if_neg (Nat.not_le.2 h)

mutual

/-- An expression as tokens. -/
def tokens : Expr → List Token
  | .literal v => literalTokens v
  | .parameter _ => [.symbol .placeholder]
  | .column name => [.identifier name]
  | .qualified table name => [.identifier table, .symbol .dot, .identifier name]
  | .compare op left right =>
    left.enclosed 4 left.tokens ++ .symbol (signOf op) :: right.enclosed 4 right.tokens
  | .and left right => left.enclosed 1 left.tokens ++ .keyword .AND :: right.enclosed 2 right.tokens
  | .or left right => left.enclosed 0 left.tokens ++ .keyword .OR :: right.enclosed 1 right.tokens
  | .not e => .keyword .NOT :: e.enclosed 2 e.tokens
  | .inList negated e items =>
    e.enclosed 4 e.tokens ++ (notTokens negated ++ .keyword .IN :: .symbol .leftParen ::
      (commaTokens (operandsTokens items) ++ [.symbol .rightParen]))
  | .like negated e pattern escape =>
    e.enclosed 4 e.tokens ++ (notTokens negated ++ .keyword .LIKE ::
      (pattern.enclosed 4 pattern.tokens ++ escapeTokens escape))
  | .isNull negated e =>
    e.enclosed 4 e.tokens ++ .keyword .IS :: (notTokens negated ++ [.keyword .NULL])

/-- Each of some operands as tokens. -/
def operandsTokens : List Expr → List (List Token)
  | [] => []
  | e :: es => e.enclosed 4 e.tokens :: operandsTokens es

end

/-- An operand as tokens. -/
def operandTokens (e : Expr) : List Token := e.enclosed 4 e.tokens

theorem operandsTokens_eq (es : List Expr) : operandsTokens es = es.map operandTokens := by
  induction es with
  | nil => rw [operandsTokens, List.map_nil]
  | cons e es ih => rw [operandsTokens, ih, List.map_cons, operandTokens]

mutual

/-- An expression that has a text. -/
def Printable : Expr → Prop
  | .literal v => v.Printable
  | .parameter _ => True
  | .column name => IsBare name
  | .qualified table name => IsBare table ∧ IsBare name
  | .compare _ left right | .and left right | .or left right => left.Printable ∧ right.Printable
  | .not e | .isNull _ e => e.Printable
  | .inList _ e items => e.Printable ∧ items ≠ [] ∧ AllPrintable items
  | .like _ e pattern _ => e.Printable ∧ pattern.Printable

/-- Expressions that each have a text. -/
def AllPrintable : List Expr → Prop
  | [] => True
  | e :: es => e.Printable ∧ AllPrintable es

end

end Expr

/-! ## Statements -/

/-- A selected item as tokens. -/
def SelectItem.tokens : SelectItem → List Token
  | .allColumns => [.symbol .star]
  | .expr e => e.tokens

/-- A sort key as tokens. -/
def OrderItem.tokens (o : OrderItem) : List Token :=
  o.expr.tokens ++ [.keyword (directionWord o.direction)]

/-- A condition as tokens. -/
def filterTokens : Option Expr → List Token
  | none => []
  | some e => .keyword .WHERE :: e.tokens

/-- Sort keys as tokens. -/
def orderingTokens : List OrderItem → List Token
  | [] => []
  | o :: os => .keyword .ORDER :: .keyword .BY :: commaTokens ((o :: os).map OrderItem.tokens)

/-- Names as tokens. -/
def nameListTokens (names : List String) : List Token := commaTokens (names.map fun n => [.identifier n])

/-- The columns of an insert as tokens. -/
def columnListTokens : Option (List String) → List Token
  | none => []
  | some names => .symbol .leftParen :: (nameListTokens names ++ [.symbol .rightParen])

/-- A row of values as tokens. -/
def rowTokens (row : List Expr) : List Token :=
  .symbol .leftParen :: (commaTokens (row.map Expr.operandTokens) ++ [.symbol .rightParen])

/-- An assignment as tokens. -/
def assignmentTokens (assignment : String × Expr) : List Token :=
  .identifier assignment.1 :: .symbol .equal :: assignment.2.operandTokens

/-- The word of a column type. -/
def typeWord : ColumnType → Keyword
  | .integer => .INTEGER
  | .bigint => .BIGINT
  | .double => .DOUBLE
  | .boolean => .BOOLEAN
  | .varchar => .VARCHAR
  | .blob => .BLOB
  | .date => .DATE

/-- A column with its type as tokens. -/
def columnTokens (column : String × ColumnType) : List Token :=
  [.identifier column.1, .keyword (typeWord column.2)]

/-- A statement as tokens. -/
def Statement.tokens : Statement → List Token
  | .select s =>
    .keyword .SELECT :: ((if s.distinct then [.keyword .DISTINCT] else []) ++
      (commaTokens (s.items.map SelectItem.tokens) ++ .keyword .FROM :: (nameListTokens s.tables ++
        (filterTokens s.filter ++ (orderingTokens s.order ++ limitTokens s.limit)))))
  | .insert s =>
    .keyword .INSERT :: .keyword .INTO :: .identifier s.table :: (columnListTokens s.columns ++
      .keyword .VALUES :: commaTokens (s.rows.map rowTokens))
  | .update s =>
    .keyword .UPDATE :: .identifier s.table :: .keyword .SET ::
      (commaTokens (s.assignments.map assignmentTokens) ++ filterTokens s.filter)
  | .delete s => .keyword .DELETE :: .keyword .FROM :: .identifier s.table :: filterTokens s.filter
  | .createTable s =>
    .keyword .CREATE :: .keyword .TABLE :: .identifier s.table :: .symbol .leftParen ::
      (commaTokens (s.columns.map columnTokens) ++ [.symbol .rightParen])

/-- The text of a statement. -/
def Statement.text (s : Statement) : String := String.ofList (render s.tokens)

/-- An item that has a text: all columns, or a single value. -/
def SelectItem.Printable : SelectItem → Prop
  | .allColumns => True
  | .expr e => e.level = 4 ∧ e.Printable

/-- A sort key that has a text. -/
def OrderItem.Printable (o : OrderItem) : Prop := o.expr.level = 4 ∧ o.expr.Printable

/-- A selection that has a text. -/
structure Select.Printable (s : Select) : Prop where
  items_ne : s.items ≠ []
  items : ∀ item ∈ s.items, item.Printable
  tables_ne : s.tables ≠ []
  tables : ∀ table ∈ s.tables, IsBare table
  filter : ∀ e ∈ s.filter, e.Printable
  order : ∀ o ∈ s.order, o.Printable
  /-- a row count fits into 64 bits -/
  limit : ∀ n ∈ s.limit, n < UInt64.size

/-- An insert that has a text. -/
structure Insert.Printable (s : Insert) : Prop where
  table : IsBare s.table
  columns_ne : ∀ names ∈ s.columns, names ≠ []
  columns : ∀ names ∈ s.columns, ∀ name ∈ names, IsBare name
  rows_ne : s.rows ≠ []
  row_ne : ∀ row ∈ s.rows, row ≠ []
  rows : ∀ row ∈ s.rows, ∀ e ∈ row, e.Printable

/-- An update that has a text. -/
structure Update.Printable (s : Update) : Prop where
  table : IsBare s.table
  assignments_ne : s.assignments ≠ []
  assignments : ∀ a ∈ s.assignments, IsBare a.1 ∧ a.2.Printable
  filter : ∀ e ∈ s.filter, e.Printable

/-- A delete that has a text. -/
structure Delete.Printable (s : Delete) : Prop where
  table : IsBare s.table
  filter : ∀ e ∈ s.filter, e.Printable

/-- A new table that has a text. -/
structure CreateTable.Printable (s : CreateTable) : Prop where
  table : IsBare s.table
  columns_ne : s.columns ≠ []
  columns : ∀ column ∈ s.columns, IsBare column.1

/-- A statement that has a text. -/
def Statement.Printable : Statement → Prop
  | .select s => s.Printable
  | .insert s => s.Printable
  | .update s => s.Printable
  | .delete s => s.Printable
  | .createTable s => s.Printable

/-! ## The tokens can be written -/

/-- Tokens that can be written. -/
def AllPlain (ts : List Token) : Prop := ∀ t ∈ ts, t.Plain

@[simp] theorem allPlain_nil : AllPlain [] := by simp [AllPlain]

@[simp] theorem allPlain_cons {t : Token} {ts : List Token} :
    AllPlain (t :: ts) ↔ t.Plain ∧ AllPlain ts := List.forall_mem_cons

@[simp] theorem allPlain_append {ts us : List Token} :
    AllPlain (ts ++ us) ↔ AllPlain ts ∧ AllPlain us := List.forall_mem_append

@[simp] theorem plain_keyword (w : Keyword) : (Token.keyword w).Plain := trivial

@[simp] theorem plain_symbol (s : Symbol) : (Token.symbol s).Plain := trivial

@[simp] theorem plain_string (text : String) : (Token.string text).Plain := trivial

@[simp] theorem plain_identifier {name : String} : (Token.identifier name).Plain ↔ IsBare name := .rfl

/-- The digits of a number can be written. -/
@[simp] theorem plain_number (n : Nat) : (Token.number n.repr).Plain := by
  have htext : n.repr.toList = Nat.toDigits 10 n := String.toList_ofList
  rw [Token.Plain, htext]
  exact ⟨Nat.toDigits_ne_nil, fun c hc => Nat.isDigit_of_mem_toDigits (by decide) (by decide) hc⟩

theorem allPlain_commaTokens {items : List (List Token)} (h : ∀ ts ∈ items, AllPlain ts) :
    AllPlain (commaTokens items) := by
  induction items with
  | nil => exact allPlain_nil
  | cons ts items ih =>
    obtain ⟨hts, hitems⟩ := List.forall_mem_cons.1 h
    cases items with
    | nil => rwa [commaTokens_singleton]
    | cons us items =>
      rw [commaTokens_cons, allPlain_append, allPlain_cons]
      exact ⟨hts, plain_symbol _, ih hitems⟩

/-- The same for lists whose items are written one by one. -/
theorem allPlain_commaTokens_map {α : Type} {tokens : α → List Token} {xs : List α}
    (h : ∀ x ∈ xs, AllPlain (tokens x)) : AllPlain (commaTokens (xs.map tokens)) :=
  allPlain_commaTokens (List.forall_mem_map.2 h)

theorem allPlain_integer (i : Int) : AllPlain (integerTokens i) := by
  unfold integerTokens
  split <;> simp

theorem allPlain_literal (v : Value) : AllPlain (literalTokens v) := by
  cases v <;> simp [literalTokens, allPlain_integer]

theorem allPlain_not (negated : Bool) : AllPlain (notTokens negated) := by
  cases negated <;> simp [notTokens]

theorem allPlain_escape (escape : Option Char) : AllPlain (escapeTokens escape) := by
  cases escape <;> simp [escapeTokens]

theorem Expr.allPlain_enclosed {e : Expr} {ts : List Token} (least : Nat) (h : AllPlain ts) :
    AllPlain (e.enclosed least ts) := by
  unfold Expr.enclosed
  split
  · exact h
  · simp [h]

mutual

/-- Every token of a printable expression can be written. -/
theorem Expr.allPlain_tokens : ∀ e : Expr, e.Printable → AllPlain e.tokens
  | .literal v, _ => by
    rw [Expr.tokens]
    exact allPlain_literal v
  | .parameter _, _ => by simp [Expr.tokens]
  | .column _, h => by simpa [Expr.tokens, Expr.Printable] using h
  | .qualified _ _, h => by simpa [Expr.tokens, Expr.Printable] using h
  | .compare _ left right, h | .and left right, h | .or left right, h => by
    rw [Expr.Printable] at h
    have hleft := left.allPlain_tokens h.1
    have hright := right.allPlain_tokens h.2
    simp [Expr.tokens, allPlain_enclosed, hleft, hright]
  | .not e, h | .isNull _ e, h => by
    rw [Expr.Printable] at h
    have he := e.allPlain_tokens h
    simp [Expr.tokens, allPlain_enclosed, allPlain_not, he]
  | .inList _ e items, h => by
    rw [Expr.Printable] at h
    have he := e.allPlain_tokens h.1
    have hitems := allPlain_commaTokens (Expr.allPlain_operands items h.2.2)
    simp [Expr.tokens, allPlain_enclosed, allPlain_not, he, hitems]
  | .like _ e pattern _, h => by
    rw [Expr.Printable] at h
    have he := e.allPlain_tokens h.1
    have hpattern := pattern.allPlain_tokens h.2
    simp [Expr.tokens, allPlain_enclosed, allPlain_not, allPlain_escape, he, hpattern]

theorem Expr.allPlain_operands : ∀ es : List Expr, Expr.AllPrintable es →
    ∀ ts ∈ Expr.operandsTokens es, AllPlain ts
  | [], _ => by simp [Expr.operandsTokens]
  | e :: es, h => by
    rw [Expr.AllPrintable] at h
    rw [Expr.operandsTokens]
    exact List.forall_mem_cons.2
      ⟨Expr.allPlain_enclosed 4 (e.allPlain_tokens h.1), Expr.allPlain_operands es h.2⟩

end

theorem allPlain_filter {filter : Option Expr} (h : ∀ e ∈ filter, e.Printable) :
    AllPlain (filterTokens filter) := by
  cases filter with
  | none => exact allPlain_nil
  | some e => exact allPlain_cons.2 ⟨plain_keyword _, e.allPlain_tokens (h e rfl)⟩

theorem allPlain_ordering {order : List OrderItem} (h : ∀ o ∈ order, o.Printable) :
    AllPlain (orderingTokens order) := by
  have hitem (o : OrderItem) (ho : o ∈ order) : AllPlain o.tokens := by
    have hexpr := o.expr.allPlain_tokens (h o ho).2
    simp [OrderItem.tokens, hexpr]
  cases order with
  | nil => exact allPlain_nil
  | cons o os =>
    have hitems := allPlain_commaTokens_map hitem
    simp [orderingTokens, - List.map_cons, hitems]

theorem allPlain_nameList {names : List String} (h : ∀ name ∈ names, IsBare name) :
    AllPlain (nameListTokens names) :=
  allPlain_commaTokens_map fun name hname => by simpa using h name hname

theorem allPlain_limit (top : Option Nat) : AllPlain (limitTokens top) := by
  cases top <;> simp [limitTokens]

theorem SelectItem.allPlain_tokens {item : SelectItem} (h : item.Printable) : AllPlain item.tokens := by
  cases item with
  | allColumns => simp [SelectItem.tokens]
  | expr e => exact e.allPlain_tokens h.2

theorem allPlain_columnList {columns : Option (List String)}
    (h : ∀ names ∈ columns, ∀ name ∈ names, IsBare name) : AllPlain (columnListTokens columns) := by
  cases columns with
  | none => exact allPlain_nil
  | some names => simp [columnListTokens, allPlain_nameList (h names rfl)]

theorem allPlain_row {row : List Expr} (h : ∀ e ∈ row, e.Printable) : AllPlain (rowTokens row) := by
  have hoperand (e : Expr) (he : e ∈ row) : AllPlain e.operandTokens :=
    Expr.allPlain_enclosed 4 (e.allPlain_tokens (h e he))
  simp [rowTokens, allPlain_commaTokens_map hoperand]

/-- Every token of a printable statement can be written. -/
theorem Statement.allPlain_tokens {s : Statement} (h : s.Printable) : AllPlain s.tokens := by
  cases s with
  | select s =>
    have hdistinct : AllPlain (if s.distinct then [.keyword .DISTINCT] else []) := by
      split <;> simp
    have hitems := allPlain_commaTokens_map fun item hitem =>
      SelectItem.allPlain_tokens (h.items item hitem)
    simp [Statement.tokens, hdistinct, hitems, allPlain_nameList h.tables, allPlain_filter h.filter,
      allPlain_ordering h.order, allPlain_limit]
  | insert s =>
    have hrows := allPlain_commaTokens_map fun row hrow => allPlain_row (h.rows row hrow)
    simp [Statement.tokens, h.table, allPlain_columnList h.columns, hrows]
  | update s =>
    have hassignment (a : String × Expr) (ha : a ∈ s.assignments) : AllPlain (assignmentTokens a) := by
      obtain ⟨hname, hvalue⟩ := h.assignments a ha
      have htokens : AllPlain a.2.operandTokens := Expr.allPlain_enclosed 4 (a.2.allPlain_tokens hvalue)
      simp [assignmentTokens, hname, htokens]
    have hassignments := allPlain_commaTokens_map hassignment
    simp [Statement.tokens, h.table, hassignments, allPlain_filter h.filter]
  | delete s => simp [Statement.tokens, h.table, allPlain_filter h.filter]
  | createTable s =>
    have hcolumn (column : String × ColumnType) (hcolumn : column ∈ s.columns) :
        AllPlain (columnTokens column) := by
      simp [columnTokens, h.columns column hcolumn]
    have hcolumns := allPlain_commaTokens_map hcolumn
    simp [Statement.tokens, h.table, hcolumns]

/-- The text of a printable statement is read as its tokens. -/
theorem tokenize_text {s : Statement} (h : s.Printable) : tokenize s.text = s.tokens :=
  tokenize_render (Statement.allPlain_tokens h)

/-- The same with a semicolon behind the text. -/
theorem tokenize_text_semicolon {s : Statement} (h : s.Printable) :
    tokenize (s.text ++ ";") = s.tokens ++ [.symbol .semicolon] := by
  have hne : s.tokens ≠ [] := by
    cases s <;> simp [Statement.tokens]
  have htext : s.text ++ ";" = String.ofList (render (s.tokens ++ [.symbol .semicolon])) := by
    rw [render_semicolon hne, String.ofList_append]
    rfl
  rw [htext]
  exact tokenize_render (allPlain_append.2 ⟨Statement.allPlain_tokens h, by simp⟩)

end Sql

end EntityQuery
