import EntityQuery.Sql.Lexer
import EntityQuery.Sql.Numeral
import EntityQuery.Sql.Statement

/-!
# Reading SQL statements

A `Reader` takes tokens from the front of its input and counts the parameters it has met. Expressions
bind, from the loosest to the tightest: `OR`, `AND`, `NOT`, then comparisons, `IN`, `LIKE` and
`IS NULL`; `AND` and `OR` group to the left. The operands of a comparison are single values or
expressions in parentheses.

An expression may nest, and a list may go on, only as long as there are tokens, so readers that
repeat take the number of tokens as a limit. `parse` gives the whole text its own number of tokens,
which no statement exceeds.
-/

namespace EntityQuery.Sql

/-- Why a text is no statement. `found` is the token in the way, none at the end of the text. -/
inductive ParseError where
  /-- no statement starts like this -/
  | noStatement (found : Option Token)
  /-- the text goes on after the statement -/
  | trailing (found : Option Token)
  /-- another token should stand here -/
  | expected (wanted : Token) (found : Option Token)
  /-- a name should stand here -/
  | expectedName (found : Option Token)
  /-- a numeral should stand here -/
  | expectedNumber (found : Option Token)
  /-- a column type should stand here -/
  | expectedType (found : Option Token)
  /-- a string with the escape character should stand here -/
  | expectedEscape (found : Option Token)
  /-- no value starts like this -/
  | noValue (found : Option Token)
  /-- the escape string has not one character -/
  | escapeLength (text : String)
  /-- a `NOT` behind an operand is not followed by `IN` or `LIKE` -/
  | danglingNot
  /-- the limit is no row count -/
  | limit (text : String) (cause : CountError)
  deriving DecidableEq, Repr

/-- The text of a parse error. -/
def ParseError.message : ParseError → String
  | .noStatement found => "Expected SQL statement, found " ++ Token.describe found
  | .trailing found => "Unexpected token after statement: " ++ Token.describe found
  | .expected wanted found => "Expected " ++ wanted.text ++ ", found " ++ Token.describe found
  | .expectedName found => "Expected identifier, found " ++ Token.describe found
  | .expectedNumber found => "Expected number, found " ++ Token.describe found
  | .expectedType found => "Expected data type, found " ++ Token.describe found
  | .expectedEscape found => "Expected escape character, found " ++ Token.describe found
  | .noValue found => "Unexpected token: " ++ Token.describe found
  | .escapeLength text => "ESCAPE requires a single character, found '" ++ text ++ "'"
  | .danglingNot => "Expected IN or LIKE after NOT"
  | .limit text cause => "Invalid limit " ++ text ++ ": " ++ cause.message

/-- What a reader works on. -/
structure Input where
  /-- the tokens not yet read -/
  tokens : List Token
  /-- the parameters met so far -/
  parameters : Nat

/-- Reads a value from the front of the input. -/
abbrev Reader := StateT Input (Except ParseError)

namespace Reader

/-! ## Single tokens -/

/-- The next token, which stays. -/
def peek : Reader (Option Token) := return (← get).tokens.head?

/-- Drops the next token. -/
def skip : Reader Unit := modify fun input => { input with tokens := input.tokens.tail }

/-- Drops the next token if it is `t`, and says whether it was. -/
def accept (t : Token) : Reader Bool := do
  if (← peek) = some t then
    skip
    return true
  else
    return false

/-- Drops the next token, which must be `t`. -/
def expect (t : Token) : Reader Unit := do
  unless ← accept t do throw (.expected t (← peek))

/-- Drops the reserved word if it is next, and says whether it was. -/
def acceptWord (k : Keyword) : Reader Bool := accept (.keyword k)

/-- Drops the sign if it is next, and says whether it was. -/
def acceptSign (s : Symbol) : Reader Bool := accept (.symbol s)

/-- A name. -/
def name : Reader String := do
  match ← peek with
  | some (.identifier n) => skip; return n
  | found => throw (.expectedName found)

/-- The digits of a numeral. -/
def number : Reader String := do
  match ← peek with
  | some (.number digits) => skip; return digits
  | found => throw (.expectedNumber found)

/-- The escape character, as a string of one character. -/
def escapeChar : Reader Char := do
  match ← peek with
  | some (.string text) =>
    match text.toList with
    | [c] => skip; return c
    | _ => throw (.escapeLength text)
  | found => throw (.expectedEscape found)

/-- The number of a parameter sign just met. -/
def nextParameter : Reader Nat := do
  let number := (← get).parameters + 1
  modify fun input => { input with parameters := number }
  return number

/-! ## Repetition -/

/-- One or more readings with commas between them, at most one more than `limit`. -/
def commaList {α : Type} (item : Reader α) : Nat → Reader (List α)
  | 0 => return [← item]
  | limit + 1 => do
    let first ← item
    if ← acceptSign .comma then
      return first :: (← commaList item limit)
    else
      return [first]

/-- Operands joined to the left of `left` by an operator word, at most `limit` of them. -/
def chain (word : Keyword) (join : Expr → Expr → Expr) (operand : Reader Expr) :
    Nat → Expr → Reader Expr
  | 0, left => return left
  | limit + 1, left => do
    if ← acceptWord word then
      chain word join operand limit (join left (← operand))
    else
      return left

/-! ## Expressions -/

/-- A literal, a parameter or a column. -/
def primary : Reader Expr := do
  match ← peek with
  | some (.number digits) => skip; return .literal (numeralValue false digits)
  | some (.symbol .minus) => skip; return .literal (numeralValue true (← number))
  | some (.string text) => skip; return .literal (.string text)
  | some (.keyword .TRUE) => skip; return .literal (.boolean true)
  | some (.keyword .FALSE) => skip; return .literal (.boolean false)
  | some (.keyword .NULL) => skip; return .literal .null
  | some (.symbol .placeholder) => skip; return .parameter (← nextParameter)
  | some (.identifier n) =>
    skip
    if ← acceptSign .dot then return .qualified n (← name) else return .column n
  | found => throw (.noValue found)

/-- A single value, or what `inner` reads between parentheses. -/
def operand (inner : Reader Expr) : Reader Expr := do
  if ← acceptSign .leftParen then
    let e ← inner
    expect (.symbol .rightParen)
    return e
  else
    primary

/-- The comparison that a sign stands for. -/
def comparisonOf : Option Token → Option Comparison
  | some (.symbol .equal) => some .equal
  | some (.symbol .notEqual) => some .notEqual
  | some (.symbol .less) => some .less
  | some (.symbol .greater) => some .greater
  | some (.symbol .lessEqual) => some .lessEqual
  | some (.symbol .greaterEqual) => some .greaterEqual
  | _ => none

/-- What may follow the operand `left`: a null test, a membership test, a pattern, a comparison, or
nothing. -/
def afterOperand (inner : Reader Expr) (limit : Nat) (left : Expr) : Reader Expr := do
  if ← acceptWord .IS then
    let negated ← acceptWord .NOT
    expect (.keyword .NULL)
    return .isNull negated left
  let negated ← acceptWord .NOT
  if ← acceptWord .IN then
    expect (.symbol .leftParen)
    let items ← commaList (operand inner) limit
    expect (.symbol .rightParen)
    return .inList negated left items
  if ← acceptWord .LIKE then
    let pattern ← operand inner
    if ← acceptWord .ESCAPE then
      return .like negated left pattern (some (← escapeChar))
    else
      return .like negated left pattern none
  if negated then throw .danglingNot
  match comparisonOf (← peek) with
  | some op =>
    skip
    return .compare op left (← operand inner)
  | none => return left

/-- An operand with its test. -/
def predicate (inner : Reader Expr) (limit : Nat) : Reader Expr := do
  afterOperand inner limit (← operand inner)

/-- A predicate behind any number of `NOT`s up to `limit`. -/
def negation (inner : Reader Expr) (limit : Nat) : Nat → Reader Expr
  | 0 => predicate inner limit
  | nots + 1 => do
    if ← acceptWord .NOT then
      return .not (← negation inner limit nots)
    else
      predicate inner limit

/-- Negations joined by `AND`. -/
def conjunction (inner : Reader Expr) (limit : Nat) : Reader Expr := do
  let factor := negation inner limit limit
  chain .AND .and factor limit (← factor)

/-- Conjunctions joined by `OR`. -/
def disjunction (inner : Reader Expr) (limit : Nat) : Reader Expr := do
  let term := conjunction inner limit
  chain .OR .or term limit (← term)

/-- An expression that nests less than `limit` parentheses. -/
def expression : Nat → Reader Expr
  | 0 => do throw (.noValue (← peek))
  | limit + 1 => disjunction (expression limit) limit

/-! ## Statements -/

/-- The condition behind `WHERE`, if there is one. -/
def filter (limit : Nat) : Reader (Option Expr) := do
  if ← acceptWord .WHERE then return some (← expression limit) else return none

/-- An item of a selection. -/
def selectItem : Reader SelectItem := do
  if ← acceptSign .star then return .allColumns else return .expr (← primary)

/-- A sort key; without a direction it ascends. -/
def orderItem : Reader OrderItem := do
  let e ← primary
  if ← acceptWord .ASC then return ⟨e, .asc⟩
  else if ← acceptWord .DESC then return ⟨e, .desc⟩
  else return ⟨e, .asc⟩

/-- The row count behind `LIMIT`, if there is one. -/
def rowLimit : Reader (Option Nat) := do
  if ← acceptWord .LIMIT then
    let text ← number
    match countValue text with
    | .ok n => return some n
    | .error cause => throw (.limit text cause)
  else
    return none

/-- The sort keys behind `ORDER BY`, if there are any. -/
def ordering (limit : Nat) : Reader (List OrderItem) := do
  if ← acceptWord .ORDER then
    expect (.keyword .BY)
    commaList orderItem limit
  else
    return []

/-- What follows `SELECT`. -/
def select (limit : Nat) : Reader Statement := do
  let distinct ← acceptWord .DISTINCT
  let items ← commaList selectItem limit
  expect (.keyword .FROM)
  let tables ← commaList name limit
  let filter ← filter limit
  let order ← ordering limit
  return .select ⟨distinct, items, tables, filter, order, ← rowLimit⟩

/-- The columns between parentheses, if they are given. -/
def columnList (limit : Nat) : Reader (Option (List String)) := do
  if ← acceptSign .leftParen then
    let columns ← commaList name limit
    expect (.symbol .rightParen)
    return some columns
  else
    return none

/-- One row of values between parentheses. -/
def valueRow (limit : Nat) : Reader (List Expr) := do
  expect (.symbol .leftParen)
  let row ← commaList (operand (expression limit)) limit
  expect (.symbol .rightParen)
  return row

/-- What follows `INSERT`. -/
def insert (limit : Nat) : Reader Statement := do
  expect (.keyword .INTO)
  let table ← name
  let columns ← columnList limit
  expect (.keyword .VALUES)
  return .insert ⟨table, columns, ← commaList (valueRow limit) limit⟩

/-- A column and its new value. -/
def assignment (limit : Nat) : Reader (String × Expr) := do
  let column ← name
  expect (.symbol .equal)
  return (column, ← operand (expression limit))

/-- What follows `UPDATE`. -/
def update (limit : Nat) : Reader Statement := do
  let table ← name
  expect (.keyword .SET)
  let assignments ← commaList (assignment limit) limit
  return .update ⟨table, assignments, ← filter limit⟩

/-- What follows `DELETE`. -/
def delete (limit : Nat) : Reader Statement := do
  expect (.keyword .FROM)
  let table ← name
  return .delete ⟨table, ← filter limit⟩

/-- The column type that a word names. -/
def typeOf : Option Token → Option ColumnType
  | some (.keyword .INT) => some .integer
  | some (.keyword .INTEGER) => some .integer
  | some (.keyword .BIGINT) => some .bigint
  | some (.keyword .DOUBLE) => some .double
  | some (.keyword .BOOLEAN) => some .boolean
  | some (.keyword .VARCHAR) => some .varchar
  | some (.keyword .BLOB) => some .blob
  | some (.keyword .DATE) => some .date
  | _ => none

/-- A column type. `VARCHAR` may carry a length, which means nothing. -/
def columnType : Reader ColumnType := do
  let found ← peek
  match typeOf found with
  | none => throw (.expectedType found)
  | some type =>
    skip
    if type = .varchar then
      if ← acceptSign .leftParen then
        let _ ← number
        expect (.symbol .rightParen)
    return type

/-- A column and its type. -/
def columnDef : Reader (String × ColumnType) := do
  let column ← name
  return (column, ← columnType)

/-- What follows `CREATE`. -/
def createTable (limit : Nat) : Reader Statement := do
  expect (.keyword .TABLE)
  let table ← name
  expect (.symbol .leftParen)
  let columns ← commaList columnDef limit
  expect (.symbol .rightParen)
  return .createTable ⟨table, columns⟩

/-- A statement by its first word. -/
def statement (limit : Nat) : Reader Statement := do
  match ← peek with
  | some (.keyword .SELECT) => skip; select limit
  | some (.keyword .INSERT) => skip; insert limit
  | some (.keyword .UPDATE) => skip; update limit
  | some (.keyword .DELETE) => skip; delete limit
  | some (.keyword .CREATE) => skip; createTable limit
  | found => throw (.noStatement found)

/-- A whole text: one statement, perhaps with a semicolon. -/
def whole (limit : Nat) : Reader Statement := do
  let s ← statement limit
  let _ ← acceptSign .semicolon
  match ← peek with
  | none => return s
  | found => throw (.trailing found)

end Reader

/-- A statement with the number of its parameters. -/
structure Parsed where
  /-- the statement -/
  statement : Statement
  /-- the number of its parameters -/
  parameters : Nat

/-- The statement of a text. -/
def parse (sql : String) : Except ParseError Parsed :=
  let tokens := tokenize sql
  match (Reader.whole tokens.length).run ⟨tokens, 0⟩ with
  | .ok (s, input) => .ok ⟨s, input.parameters⟩
  | .error e => .error e

end EntityQuery.Sql
