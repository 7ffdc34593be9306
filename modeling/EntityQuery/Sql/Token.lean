import EntityQuery.Text.Quoted
import EntityQuery.Text.Uppercased

/-!
# Tokens of SQL text

A token is a word, a literal, a symbol, or a character that starts none of these. The words that the
grammar reserves are `Keyword`s; `Keyword.ofWord?` recognises one in any case of its letters, by
upper-casing the word.

`Token.describe` is how a message names what it found, where no token means the end of the input.
-/

namespace EntityQuery.Sql

/-- The reserved words. -/
inductive Keyword where
  | SELECT | FROM | WHERE | INSERT | INTO | VALUES | UPDATE | SET | DELETE | CREATE | TABLE
  | AND | OR | NOT | NULL | ORDER | BY | ASC | DESC | LIMIT | DISTINCT | IN | LIKE | ESCAPE | IS
  | TRUE | FALSE | INT | INTEGER | BIGINT | DOUBLE | BOOLEAN | VARCHAR | BLOB | DATE
  deriving DecidableEq, Repr

/-- The written form of a reserved word. -/
def Keyword.text : Keyword → String
  | .SELECT => "SELECT" | .FROM => "FROM" | .WHERE => "WHERE" | .INSERT => "INSERT"
  | .INTO => "INTO" | .VALUES => "VALUES" | .UPDATE => "UPDATE" | .SET => "SET"
  | .DELETE => "DELETE" | .CREATE => "CREATE" | .TABLE => "TABLE" | .AND => "AND" | .OR => "OR"
  | .NOT => "NOT" | .NULL => "NULL" | .ORDER => "ORDER" | .BY => "BY" | .ASC => "ASC"
  | .DESC => "DESC" | .LIMIT => "LIMIT" | .DISTINCT => "DISTINCT" | .IN => "IN" | .LIKE => "LIKE"
  | .ESCAPE => "ESCAPE" | .IS => "IS" | .TRUE => "TRUE" | .FALSE => "FALSE" | .INT => "INT"
  | .INTEGER => "INTEGER" | .BIGINT => "BIGINT" | .DOUBLE => "DOUBLE" | .BOOLEAN => "BOOLEAN"
  | .VARCHAR => "VARCHAR" | .BLOB => "BLOB" | .DATE => "DATE"

/-- All reserved words. -/
def Keyword.all : List Keyword :=
  [.SELECT, .FROM, .WHERE, .INSERT, .INTO, .VALUES, .UPDATE, .SET, .DELETE, .CREATE, .TABLE,
   .AND, .OR, .NOT, .NULL, .ORDER, .BY, .ASC, .DESC, .LIMIT, .DISTINCT, .IN, .LIKE, .ESCAPE, .IS,
   .TRUE, .FALSE, .INT, .INTEGER, .BIGINT, .DOUBLE, .BOOLEAN, .VARCHAR, .BLOB, .DATE]

/-- The reserved word that a word spells, whatever the case of its letters. -/
def Keyword.ofWord? (word : String) : Option Keyword :=
  Keyword.all.find? (·.text == Text.uppercased word)

/-- The signs of the grammar. -/
inductive Symbol where
  | star | equal | notEqual | less | greater | lessEqual | greaterEqual | minus | placeholder
  | leftParen | rightParen | comma | semicolon | dot
  deriving DecidableEq, Repr

/-- The written form of a sign. -/
def Symbol.text : Symbol → String
  | .star => "*" | .equal => "=" | .notEqual => "<>" | .less => "<" | .greater => ">"
  | .lessEqual => "<=" | .greaterEqual => ">=" | .minus => "-" | .placeholder => "?"
  | .leftParen => "(" | .rightParen => ")" | .comma => "," | .semicolon => ";" | .dot => "."

/-- A token. -/
inductive Token where
  /-- a name, bare or in double quotes -/
  | identifier (name : String)
  /-- an unsigned numeral: digits, and perhaps a point with digits after it -/
  | number (digits : String)
  /-- the content of a string literal -/
  | string (content : String)
  /-- a reserved word -/
  | keyword (word : Keyword)
  /-- a sign -/
  | symbol (sign : Symbol)
  /-- a character that no token starts with -/
  | unknown (c : Char)
  deriving DecidableEq, Repr

/-- How a message names a token. -/
def Token.text : Token → String
  | .identifier name => "identifier " ++ name
  | .number digits => "number " ++ digits
  | .string content => "string '" ++ content ++ "'"
  | .keyword word => word.text
  | .symbol sign => sign.text
  | .unknown c => "character " ++ Text.quotedChar c

/-- How a message names what it found. -/
def Token.describe : Option Token → String
  | some t => t.text
  | none => "end of input"

/-- The list of reserved words is complete. -/
theorem Keyword.mem_all (k : Keyword) : k ∈ Keyword.all := by
  cases k <;> decide

end EntityQuery.Sql
