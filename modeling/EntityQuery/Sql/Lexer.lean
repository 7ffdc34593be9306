import EntityQuery.Sql.Token
import EntityQuery.Text.Alphabetic
import EntityQuery.Text.Blank

/-!
# Splitting SQL text into tokens

`tokenize` reads characters from left to right. Blanks and comments, from `--` to the end of the
line, separate tokens; at any other character `lexeme` reads the longest token that starts there.

* a word starts with a letter or underscore and goes on with letters, numerals and underscores;
* a string stands between single quotes, where two quotes stand for one, and ends with the text if
  its closing quote is missing;
* a name may stand between double quotes, which cannot occur in it;
* a numeral is a run of digits, with a point only where a digit follows.

No lexeme is longer than the text (`length_lexeme_le`), which is why the reading ends.
-/

namespace EntityQuery.Sql

/-- The content of a string literal after its opening quote, and the text behind it. -/
def stringBody : List Char → List Char × List Char
  | [] => ([], [])
  | '\'' :: '\'' :: cs => ('\'' :: (stringBody cs).1, (stringBody cs).2)
  | '\'' :: cs => ([], cs)
  | c :: cs => (c :: (stringBody cs).1, (stringBody cs).2)

/-- Whether a word may start with `c`. -/
def startsName (c : Char) : Bool := Text.isAlphabetic c || c == '_'

/-- Whether a word may go on with `c`. -/
def continuesName (c : Char) : Bool := Text.isAlphanumeric c || c == '_'

/-- The word `name`, which is a keyword if it spells one. -/
def wordToken (name : String) : Token :=
  match Keyword.ofWord? name with
  | some k => .keyword k
  | none => .identifier name

/-- The digits behind a numeral's first digit, and the text behind them. -/
def numberBody (cs : List Char) : List Char × List Char :=
  let whole := cs.takeWhile Char.isDigit
  match cs.dropWhile Char.isDigit with
  | '.' :: d :: rest =>
    if d.isDigit then
      (whole ++ '.' :: d :: rest.takeWhile Char.isDigit, rest.dropWhile Char.isDigit)
    else (whole, '.' :: d :: rest)
  | rest => (whole, rest)

/-- The text behind the line that a comment ends with. -/
def skipLine (cs : List Char) : List Char := (cs.dropWhile (· != '\n')).drop 1

/-- The token that starts with `c`, which is no blank, and the text behind it. -/
def lexeme (c : Char) (cs : List Char) : Token × List Char :=
  match c, cs with
  | '*', cs => (.symbol .star, cs)
  | '=', cs => (.symbol .equal, cs)
  | '?', cs => (.symbol .placeholder, cs)
  | '(', cs => (.symbol .leftParen, cs)
  | ')', cs => (.symbol .rightParen, cs)
  | ',', cs => (.symbol .comma, cs)
  | ';', cs => (.symbol .semicolon, cs)
  | '.', cs => (.symbol .dot, cs)
  | '-', cs => (.symbol .minus, cs)
  | '<', '=' :: cs => (.symbol .lessEqual, cs)
  | '<', '>' :: cs => (.symbol .notEqual, cs)
  | '<', cs => (.symbol .less, cs)
  | '>', '=' :: cs => (.symbol .greaterEqual, cs)
  | '>', cs => (.symbol .greater, cs)
  | '!', '=' :: cs => (.symbol .notEqual, cs)
  | '\'', cs => (.string (String.ofList (stringBody cs).1), (stringBody cs).2)
  | '"', cs =>
    (.identifier (String.ofList (cs.takeWhile (· != '"'))), (cs.dropWhile (· != '"')).drop 1)
  | c, cs =>
    if startsName c then
      (wordToken (String.ofList (c :: cs.takeWhile continuesName)), cs.dropWhile continuesName)
    else if c.isDigit then
      (.number (String.ofList (c :: (numberBody cs).1)), (numberBody cs).2)
    else (.unknown c, cs)

theorem length_dropWhile_le (p : Char → Bool) (cs : List Char) :
    (cs.dropWhile p).length ≤ cs.length :=
  (List.dropWhile_sublist p).length_le

theorem length_stringBody_le (cs : List Char) : (stringBody cs).2.length ≤ cs.length := by
  fun_induction stringBody cs <;> simp_all <;> omega

theorem length_numberBody_le (cs : List Char) : (numberBody cs).2.length ≤ cs.length := by
  have h := length_dropWhile_le Char.isDigit cs
  unfold numberBody
  split
  · rename_i d rest heq
    rw [heq] at h
    have h' := length_dropWhile_le Char.isDigit rest
    split
    · simp at h ⊢; omega
    · exact h
  · exact h

theorem length_skipLine_le (cs : List Char) : (skipLine cs).length ≤ cs.length := by
  have h := length_dropWhile_le (· != '\n') cs
  simp [skipLine]
  omega

/-- A lexeme takes its first character, and never gives any back. -/
theorem length_lexeme_le (c : Char) (cs : List Char) : (lexeme c cs).2.length ≤ cs.length := by
  unfold lexeme
  split <;> try simp
  · exact length_stringBody_le _
  · have h := length_dropWhile_le (· != '"') cs
    omega
  · split
    · exact length_dropWhile_le _ _
    · split
      · exact length_numberBody_le _
      · simp

/-- The tokens of a text. -/
def tokenizeChars : List Char → List Token
  | [] => []
  | '-' :: '-' :: cs =>
    have := length_skipLine_le cs
    tokenizeChars (skipLine cs)
  | c :: cs =>
    if Text.isBlank c then tokenizeChars cs
    else
      have := length_lexeme_le c cs
      (lexeme c cs).1 :: tokenizeChars (lexeme c cs).2
  termination_by cs => cs.length
  decreasing_by all_goals simp_all; try omega

/-- The tokens of a text. -/
def tokenize (sql : String) : List Token := tokenizeChars sql.toList

end EntityQuery.Sql
