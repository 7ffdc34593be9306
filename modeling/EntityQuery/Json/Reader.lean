import EntityQuery.Json.Number
import EntityQuery.Json.Text

/-!
# Reading JSON values

A `Reader` takes a value off the front of a text, or stops at the first fault in reading order.

* `bool`, `text`, `texts` and `choice` read a value of one kind;
* `record` reads a record, from an object by keys or from an array by positions; a member that is
  missing keeps its default, an unknown key means nothing, and no known key may be given twice;
* `skipValue` reads any value and forgets it;
* `ofText` reads a value that takes the whole text, with blanks around it.
-/

namespace EntityQuery.Json

/-- Takes a value off the front of a text. -/
abbrev Reader := StateT (List Char) (Except Fault)

namespace Reader

variable {α : Type}

/-! ## Signs and words -/

/-- The blanks of JSON text. -/
def isBlank (c : Char) : Bool := c == ' ' || c == '\n' || c == '\t' || c == '\r'

/-- Skips blanks. The character behind them stays. -/
def peek : Reader (Option Char) := fun cs =>
  let rest := cs.dropWhile isBlank
  .ok (rest.head?, rest)

/-- Takes a character. -/
def advance : Reader Unit := modify (·.drop 1)

/-- Stops before the next character. -/
def failBefore (cause : Cause) : Reader α := fun cs => .error (.before cause cs)

/-- Stops within the next character. -/
def failWithin (cause : Cause) : Reader α := fun cs => .error (.within cause 1 cs)

/-- Takes the characters of a word. -/
def word : List Char → Reader Unit
  | [] => return
  | w :: ws => do
    match (← get).head? with
    | none => failBefore .missingValue
    | some c => if c = w then advance; word ws else failWithin .badWord

/-- Takes the colon behind a key. -/
def colon : Reader Unit := do
  match ← peek with
  | some ':' => advance
  | some _ => failWithin .noColon
  | none => failWithin .unclosedObject

/-! ## Values of one kind -/

/-- Stops at a value of another kind than `expected`. Behind a simple value, the fault shows there; a
misspelt one is a fault of its own. -/
def wrongKind (expected : String) : Reader α := do
  match ← peek with
  | some 'n' =>
    advance
    word ['u', 'l', 'l']
    failBefore (.wrongKind .null expected)
  | some 't' =>
    advance
    word ['r', 'u', 'e']
    failBefore (.wrongKind (.bool true) expected)
  | some 'f' =>
    advance
    word ['a', 'l', 's', 'e']
    failBefore (.wrongKind (.bool false) expected)
  | some '-' =>
    advance
    let found ← number true
    failBefore (.wrongKind found expected)
  | some '"' =>
    advance
    let content ← string
    failBefore (.wrongKind (.text (String.ofList content)) expected)
  | some '[' => failBefore (.wrongKind .list expected)
  | some '\x7b' => failBefore (.wrongKind .object expected)
  | some c =>
    if c.isDigit then
      let found ← number false
      failBefore (.wrongKind found expected)
    else failWithin .noValue
  | none => failWithin .missingValue

/-- A truth value. -/
def bool : Reader Bool := do
  match ← peek with
  | some 't' =>
    advance
    word ['r', 'u', 'e']
    return true
  | some 'f' =>
    advance
    word ['a', 'l', 's', 'e']
    return false
  | _ => wrongKind "a boolean"

/-- A text, called `expected`. -/
def text (expected : String) : Reader String := do
  match ← peek with
  | some '"' =>
    advance
    return String.ofList (← string)
  | _ => wrongKind expected

/-- `null`, called a unit. -/
def null : Reader Unit := do
  match ← peek with
  | some 'n' =>
    advance
    word ['u', 'l', 'l']
  | _ => wrongKind "unit"

/-- The choice that a text names. -/
def choiceName (choices : List (String × α)) : Reader α := do
  let name ← text "variant identifier"
  match choices.find? (·.1 == name) with
  | some choice => return choice.2
  | none => failBefore (.noChoice name (choices.map (·.1)))

/-- Stops if no key starts here. -/
def expectKey : Reader Unit := do
  match ← peek with
  | some '"' => return
  | some _ => failWithin .noKey
  | none => failWithin .unclosedObject

/-- The name of a choice as the only key of an object, behind the opening brace. An object without a
key lacks a value. -/
def choiceKey (choices : List (String × α)) : Reader α := do
  if (← peek) = some '\x7d' then failWithin .noValue
  expectKey
  choiceName choices

/-- A choice, by its name or by an object with its name as the only key and `null` behind it. -/
def choice (choices : List (String × α)) : Reader α := do
  match ← peek with
  | some '"' => choiceName choices
  | some '\x7b' =>
    advance
    let chosen ← choiceKey choices
    colon
    null
    match ← peek with
    | some '\x7d' =>
      advance
      return chosen
    | some _ => failBefore .noValue
    | none => failBefore .unclosedObject
  | some _ => failWithin .noValue
  | none => failWithin .missingValue

/-! ## Arrays -/

/-- Whether another item follows in an array. Behind an item, a comma goes before it. -/
def nextItem (first : Bool) : Reader Bool := do
  match ← peek with
  | some ']' => return false
  | some c =>
    if first then return true
    else if c = ',' then
      advance
      match ← peek with
      | some ']' => failWithin .lastComma
      | some _ => return true
      | none => failWithin .missingValue
    else failWithin .noListSign
  | none => failWithin .unclosedList

/-- Takes the bracket that closes an array. -/
def closeArray : Reader Unit := do
  match ← peek with
  | some ']' => advance
  | some ',' =>
    advance
    match ← peek with
    | some ']' => failWithin .lastComma
    | _ => failWithin .trailing
  | some _ => failWithin .trailing
  | none => failWithin .unclosedList

/-- The texts of an array behind its opening bracket, less than `limit` of them. -/
def textItems : Nat → Bool → Reader (List String)
  | 0, _ => failWithin .unclosedList
  | limit + 1, first => do
    if ← nextItem first then
      let item ← text "a string"
      return item :: (← textItems limit false)
    else
      closeArray
      return []

/-- An array of texts. -/
def texts : Reader (List String) := do
  match ← peek with
  | some '[' =>
    advance
    textItems ((← get).length + 1) true
  | _ => wrongKind "a sequence"

/-! ## Objects -/

/-- The next key of an object, if there is one. Behind a member, a comma goes before it. -/
def nextKey (first : Bool) : Reader (Option String) := do
  match ← peek with
  | some '\x7d' => return none
  | some c =>
    if first then
      if c = '"' then key else failWithin .noKey
    else if c = ',' then
      advance
      match ← peek with
      | some '"' => key
      | some '\x7d' => failWithin .lastComma
      | some _ => failWithin .noKey
      | none => failWithin .missingValue
    else failWithin .noObjectSign
  | none => failWithin .unclosedObject
where
  /-- The key behind its opening quote. -/
  key : Reader (Option String) := do
    advance
    return some (String.ofList (← string))

/-! ## Any value -/

mutual

/-- Takes a value that nests less than `limit` deep and has less than `limit` items. -/
def skipWithin : Nat → Reader Unit
  | 0 => failWithin .missingValue
  | limit + 1 => do
    match ← peek with
    | some 'n' =>
      advance
      word ['u', 'l', 'l']
    | some 't' =>
      advance
      word ['r', 'u', 'e']
    | some 'f' =>
      advance
      word ['a', 'l', 's', 'e']
    | some '-' =>
      advance
      set (← skipNumber (← get))
    | some '"' =>
      advance
      set (← skipString (← get))
    | some '[' =>
      advance
      match ← peek with
      | some ']' => advance
      | some _ => skipItems limit
      | none => failWithin .unclosedList
    | some '\x7b' =>
      advance
      match ← peek with
      | some '\x7d' => advance
      | some _ => skipMembers limit
      | none => failWithin .unclosedObject
    | some c => if c.isDigit then set (← skipNumber (← get)) else failWithin .noValue
    | none => failWithin .missingValue

/-- Takes the items of an array and its closing bracket. -/
def skipItems : Nat → Reader Unit
  | 0 => failWithin .missingValue
  | limit + 1 => do
    skipWithin limit
    match ← peek with
    | some ',' =>
      advance
      skipItems limit
    | some ']' => advance
    | some _ => failWithin .noListSign
    | none => failWithin .unclosedList

/-- Takes the members of an object and its closing brace. -/
def skipMembers : Nat → Reader Unit
  | 0 => failWithin .missingValue
  | limit + 1 => do
    expectKey
    advance
    set (← skipString (← get))
    colon
    skipWithin limit
    match ← peek with
    | some ',' =>
      advance
      skipMembers limit
    | some '\x7d' => advance
    | some _ => failWithin .noObjectSign
    | none => failWithin .unclosedObject

end

/-- Takes any value. Each bracket and each item takes a character and at most two of the limit. -/
def skipValue : Reader Unit := do skipWithin (2 * (← get).length + 2)

/-! ## Records -/

/-- A member of a record. -/
structure Member (α : Type) where
  /-- the key -/
  key : String
  /-- reads the member into the record -/
  read : α → Reader α

/-- The members of a record by position, behind the opening bracket. -/
def positions : List (Member α) → Bool → α → Reader α
  | [], _, record => do
    closeArray
    return record
  | member :: members, first, record => do
    if ← nextItem first then positions members false (← member.read record)
    else
      closeArray
      return record

/-- Stops at a known key that is given again. The fault shows behind what follows the key: blanks,
and the brace that closes the object. -/
def repeated (key : String) : Reader α := do
  if (← peek) = some '\x7d' then advance
  failBefore (.repeatedKey key)

/-- The members of a record by key, behind the opening brace, less than `limit` of them; the keys in
`seen` are given. -/
def keyed (members : List (Member α)) : Nat → List String → Bool → α → Reader α
  | 0, _, _, _ => failWithin .unclosedObject
  | limit + 1, seen, first, record => do
    match ← nextKey first with
    | none =>
      advance
      return record
    | some key =>
      match members.find? (·.key == key) with
      | none =>
        colon
        skipValue
        keyed members limit seen false record
      | some member =>
        if seen.contains key then repeated key
        else
          colon
          keyed members limit (key :: seen) false (← member.read record)

/-- A record, called `expected`. -/
def record (expected : String) (members : List (Member α)) (defaults : α) : Reader α := do
  match ← peek with
  | some '[' =>
    advance
    positions members true defaults
  | some '\x7b' =>
    advance
    keyed members ((← get).length + 1) [] true defaults
  | _ => wrongKind expected

/-! ## Whole texts -/

/-- The value of a whole text. -/
def ofText (read : Reader α) (text : String) : Except Fault α := do
  let (value, rest) ← (do return (← read, ← peek)).run text.toList
  match value with
  | (value, none) => .ok value
  | (_, some _) => .error (.within .trailing 1 rest)

/-- A word takes itself. -/
theorem word_append (w rest : List Char) : (word w).run (w ++ rest) = .ok ((), rest) := by
  induction w with
  | nil => rfl
  | cons c w ih =>
    simp only [word, StateT.run_bind, StateT.run_get, pure_bind, List.cons_append, List.head?_cons,
      if_true]
    exact ih

/-- The record of an empty object has the defaults. -/
theorem record_braces {α : Type} (expected : String) (members : List (Member α)) (defaults : α)
    (rest : List Char) :
    (record expected members defaults).run ('\x7b' :: '\x7d' :: rest) = .ok (defaults, rest) := rfl

end Reader

end EntityQuery.Json
