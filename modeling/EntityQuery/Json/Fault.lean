import EntityQuery.Number.Scientific
import EntityQuery.Text.Quoted

/-!
# Faults of JSON text

A `Fault` says why a text is not the value asked for and how many bytes of the text lie behind the
place where that shows; its message tells the place as line and column (`Fault.place`). Lines count
from one. A column is the number of bytes between the beginning of the line and the place.
-/

namespace EntityQuery.Json

/-- What stands where another kind of value is asked for. -/
inductive Found where
  | null
  | bool (b : Bool)
  | whole (i : Int)
  | fractional (d : Double)
  | text (s : String)
  | list
  | object
  deriving DecidableEq, Repr

/-- The text of what was found. -/
def Found.description : Found → String
  | .null => "null"
  | .bool b => "boolean `" ++ toString b ++ "`"
  | .whole i => "integer `" ++ toString i ++ "`"
  | .fractional d => "floating point `" ++ d.scientificText ++ "`"
  | .text s => "string " ++ Text.quotedText s
  | .list => "sequence"
  | .object => "map"

/-- Why a text is not the value asked for. -/
inductive Cause where
  /-- the text ends within a list -/
  | unclosedList
  /-- the text ends within an object -/
  | unclosedObject
  /-- the text ends within a string -/
  | unclosedString
  /-- the text ends where a value is missing -/
  | missingValue
  /-- no colon follows a key -/
  | noColon
  /-- neither comma nor bracket follows an item -/
  | noListSign
  /-- neither comma nor brace follows a member -/
  | noObjectSign
  /-- a misspelt word -/
  | badWord
  /-- no value starts here -/
  | noValue
  /-- an unknown escape -/
  | badEscape
  /-- a malformed number -/
  | badNumber
  /-- a number too large for a double -/
  | hugeNumber
  /-- a control character in a string -/
  | controlCharacter
  /-- no key starts here -/
  | noKey
  /-- half of a surrogate pair, and something else behind it -/
  | halfPair
  /-- half of a surrogate pair, and no escape behind it -/
  | endOfPair
  /-- a comma before the closing sign -/
  | lastComma
  /-- something behind the value -/
  | trailing
  /-- a value of another kind -/
  | wrongKind (found : Found) (expected : String)
  /-- a name that is no choice -/
  | noChoice (name : String) (choices : List String)
  /-- a key given twice -/
  | repeatedKey (key : String)
  deriving DecidableEq, Repr

/-- The text of a cause. -/
def Cause.message : Cause → String
  | .unclosedList => "EOF while parsing a list"
  | .unclosedObject => "EOF while parsing an object"
  | .unclosedString => "EOF while parsing a string"
  | .missingValue => "EOF while parsing a value"
  | .noColon => "expected `:`"
  | .noListSign => "expected `,` or `]`"
  | .noObjectSign => "expected `,` or `\x7d`"
  | .badWord => "expected ident"
  | .noValue => "expected value"
  | .badEscape => "invalid escape"
  | .badNumber => "invalid number"
  | .hugeNumber => "number out of range"
  | .controlCharacter => "control character (\\u0000-\\u001F) found while parsing a string"
  | .noKey => "key must be a string"
  | .halfPair => "lone leading surrogate in hex escape"
  | .endOfPair => "unexpected end of hex escape"
  | .lastComma => "trailing comma"
  | .trailing => "trailing characters"
  | .wrongKind found expected => "invalid type: " ++ found.description ++ ", expected " ++ expected
  | .noChoice name choices =>
    "unknown variant `" ++ name ++ "`, expected "
      ++ " or ".intercalate (choices.map fun choice => "`" ++ choice ++ "`")
  | .repeatedKey key => "duplicate field `" ++ key ++ "`"

/-- Why a text is not the value asked for, and where that shows. -/
structure Fault where
  /-- why -/
  cause : Cause
  /-- the bytes behind the place -/
  behind : Nat
  deriving DecidableEq, Repr

/-- The bytes of characters. -/
def byteCount (cs : List Char) : Nat := (String.ofList cs).utf8ByteSize

/-- A fault that shows before `cs`. -/
def Fault.before (cause : Cause) (cs : List Char) : Fault := ⟨cause, byteCount cs⟩

/-- A fault that shows `count` bytes behind the beginning of `cs`, or at its end. -/
def Fault.within (cause : Cause) (count : Nat) (cs : List Char) : Fault :=
  ⟨cause, byteCount cs - count⟩

/-- The line and the column behind some bytes. -/
def place (bytes : List UInt8) : Nat × Nat :=
  (bytes.count 10 + 1, (bytes.reverse.takeWhile (· != 10)).length)

/-- The line and the column of a fault in a text. -/
def Fault.place (f : Fault) (text : String) : Nat × Nat :=
  Json.place (text.toUTF8.data.toList.take (text.utf8ByteSize - f.behind))

/-- The text of a fault in a text. -/
def Fault.message (f : Fault) (text : String) : String :=
  f.cause.message ++ " at line " ++ toString (f.place text).1 ++ " column "
    ++ toString (f.place text).2

/-- A line feed begins a line. -/
theorem place_append_lineFeed (bytes : List UInt8) :
    place (bytes ++ [10]) = ((place bytes).1 + 1, 0) := by
  simp [place]

/-- Any other byte is one more column. -/
theorem place_append_byte (bytes : List UInt8) {b : UInt8} (h : b ≠ 10) :
    place (bytes ++ [b]) = ((place bytes).1, (place bytes).2 + 1) := by
  simp [place, List.count_append, h]

end EntityQuery.Json
