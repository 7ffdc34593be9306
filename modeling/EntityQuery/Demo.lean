import EntityQuery.Backend.Memory
import EntityQuery.Files
import EntityQuery.Session.Builder

/-!
# The demonstration

A short session over people in memory: rows are inserted, selected by age, updated, looked up by key
and deleted. `Demo.run` is its transcript: the lines it prints, and the failure that ended it, if one
did.

A failure has the context of the step that failed, and the chain of its causes; `Failure.text` is how
it is reported. A `Report` is all that a run leaves behind: the exit code and the two outputs.
-/

namespace EntityQuery.Demo

/-! ## Margins -/

/-- The text with blanks before it, at least `width` characters. -/
def alignRight (width : Nat) (text : String) : String :=
  String.ofList (List.replicate (width - text.length) ' ') ++ text

/-- The text with blanks behind it, at least `width` characters. -/
def alignLeft (width : Nat) (text : String) : String :=
  text ++ String.ofList (List.replicate (width - text.length) ' ')

/-! ## Failures -/

/-- Why the demonstration ended early. -/
structure Failure where
  /-- what was being done, where that is told -/
  context : Option String
  /-- the causes, from the failure to its root -/
  causes : List String

/-- The causes of an error, from itself to its root. -/
def causesOf (e : QueryError) : List String :=
  match e with
  | .prepare _ cause => [e.message, cause.message]
  | .execution _ cause => [e.message, cause.message]
  | _ => [e.message]

/-- A failure in a context. -/
def Failure.within (context : String) (e : QueryError) : Failure := ⟨some context, causesOf e⟩

/-- A failure without context. -/
def Failure.plain (e : QueryError) : Failure := ⟨none, causesOf e⟩

/-- A text behind a margin; its further lines stand behind as many blanks. -/
def indented (margin text : String) : String :=
  margin ++ String.ofList (text.toList.flatMap fun c =>
    if c = '\n' then c :: List.replicate margin.length ' ' else [c])

/-- The lines of causes: one is indented, several are numbered. -/
def causeLines : List String → List String
  | [] => []
  | [cause] => ["", "Caused by:", indented "    " cause]
  | causes =>
    ["", "Caused by:"] ++ causes.zipIdx.map fun (cause, i) =>
      indented (alignRight 5 (toString i) ++ ": ") cause

/-- How a failure is reported. -/
def Failure.text (f : Failure) : String :=
  let lines := match f.context, f.causes with
    | some context, causes => ("Error: " ++ context) :: causeLines causes
    | none, first :: rest => ("Error: " ++ first) :: causeLines rest
    | none, [] => ["Error"]
  "\n".intercalate lines ++ "\n"

/-- The failure to load a configuration. -/
def configFailure (path cause : String) : Failure :=
  .within ("Failed to load configuration from " ++ path) (.config cause)

/-! ## The session -/

/-- What the demonstration works on: the lines printed so far, and the store. -/
structure Stage where
  /-- the lines, in order -/
  lines : List String
  /-- the store -/
  store : Store Memory

/-- A part of the demonstration. -/
abbrev Act := ExceptT Failure (StateM Stage)

/-- Prints a line. -/
def say (line : String) : Act Unit := modify fun stage => { stage with lines := stage.lines ++ [line] }

/-- Runs a step of the session. -/
def perform {α : Type} (fail : QueryError → Failure) (step : Step Memory α) : Act α := fun stage =>
  let (result, store) := step stage.store
  (result.mapError fail, { stage with store := store })

/-- The people. -/
def person : Entity :=
  [(⟨"id", .long, true, none⟩ : FieldDecl), ⟨"firstName", .string, false, none⟩,
   ⟨"age", .integer, false, none⟩, ⟨"score", .double, false, none⟩].foldl
    Entity.declare (.empty 0 "person" none)

/-- The key of a person. -/
def idField : Field := ⟨person, 0, by decide⟩

/-- The first name of a person. -/
def nameField : Field := ⟨person, 1, by decide⟩

/-- The age of a person. -/
def ageField : Field := ⟨person, 2, by decide⟩

/-- The score of a person. -/
def scoreField : Field := ⟨person, 3, by decide⟩

/-- The insert of one person; only every other person has a score. -/
def personInsert (i : Nat) : MutationBuilder :=
  let b := MutationBuilder.insert person
    |>.setSource idField (.literal (.long (Int64.ofNat (i + 1))))
    |>.setSource nameField (.literal (.string ("person" ++ toString (i + 1))))
    |>.setSource ageField (.literal (.integer (Int32.ofNat (20 + i))))
  if i % 2 = 0 then b.setSource scoreField (.literal (.double (.ofRatio false (3 * i) 2))) else b

/-- A field compared to a value. -/
def compared (op : Comparison) (f : Field) (v : Value) : Constraint := .compareValue op f v

/-- Inserts people, one after the other. -/
def insertPeople (s : Session Memory) : List Nat → Act Unit
  | [] => return
  | i :: is => do
    let _ ← perform (.within "Insert failed") (s.runBuilder (personInsert i))
    insertPeople s is

/-- Prints the rest of a cursor's rows, at most `limit` of them. -/
def showPeople (s : Session Memory) (cursor : CursorId) (ids names scores : ColumnHandle) :
    Nat → Act Unit
  | 0 => return
  | limit + 1 => do
    if ← perform .plain (s.next cursor) then
      let score ← perform .plain (s.readNative scores .double)
      let id ← perform .plain (s.readNative ids .long)
      let name ← perform .plain (s.readNative names .string)
      let idText := match id with
        | some (i : Int64) => toString i.toInt
        | none => "0"
      let scoreText := match score with
        | some (d : Double) => d.text
        | none => "-"
      let nameText := match name with
        | some (n : String) => n
        | none => ""
      say (alignRight 4 idText ++ " " ++ alignLeft 12 nameText ++ " " ++ scoreText)
      showPeople s cursor ids names scores limit
    else
      return

/-- Selects the people who are not the youngest, the oldest first. -/
def showAdults (s : Session Memory) (count : Nat) : Act Unit := do
  let b := SelectBuilder.start (.entity person)
    (some (compared .greaterEqual ageField (.integer 21)))
  let slots := (← get).store.slots
  let (ids, b, slots) := b.retrieve idField slots
  let (names, b, slots) := b.retrieve nameField slots
  let (scores, b, slots) := b.retrieve scoreField slots
  modify fun stage => { stage with store := { stage.store with slots := slots } }
  let query ← perform (.within "Failed to compile select") (s.query (b.order ageField .desc))
  say query.sql
  let cursor ← perform (.within "Select failed") (s.execute query)
  showPeople s cursor ids names scores (count + 1)

/-- Looks a person up by key and prints the name. -/
def showFirst (s : Session Memory) : Act Unit := do
  let b := SelectBuilder.start (.entity person) (some (compared .equal idField (.long 1)))
  let (b, slots) := b.selectFields (← get).store.slots person.fields
  modify fun stage => { stage with store := { stage.store with slots := slots } }
  let query ← perform .plain (s.query b)
  let record ← perform (.within "Lookup by key failed") (s.queryUnique query)
  match record.get? nameField with
  | some (.string name) => say ("Some(\"" ++ name ++ "\")")
  | _ => say "None"

/-- The whole demonstration. -/
def acts (s : Session Memory) (count : Nat) : Act Unit := do
  insertPeople s (List.range count)
  showAdults s count
  let _ ← perform (.within "Update failed") (s.runBuilder
    ((MutationBuilder.update person (some (.isNull false scoreField))).setSource scoreField
      (.literal (.double .zero))))
  showFirst s
  let request ← perform .plain
    (s.deleteRequest person (some (compared .lessEqual ageField (.integer 21))))
  let _ ← perform .plain (s.run request)
  perform .plain (s.closeRequest request)

/-- What a run of the demonstration shows. -/
structure Transcript where
  /-- the lines printed -/
  lines : List String
  /-- why it ended early, if it did -/
  failure : Option Failure

/-- Runs the demonstration with `count` people. -/
def run (config : Config) (count : Nat) : Transcript :=
  let s : Session Memory := ⟨Memory.backend, .byRules config.naming [], config⟩
  match Database.empty.createFor s.naming person with
  | .error e => ⟨[], some ⟨some "Failed to create table", [e.message]⟩⟩
  | .ok db =>
    let store := Store.start { Memory.empty with database := db }
    match (acts s count).run ⟨[], store⟩ with
    | (.ok _, stage) => ⟨stage.lines, none⟩
    | (.error failure, stage) => ⟨stage.lines, some failure⟩

/-- What a program leaves behind. -/
structure Report where
  /-- the exit code -/
  code : UInt32
  /-- the text on the standard output -/
  output : String
  /-- the text on the error output -/
  errors : String

/-- The report on a failure. -/
def Failure.report (output : String) (f : Failure) : Report := ⟨1, output, f.text⟩

/-- The report on a run. -/
def Transcript.report (t : Transcript) : Report :=
  let output := String.join (t.lines.map (· ++ "\n"))
  (t.failure.map (·.report output)).getD ⟨0, output, ""⟩

/-- The report on a run with the configuration of a file, where `text` is what the file holds. -/
def reportOn (path text : String) (count : Nat) : Report :=
  match Config.ofText text with
  | .ok config => (run config count).report
  | .error fault => (configFailure path (fault.message text)).report ""

/-- The report on a configuration file that cannot be read. -/
def unreadReport (path failure : String) : Report :=
  (configFailure path (path ++ ": " ++ failure)).report ""

/-- The report on a run in a directory of its own. If there is a configuration text, the directory
holds the file `config.json` with it, which is the configuration file unless `path` names another. -/
def reportIn (text path : Option String) (count : Nat) : Report :=
  match path <|> text.map fun _ => "config.json" with
  | none => (run {} count).report
  | some path =>
    match Entry.read (.directory (text.map fun text => ("config.json", .file text)).toList) path with
    | .ok text => reportOn path text count
    | .error failure => unreadReport path failure.message

end EntityQuery.Demo
