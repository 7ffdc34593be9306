/-!
# Directory trees

Reading a file by its path in a tree of directories, and why that fails. A path is walked name by
name; `..` goes back to the directory above, and the one above the root is the root itself.

* `Entry.walk` is the entry at the end of a walk;
* `Entry.read` is the text of a file; an absolute path starts in `root`, the tree that every system
  has, and a relative one in a working directory below it.

No walk goes through a file (`walk_file`).
-/

namespace EntityQuery

/-- Why a file cannot be read. -/
inductive FileFailure where
  /-- no entry has the name -/
  | missing
  /-- a file stands where a directory should -/
  | notDirectory
  /-- a directory stands where a file should -/
  | directory
  /-- a name or the whole path is too long -/
  | tooLong
  deriving DecidableEq, Repr

/-- The number of a failure among the errors of the system. -/
def FileFailure.code : FileFailure → Nat
  | .missing => 2
  | .notDirectory => 20
  | .directory => 21
  | .tooLong => 36

/-- The description of a failure. -/
def FileFailure.description : FileFailure → String
  | .missing => "No such file or directory"
  | .notDirectory => "Not a directory"
  | .directory => "Is a directory"
  | .tooLong => "File name too long"

/-- The text of a failure. -/
def FileFailure.message (f : FileFailure) : String :=
  f.description ++ " (os error " ++ toString f.code ++ ")"

/-- An entry of a directory tree. -/
inductive Entry where
  /-- a file with its text -/
  | file (text : String)
  /-- a directory with its named entries -/
  | directory (entries : List (String × Entry))

namespace Entry

/-- The bytes that a name may have. -/
def nameLimit : Nat := 255

/-- The bytes that a path may have. -/
def pathLimit : Nat := 4095

/-- The entry at the end of a walk, with the directories above the one where it starts. -/
def walk : List Entry → Entry → List String → Except FileFailure Entry
  | _, entry, [] => .ok entry
  | _, .file _, _ :: _ => .error .notDirectory
  | above, .directory entries, name :: names =>
    if name = "" ∨ name = "." then walk above (.directory entries) names
    else if name = ".." then
      match above with
      | [] => walk [] (.directory entries) names
      | parent :: above => walk above parent names
    else if nameLimit < name.utf8ByteSize then .error .tooLong
    else
      match entries.lookup name with
      | some entry => walk (.directory entries :: above) entry names
      | none => .error .missing

/-- A directory of directories that hold nothing. -/
def shelf (names : List String) : Entry := .directory (names.map fun name => (name, .directory []))

/-- The tree that every system has. -/
def root : Entry :=
  .directory ([
    ("dev", .directory [("null", .file "")]),
    ("usr", shelf ["bin", "lib", "local", "sbin", "share"]),
    ("var", shelf ["cache", "lib", "local", "lock", "log", "opt", "run", "spool", "tmp"])] ++
    ["bin", "boot", "etc", "home", "lib", "media", "mnt", "opt", "proc", "root", "run", "sbin", "srv",
      "sys", "tmp"].map fun name => (name, .directory []))

/-- The directories above a working directory, which stands among the temporary files. -/
def aboveWorking : List Entry := [.directory [], root]

/-- The text of the file with a path; a relative path starts in the directory `working`. -/
def read (working : Entry) (path : String) : Except FileFailure String := do
  if path = "" then throw .missing
  if pathLimit < path.utf8ByteSize then throw .tooLong
  let names := path.splitOn "/"
  let entry ← if path.startsWith "/" then walk [] root names else walk aboveWorking working names
  match entry with
  | .file text => return text
  | .directory _ => throw .directory

/-- No walk goes through a file. -/
theorem walk_file (above : List Entry) (text name : String) (names : List String) :
    walk above (.file text) (name :: names) = .error .notDirectory := by
  simp [walk]

/-- Going up from the root stays there. -/
theorem walk_up_root (entries : List (String × Entry)) (names : List String) :
    walk [] (.directory entries) (".." :: names) = walk [] (.directory entries) names := by
  rw [walk]
  simp

/-- A walk along names that a directory does not have ends at the first one. -/
theorem walk_missing (above : List Entry) {entries : List (String × Entry)} {name : String}
    (names : List String) (hdot : name ∉ ["", ".", ".."]) (hshort : name.utf8ByteSize ≤ nameLimit)
    (hmissing : entries.lookup name = none) :
    walk above (.directory entries) (name :: names) = .error .missing := by
  simp only [List.mem_cons, List.not_mem_nil, or_false, not_or] at hdot
  simp [walk, hdot, hmissing, Nat.not_lt.2 hshort]

end Entry

end EntityQuery
