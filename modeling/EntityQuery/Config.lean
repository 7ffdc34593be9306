import EntityQuery.Json.Reader
import EntityQuery.Naming

/-!
# Configuration

A `Config` says how names are derived, what happens to fields without column, when statements are
closed, and how byte strings are handed over. It can be read from JSON text (`Config.ofText`):

* an object gives members by name, in any order; a missing member has its default, an unknown one
  means nothing, and none may be given twice;
* an array gives members by position, and the ones behind its end have their defaults;
* a choice is given by its name, or by an object with its name as the only key and `null` behind it.
-/

namespace EntityQuery

/-- How byte strings are handed to the backend. -/
inductive BlobMode where
  /-- as bytes -/
  | native
  /-- as a stream with its length -/
  | lengthPrefixed
  deriving DecidableEq, Repr

/-- The name of a blob mode in configurations. -/
def BlobMode.name : BlobMode → String
  | .native => "native"
  | .lengthPrefixed => "length_prefixed"

/-- The blob modes. -/
def BlobMode.all : List BlobMode := [.native, .lengthPrefixed]

/-- The blob mode of a name. -/
def BlobMode.ofName? (name : String) : Option BlobMode := all.find? (·.name == name)

/-- A configuration. -/
structure Config where
  /-- how names are derived -/
  naming : NamingRules := {}
  /-- whether a selected, assigned or ordered field without column is an error; else it is skipped -/
  strict : Bool := false
  /-- whether an exhausted cursor closes its statement -/
  autoClose : Bool := true
  /-- how byte strings are handed over -/
  blobMode : BlobMode := .native
  deriving DecidableEq, Repr

open Json (Reader Fault)

/-- Reads naming rules. -/
def NamingRules.read : Reader NamingRules :=
  Reader.record "struct NamingConfig" [
    ⟨"reserved_keywords", fun rules => return { rules with reserved := ← Reader.texts }⟩,
    ⟨"upper_case", fun rules => return { rules with upperCase := ← Reader.bool }⟩] {}

/-- Reads a blob mode. -/
def BlobMode.read : Reader BlobMode :=
  Reader.choice (BlobMode.all.map fun mode => (mode.name, mode))

namespace Config

/-- Reads a configuration. -/
def read : Reader Config :=
  Reader.record "struct SqlStreamsConfig" [
    ⟨"naming", fun config => return { config with naming := ← NamingRules.read }⟩,
    ⟨"strict_column_resolution", fun config => return { config with strict := ← Reader.bool }⟩,
    ⟨"auto_close", fun config => return { config with autoClose := ← Reader.bool }⟩,
    ⟨"blob_mode", fun config => return { config with blobMode := ← BlobMode.read }⟩] {}

/-- The configuration of a text, or the first fault in it. -/
def ofText (text : String) : Except Fault Config := Reader.ofText read text

/-- The configuration of a text, if it has one. -/
def ofText? (text : String) : Option Config := (ofText text).toOption

/-- The empty object is the default configuration. -/
theorem read_braces (rest : List Char) : read.run ('\x7b' :: '\x7d' :: rest) = .ok ({}, rest) :=
  Reader.record_braces _ _ _ rest

end Config

end EntityQuery
