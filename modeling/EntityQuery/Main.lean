import EntityQuery.Demo

/-!
# The command line

Runs the demonstration. `--rows` is the number of people, 5 without it; `--config` names a JSON file
with the configuration; `--debug` is accepted.
-/

namespace EntityQuery.CommandLine

/-- The options of the command line. -/
structure Options where
  /-- the number of people -/
  rows : Nat := 5
  /-- the configuration file -/
  config : Option String := none

/-- The options in a list of arguments. -/
def parseOptions (options : Options) : List String → Except String Options
  | [] => .ok options
  | "--debug" :: rest => parseOptions options rest
  | "-d" :: rest => parseOptions options rest
  | "--config" :: path :: rest => parseOptions { options with config := some path } rest
  | "-c" :: path :: rest => parseOptions { options with config := some path } rest
  | "--rows" :: count :: rest => withRows count rest
  | "-r" :: count :: rest => withRows count rest
  | other :: _ => .error ("unexpected argument '" ++ other ++ "'")
where
  withRows (count : String) (rest : List String) : Except String Options :=
    match count.toNat? with
    | some n => parseOptions { options with rows := n } rest
    | none => .error ("invalid value '" ++ count ++ "' for '--rows'")

/-- What the report says about a file that cannot be read. -/
def failureText : IO.Error → String
  | .noFileOrDirectory _ _ _ => FileFailure.missing.message
  | .inappropriateType _ code details => numbered code details
  | .invalidArgument _ code details => numbered code details
  | .permissionDenied _ _ _ => "Permission denied (os error 13)"
  | .userError _ => "stream did not contain valid UTF-8"
  | e => toString e
where
  /-- The text of the failure with a number, which may be given negated. -/
  numbered (code : UInt32) (details : String) : String :=
    match [FileFailure.notDirectory, .directory, .tooLong].find? fun failure =>
        code = failure.code.toUInt32 ∨ 0 - code = failure.code.toUInt32 with
    | some failure => failure.message
    | none => details

/-- The report on a run with some options. -/
def reportOn (options : Options) : IO Demo.Report := do
  match options.config with
  | none => return (Demo.run {} options.rows).report
  | some path =>
    try
      return Demo.reportOn path (← IO.FS.readFile path) options.rows
    catch e =>
      return Demo.unreadReport path (failureText e)

end EntityQuery.CommandLine

open EntityQuery EntityQuery.CommandLine in
/-- Runs the demonstration. -/
def main (args : List String) : IO UInt32 := do
  match parseOptions {} args with
  | .error message =>
    IO.eprintln ("error: " ++ message)
    return 2
  | .ok options =>
    let report ← reportOn options
    IO.print report.output
    IO.eprint report.errors
    return report.code
