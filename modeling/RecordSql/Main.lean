import RecordSql.CommandLine.Execute

/-!
# `RecordSql.Main`: the program

Reads the arguments, the environment and the input, and does what the plan of the run
says. Messages go to standard error.
-/

set_option autoImplicit false

namespace RecordSql.Main

open RecordSql.CommandLine (Effect Failure)
open RecordSql.Files (FileError)

/-- The variable of the environment that names the dialect. -/
def dialectVariable : String := "SQLGEN_DIALECT"

/-- The wording of a failure. -/
def failureText : Failure → String
  | .file e => e.message
  | .document .notJson => "the input is not a JSON document"
  | .document .notRecords => "the input does not describe records"
  | .generate e => e.message

/-- Fails with a message if an action fails. -/
def orFail {α : Type} (e : FileError) (action : IO α) : IO (Except FileError α) := do
  try
    return .ok (← action)
  catch _ =>
    return .error e

/-- Makes the folders in which a path lies. -/
def createParent (path : String) : IO (Except FileError Unit) := do
  let folder := Files.parent path
  if folder.isEmpty then
    return .ok ()
  orFail (.createFailed folder) (IO.FS.createDirAll folder)

/-- Does one thing. -/
def perform : Effect → IO (Except FileError Unit)
  | .append path text => do
    match ← createParent path with
    | .error e => return .error e
    | .ok () =>
      match ← orFail (.openFailed path) (IO.FS.Handle.mk path .append) with
      | .error e => return .error e
      | .ok h =>
        orFail (.appendFailed path) do
          h.putStr text
          h.flush
  | .write path text => do
    match ← createParent path with
    | .error e => return .error e
    | .ok () => orFail (.writeFailed path) (IO.FS.writeFile path text)
  | .print text => do
    IO.print text
    (← IO.getStdout).flush
    return .ok ()

/-- Reports a failure and gives the exit code. -/
def fail (f : Failure) : IO Nat := do
  IO.eprintln ("Error: " ++ failureText f)
  return f.code

/-- Does one thing after the other until one fails. -/
def performAll : List Effect → IO Nat
  | [] => return CommandLine.successCode
  | e :: es => do
    match ← perform e with
    | .ok () => performAll es
    | .error failure => fail (.file failure)

/-- Carries out a run. -/
def run (i : CommandLine.Invocation) : IO Nat := do
  match ← orFail (.readFailed i.file) (IO.FS.readFile i.file) with
  | .error e => fail (.file e)
  | .ok text =>
    match CommandLine.plan i text with
    | .error e => fail e
    | .ok effects => performAll effects

end RecordSql.Main

/-- Runs the program and returns its exit code. -/
def main (arguments : List String) : IO UInt32 := do
  let environment ← IO.getEnv RecordSql.Main.dialectVariable
  match RecordSql.CommandLine.parse environment arguments with
  | .ok i => return (← RecordSql.Main.run i).toUInt32
  | .error .help =>
    IO.print RecordSql.CommandLine.helpText
    return RecordSql.CommandLine.successCode.toUInt32
  | .error .version =>
    IO.print RecordSql.CommandLine.versionLine
    return RecordSql.CommandLine.successCode.toUInt32
  | .error .usage =>
    IO.eprint RecordSql.CommandLine.helpText
    return RecordSql.CommandLine.usageCode.toUInt32
