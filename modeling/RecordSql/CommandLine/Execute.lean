import RecordSql.CommandLine.Flags
import RecordSql.Files.Disk

/-!
# `RecordSql.CommandLine.Execute`: what a run does

A run reads its input and makes everything in memory first. Only then does it touch a
file: it appends the schema script, and writes the output last. A run that fails before
that leaves no trace.
-/

set_option autoImplicit false

namespace RecordSql.CommandLine

open RecordSql.Files (Disk FileError)

/-- Something that a run does to the outside. -/
inductive Effect where
  | append (path text : String)
  | write (path text : String)
  | print (text : String)
deriving DecidableEq, Repr

/-- Why a run fails. -/
inductive Failure where
  | file (e : FileError)
  | document (e : Document.DocumentError)
  | generate (e : GenerateError)
deriving DecidableEq, Repr

/-- What a run does, given the text of its input. -/
def plan (i : Invocation) (text : String) : Except Failure (List Effect) :=
  match Document.readTrees text with
  | .error e => .error (.document e)
  | .ok ts =>
    match Generate.all i.settings ts with
    | .error e => .error (.generate e)
    | .ok gs =>
      let script := (i.sqlFile.map fun path => Effect.append path (Generate.schemaScript gs)).toList
      let output := Generate.render i.format gs
      .ok (script ++ [match i.output with
        | some path => .write path output
        | none => .print output])

/-- The text on standard output and the disk. -/
structure World where
  output : String := ""
  disk : Disk
deriving DecidableEq, Repr

/-- Does one thing. -/
def perform (w : World) : Effect → World × Option FileError
  | .append path text =>
    let (k, e) := w.disk.append path text
    ({ w with disk := k }, e)
  | .write path text =>
    let (k, e) := w.disk.write path text
    ({ w with disk := k }, e)
  | .print text => ({ w with output := w.output ++ text }, none)

/-- Does one thing after the other until one fails. What has been done stays done. -/
def performAll (w : World) : List Effect → World × Option FileError
  | [] => (w, none)
  | e :: es =>
    match perform w e with
    | (w, none) => performAll w es
    | (w, some failure) => (w, some failure)

/-- The name and the version of the program. -/
def versionLine : String := "sqlgen 0.1.0\n"

/-- The help. How the flags are laid out and described in it is left out: it lists their names. -/
def helpText : String :=
  "Usage: sqlgen [OPTIONS] --file <FILE>\n\nOptions:\n"
    ++ String.join (longFlags.map fun (name, _) => "  --" ++ name ++ "\n")

/-- The exit code of a run that succeeds. -/
def successCode : Nat := 0

/-- The exit code of a run that fails. -/
def failureCode : Nat := 1

/-- The exit code if the arguments are not as they should be. -/
def usageCode : Nat := 2

/-- The exit code of a run that has no labels for a table. -/
def unlabelledCode : Nat := 101

/-- The exit code of a failure. -/
def Failure.code : Failure → Nat
  | .generate (.unlabelled _ _) => unlabelledCode
  | _ => failureCode

/-- Carries out a run on a disk: its exit code, and what it leaves behind. -/
def run (i : Invocation) (k : Disk) : Nat × World :=
  match k.read i.file with
  | .error e => ((Failure.file e).code, { disk := k })
  | .ok text =>
    match plan i text with
    | .error failure => (failure.code, { disk := k })
    | .ok effects =>
      match performAll { disk := k } effects with
      | (w, none) => (successCode, w)
      | (w, some e) => ((Failure.file e).code, w)

/-- Carries out what the arguments ask for on a disk. -/
def execute (environment : Option String) (arguments : List String) (k : Disk) : Nat × World :=
  match parse environment arguments with
  | .error .usage => (usageCode, { disk := k })
  | .error .help => (successCode, { output := helpText, disk := k })
  | .error .version => (successCode, { output := versionLine, disk := k })
  | .ok i => run i k

end RecordSql.CommandLine
