import RecordSql.Generate

/-!
# `RecordSql.CommandLine.Flags`: the arguments of a run

Arguments are read from left to right. A flag with a value takes the rest of its argument,
after an equals sign if there is one, or else the next argument, which must not look like
a flag. Switches of one letter may stand together behind one dash. No flag may repeat, and
there are no other arguments. The help and the version are asked for as soon as their flag is
read, whatever follows it.
-/

set_option autoImplicit false

namespace RecordSql.CommandLine

/-- A flag that takes a value. -/
inductive ValueFlag where
  | file
  | type
  | db
  | output
  | sqlFile
  | format
deriving DecidableEq, Repr

/-- A flag without a value. -/
inductive Switch where
  | strict
  | verbose
  | help
  | version
deriving DecidableEq, Repr

/-- A flag. -/
inductive Flag where
  | value (f : ValueFlag)
  | switch (s : Switch)
deriving DecidableEq, Repr

/-- The flags by their names after two dashes. -/
def longFlags : List (String × Flag) :=
  [("file", .value .file), ("type", .value .type), ("db", .value .db),
    ("output", .value .output), ("sql-file", .value .sqlFile), ("format", .value .format),
    ("strict", .switch .strict), ("verbose", .switch .verbose), ("help", .switch .help),
    ("version", .switch .version)]

/-- The flags by their letters after one dash. -/
def shortFlags : List (Char × Flag) :=
  [('f', .value .file), ('t', .value .type), ('o', .value .output), ('v', .switch .verbose),
    ('h', .switch .help), ('V', .switch .version)]

/-- Why the arguments do not describe a run. -/
inductive Stop where
  /-- They are not as they should be. -/
  | usage
  /-- They ask for the help. -/
  | help
  /-- They ask for the version. -/
  | version
deriving DecidableEq, Repr

/-- The flags read so far, and the flag that waits for its value. -/
structure Given where
  values : List (ValueFlag × String) := []
  switches : List Switch := []
  pending : Option ValueFlag := none
deriving DecidableEq, Repr

/-- Whether a flag takes a value: paths are not empty and formats exist. -/
def ValueFlag.accepts (f : ValueFlag) (value : String) : Bool :=
  match f with
  | file | output | sqlFile => !value.isEmpty
  | format => (Format.ofName? value).isSome
  | type | db => true

namespace Given

/-- Gives a flag its value. -/
def setValue (g : Given) (f : ValueFlag) (value : String) : Except Stop Given :=
  if (g.values.lookup f).isSome || !f.accepts value then .error .usage
  else .ok { g with values := (f, value) :: g.values, pending := none }

/-- Turns a switch on, unless it asks for something else than a run. -/
def setSwitch (g : Given) (s : Switch) : Except Stop Given :=
  if s = .help then .error .help
  else if s = .version then .error .version
  else if s ∈ g.switches then .error .usage
  else .ok { g with switches := s :: g.switches }

/-- Reads the letters behind one dash. -/
def readLetters (g : Given) : List Char → Except Stop Given
  | [] => .ok g
  | c :: rest =>
    match shortFlags.lookup c with
    | none => .error .usage
    | some (.switch s) =>
      match g.setSwitch s with
      | .ok g => g.readLetters rest
      | .error stop => .error stop
    | some (.value f) =>
      match rest with
      | [] => .ok { g with pending := some f }
      | '=' :: value => g.setValue f (String.ofList value)
      | value => g.setValue f (String.ofList value)

/-- Reads what stands behind two dashes. -/
def readLong (g : Given) (cs : List Char) : Except Stop Given :=
  let name := String.ofList (cs.takeWhile (· != '='))
  match longFlags.lookup name, cs.dropWhile (· != '=') with
  | some (.switch s), [] => g.setSwitch s
  | some (.value f), [] => .ok { g with pending := some f }
  | some (.value f), _ :: value => g.setValue f (String.ofList value)
  | _, _ => .error .usage

/-- Reads one argument. -/
def readArgument (g : Given) (argument : String) : Except Stop Given :=
  match g.pending, argument.toList with
  | some f, ['-'] => g.setValue f "-"
  | some _, '-' :: _ => .error .usage
  | some f, _ => g.setValue f argument
  | none, '-' :: '-' :: c :: rest => g.readLong (c :: rest)
  | none, '-' :: c :: rest => g.readLetters (c :: rest)
  | none, _ => .error .usage

/-- Reads the arguments. Two dashes alone end the flags, and nothing may follow them. -/
def readAll (g : Given) : List String → Except Stop Given
  | [] => .ok g
  | argument :: rest =>
    if argument = "--" then
      if rest.isEmpty then .ok g else .error .usage
    else
      match g.readArgument argument with
      | .ok g => g.readAll rest
      | .error stop => .error stop

end Given

/-- A run as the arguments describe it. -/
structure Invocation where
  /-- The input document. -/
  file : String
  typeName : Option String := none
  /-- The name of the dialect. -/
  db : String
  /-- The file for the output; standard output if absent. -/
  output : Option String := none
  /-- The file to which the schema script is appended. -/
  sqlFile : Option String := none
  format : Format := .text
  strict : Bool := false
  verbose : Bool := false
deriving DecidableEq, Repr

/-- The dialect that is chosen if nothing chooses one. -/
def defaultDb : String := "sqlite"

/-- The run that the flags describe. A flag for the dialect counts before the environment. -/
def Given.invocation (g : Given) (environment : Option String) : Except Stop Invocation :=
  match g.pending, g.values.lookup .file with
  | none, some file => .ok {
      file
      typeName := g.values.lookup .type
      db := ((g.values.lookup .db).or environment).getD defaultDb
      output := g.values.lookup .output
      sqlFile := g.values.lookup .sqlFile
      format := ((g.values.lookup .format).bind Format.ofName?).getD .text
      strict := g.switches.contains .strict
      verbose := g.switches.contains .verbose }
  | _, _ => .error .usage

/-- Reads the arguments of a run, given the dialect that the environment names. -/
def parse (environment : Option String) (arguments : List String) : Except Stop Invocation :=
  match Given.readAll {} arguments with
  | .ok g => g.invocation environment
  | .error stop => .error stop

/-- The settings of the run. -/
def Invocation.settings (i : Invocation) : Settings where
  typeName := i.typeName
  dialect := Sql.Dialect.ofChoice i.db
  format := i.format
  options := if i.strict then Table.LoadOptions.strict {} else {}

end RecordSql.CommandLine
