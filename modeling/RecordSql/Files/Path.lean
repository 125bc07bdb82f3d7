import RecordSql.Text.Split

/-!
# `RecordSql.Files.Path`: path names

A path is a text whose steps are separated by `/`; one that begins with `/` leads from the
root. Empty steps and steps `.` lead nowhere; `..` leads back to the folder above. A path
cannot be used if it holds the character NUL, is too long or has too long a name in it.
-/

set_option autoImplicit false

namespace RecordSql.Files

/-- A path without the separators and `.` steps at its end, given last character first. -/
def trimTail : List Char → List Char
  | '.' :: '/' :: rest => trimTail ('/' :: rest)
  | '/' :: c :: rest => trimTail (c :: rest)
  | cs => cs

/-- The path of the folder in which a path lies; empty for a single step. -/
def parent (path : String) : String :=
  let inside := (trimTail path.toList.reverse).dropWhile (· != '/')
  String.ofList (trimTail inside).reverse

/-- The step that stands for the root. -/
def rootStep : String := "/"

/-- Whether a path leads from the root. -/
def isAbsolute (path : String) : Bool :=
  path.toList.head? == some '/'

/-- The steps of a path that lead somewhere. -/
def steps (path : String) : List String :=
  ((Text.split (· == '/') path.toList).map String.ofList).filter fun s => s != "" && s != "."

/-- The greatest size of a path, in bytes. -/
def maxPathSize : Nat := 4095

/-- The greatest size of the name of a file or folder, in bytes. -/
def maxNameSize : Nat := 255

/-- Whether a path as a whole can be used. -/
def isUsable (path : String) : Bool :=
  !path.toList.contains '\x00' && path.utf8ByteSize ≤ maxPathSize

/-- Whether a step is short enough. -/
def isUsableStep (step : String) : Bool :=
  step.utf8ByteSize ≤ maxNameSize

/-- Whether a path can be that of a file: it does not end in a separator or a `.` step. -/
def namesFile (path : String) : Bool :=
  let last := ((Text.split (· == '/') path.toList).getLast?).getD []
  last != [] && last != ['.']

end RecordSql.Files
