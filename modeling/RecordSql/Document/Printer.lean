import RecordSql.Document.Value

/-!
# `RecordSql.Document.Printer`: writing a document

Values are written over several lines, two spaces deeper for every array and object that
is open; empty arrays and objects stay on their line. A string is written with the quote,
the backslash and the control characters below U+0020 escaped, and all else as it is.
-/

set_option autoImplicit false

namespace RecordSql.Document

/-- A hexadecimal digit. -/
def hexDigit (n : Nat) : Char :=
  Nat.digitChar n

/-- A character as it is written in a string. -/
def escape (c : Char) : List Char :=
  if c == '"' then ['\\', '"']
  else if c == '\\' then ['\\', '\\']
  else if c == '\x08' then ['\\', 'b']
  else if c == '\x0c' then ['\\', 'f']
  else if c == '\n' then ['\\', 'n']
  else if c == '\r' then ['\\', 'r']
  else if c == '\t' then ['\\', 't']
  else if c.toNat < 0x20 then
    ['\\', 'u', '0', '0', hexDigit (c.toNat / 16), hexDigit (c.toNat % 16)]
  else [c]

/-- A string between its quotes. -/
def quote (s : String) : List Char :=
  '"' :: s.toList.flatMap escape ++ ['"']

/-- A new line at a depth. -/
def newLine (depth : Nat) : List Char :=
  '\n' :: List.replicate (2 * depth) ' '

mutual

/-- A value that starts at a depth. -/
def printAt (depth : Nat) : Value → List Char
  | .null => ['n', 'u', 'l', 'l']
  | .bool true => ['t', 'r', 'u', 'e']
  | .bool false => ['f', 'a', 'l', 's', 'e']
  | .natural n => Nat.toDigits 10 n
  | .real literal => literal.toList
  | .string s => quote s
  | .array [] => ['[', ']']
  | .array (v :: vs) =>
    '[' :: newLine (depth + 1) ++ printAt (depth + 1) v ++ printItems (depth + 1) vs
      ++ newLine depth ++ [']']
  | .object [] => ['\x7b', '\x7d']
  | .object (e :: es) =>
    '\x7b' :: newLine (depth + 1) ++ printEntry (depth + 1) e ++ printEntries (depth + 1) es
      ++ newLine depth ++ ['\x7d']

/-- Further items of an array. -/
def printItems (depth : Nat) : List Value → List Char
  | [] => []
  | v :: vs => ',' :: newLine depth ++ printAt depth v ++ printItems depth vs

/-- An entry of an object. -/
def printEntry (depth : Nat) : String × Value → List Char
  | (key, v) => quote key ++ [':', ' '] ++ printAt depth v

/-- Further entries of an object. -/
def printEntries (depth : Nat) : List (String × Value) → List Char
  | [] => []
  | e :: es => ',' :: newLine depth ++ printEntry depth e ++ printEntries depth es

end

/-- The text of a value. -/
def print (v : Value) : String :=
  String.ofList (printAt 0 v)

/-- A list of values, printed, with a line end after it. -/
def printLines (vs : List Value) : String :=
  print (.array vs) ++ "\n"

end RecordSql.Document
