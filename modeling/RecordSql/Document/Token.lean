import RecordSql.Document.Numeral
import RecordSql.Document.Value

/-!
# `RecordSql.Document.Token`: the tokens of a document

The scanner takes one character at a time. What it has read of an unfinished token is its
mode. Where no token can go on, the list of tokens ends with `invalid`.
-/

set_option autoImplicit false

namespace RecordSql.Document

/-- A token of a document. -/
inductive Token where
  | openArray
  | closeArray
  | openObject
  | closeObject
  | comma
  | colon
  | null
  | bool (b : Bool)
  | natural (n : Nat)
  | real (literal : String)
  | string (s : String)
  /-- The place where the text stops being a document. -/
  | invalid
deriving DecidableEq, Repr

/-- What the scanner has read of the current token. Characters read are kept last one
first. -/
inductive ScanMode where
  /-- Nothing: the next character starts a token or is white space. -/
  | between
  /-- Part of a name such as `true`; `rest` is still to come. -/
  | name (rest : List Char) (token : Token)
  /-- Part of a number. -/
  | number (phase : Numeral.Phase) (read : List Char)
  /-- Part of a string. -/
  | string (read : List Char)
  /-- A string after a backslash. -/
  | escape (read : List Char)
  /-- A string after `count` hexadecimal digits of an escape; `high` is a first
  surrogate that waits for its second. -/
  | hex (read : List Char) (high : Option Nat) (count value : Nat)
  /-- A string after a first surrogate. -/
  | pair (read : List Char) (high : Nat)
  /-- A string after a first surrogate and a backslash. -/
  | pairEscape (read : List Char) (high : Nat)
deriving DecidableEq, Repr

/-- White space of a document: space, tab, line feed and carriage return. -/
def isSpace (c : Char) : Bool :=
  c == ' ' || c == '\t' || c == '\n' || c == '\r'

/-- The value of a hexadecimal digit. -/
def hexDigit? (c : Char) : Option Nat :=
  if c.isDigit then some (c.toNat - '0'.toNat)
  else if 'a' ≤ c && c ≤ 'f' then some (c.toNat - 'a'.toNat + 10)
  else if 'A' ≤ c && c ≤ 'F' then some (c.toNat - 'A'.toNat + 10)
  else none

/-- The character that a letter after a backslash stands for. -/
def escaped? (c : Char) : Option Char :=
  match c with
  | '"' => some '"'
  | '\\' => some '\\'
  | '/' => some '/'
  | 'b' => some '\x08'
  | 'f' => some '\x0c'
  | 'n' => some '\n'
  | 'r' => some '\r'
  | 't' => some '\t'
  | _ => none

/-- The token of a complete number, unless it is too large. -/
def numberToken (read : List Char) : Token :=
  let literal := read.reverse
  if Numeral.overflows literal then .invalid
  else if literal.all Char.isDigit then .natural (Numeral.ofDigits literal)
  else .real (String.ofList literal)

/-- Tokens that are complete, and the mode to go on with; no mode where the text stops
being a document. -/
abbrev Scanned := List Token × Option ScanMode

/-- What a character between tokens leads to. -/
def ScanMode.begin (c : Char) : Scanned :=
  if isSpace c then ([], some .between)
  else match c with
    | '[' => ([.openArray], some .between)
    | ']' => ([.closeArray], some .between)
    | '\x7b' => ([.openObject], some .between)
    | '\x7d' => ([.closeObject], some .between)
    | ',' => ([.comma], some .between)
    | ':' => ([.colon], some .between)
    | '"' => ([], some (.string []))
    | 'n' => ([], some (.name ['u', 'l', 'l'] .null))
    | 't' => ([], some (.name ['r', 'u', 'e'] (.bool true)))
    | 'f' => ([], some (.name ['a', 'l', 's', 'e'] (.bool false)))
    | '-' => ([], some (.number .minus ['-']))
    | '0' => ([], some (.number .zero ['0']))
    | _ => if c.isDigit then ([], some (.number .integer [c])) else ([], none)

/-- What the last of four hexadecimal digits leads to: a character, the wait for a second
surrogate, or nothing where a surrogate stands alone. -/
def ScanMode.unit (read : List Char) (high : Option Nat) (value : Nat) : Option ScanMode :=
  match high with
  | none =>
    if 0xD800 ≤ value && value < 0xDC00 then some (.pair read value)
    else if 0xDC00 ≤ value && value < 0xE000 then none
    else some (.string (Char.ofNat value :: read))
  | some first =>
    if 0xDC00 ≤ value && value < 0xE000 then
      some (.string (Char.ofNat (0x10000 + (first - 0xD800) * 0x400 + (value - 0xDC00)) :: read))
    else none

/-- What the next character leads to. -/
def ScanMode.step : ScanMode → Char → Scanned
  | between, c => begin c
  | name rest token, c =>
    match rest with
    | [] => ([], none)
    | [d] => if c == d then ([token], some between) else ([], none)
    | d :: rest => if c == d then ([], some (name rest token)) else ([], none)
  | number phase read, c =>
    match phase.next? c with
    | some phase => ([], some (number phase (c :: read)))
    | none =>
      -- The character after a number is the first that does not belong to it.
      if phase.isComplete then
        match begin c with
        | (tokens, mode) => (numberToken read :: tokens, mode)
      else ([], none)
  | string read, c =>
    if c == '"' then ([.string (String.ofList read.reverse)], some between)
    else if c == '\\' then ([], some (escape read))
    else if c.toNat < 0x20 then ([], none)
    else ([], some (string (c :: read)))
  | escape read, c =>
    if c == 'u' then ([], some (hex read none 0 0))
    else match escaped? c with
      | some d => ([], some (string (d :: read)))
      | none => ([], none)
  | hex read high count value, c =>
    match hexDigit? c with
    | none => ([], none)
    | some d =>
      if count < 3 then ([], some (hex read high (count + 1) (16 * value + d)))
      else ([], unit read high (16 * value + d))
  | pair read high, c => ([], if c == '\\' then some (pairEscape read high) else none)
  | pairEscape read high, c => ([], if c == 'u' then some (hex read (some high) 0 0) else none)

/-- The tokens that the end of the text completes. -/
def ScanMode.close : ScanMode → List Token
  | between => []
  | number phase read => [if phase.isComplete then numberToken read else .invalid]
  | _ => [.invalid]

/-- The tokens of a text after a mode. -/
def scanFrom (mode : ScanMode) : List Char → List Token
  | [] => mode.close
  | c :: cs =>
    match mode.step c with
    | (tokens, some mode) => tokens ++ scanFrom mode cs
    | (tokens, none) => tokens ++ [.invalid]

/-- The tokens of a text. -/
def scan (s : String) : List Token :=
  scanFrom .between s.toList

end RecordSql.Document
