import RecordSql.Document.Token

/-!
# `RecordSql.Document.Reader`: from tokens to values

The reader keeps a stack of the arrays and objects that are open and goes through the
tokens once. It reads one value and leaves the tokens after it, so that a caller can tell
a document with something after it from no document at all. The stack has a limit.
-/

set_option autoImplicit false

namespace RecordSql.Document

/-- An array or object that is not complete, with what it holds so far, last one first. -/
inductive Frame where
  | items (done : List Value)
  /-- An object between two entries. -/
  | entries (done : List (String × Value))
  /-- An object whose value for `key` is being read. -/
  | entry (done : List (String × Value)) (key : String)
deriving Repr

/-- What may come next. -/
inductive Expect where
  | value
  /-- The first item of an array, or its end. -/
  | firstItem
  /-- The first key of an object, or its end. -/
  | firstKey
  | key
  | colon (key : String)
  /-- A comma, or the end of the innermost array or object. -/
  | separator
deriving DecidableEq, Repr

/-- The result of one token: a value that is complete, a new state, or failure. -/
inductive Progress where
  | done (v : Value)
  | more (expect : Expect) (stack : List Frame)
  | failed
deriving Repr

/-- Puts a complete value where the innermost frame waits for it. -/
def Progress.place (v : Value) : List Frame → Progress
  | [] => done v
  | .items vs :: stack => more .separator (.items (v :: vs) :: stack)
  | .entry es key :: stack => more .separator (.entries ((key, v) :: es) :: stack)
  | .entries _ :: _ => failed

/-- Opens an array or object, unless `limit` of them are open. -/
def Progress.enter (limit : Nat) (expect : Expect) (frame : Frame) (stack : List Frame) :
    Progress :=
  if stack.length < limit then more expect (frame :: stack) else failed

/-- What a token does where a value is expected. -/
def Progress.value (limit : Nat) (stack : List Frame) : Token → Progress
  | .openArray => enter limit .firstItem (.items []) stack
  | .openObject => enter limit .firstKey (.entries []) stack
  | .null => place .null stack
  | .bool b => place (.bool b) stack
  | .natural n => place (.natural n) stack
  | .real literal => place (.real literal) stack
  | .string s => place (.string s) stack
  | _ => failed

/-- What the next token does. -/
def Progress.step (limit : Nat) : Expect → List Frame → Token → Progress
  | .value, stack, t => value limit stack t
  | .firstItem, stack, t =>
    match t, stack with
    | .closeArray, .items vs :: rest => place (.array vs.reverse) rest
    | t, stack => value limit stack t
  | .firstKey, stack, t =>
    match t, stack with
    | .closeObject, .entries es :: rest => place (.object es.reverse) rest
    | .string key, stack => more (.colon key) stack
    | _, _ => failed
  | .key, stack, t =>
    match t with
    | .string key => more (.colon key) stack
    | _ => failed
  | .colon key, stack, t =>
    match t, stack with
    | .colon, .entries es :: rest => more .value (.entry es key :: rest)
    | _, _ => failed
  | .separator, stack, t =>
    match t, stack with
    -- After a comma there must be a value or a key: neither form may end with a comma.
    | .comma, .items vs :: rest => more .value (.items vs :: rest)
    | .closeArray, .items vs :: rest => place (.array vs.reverse) rest
    | .comma, .entries es :: rest => more .key (.entries es :: rest)
    | .closeObject, .entries es :: rest => place (.object es.reverse) rest
    | _, _ => failed

/-- Reads one value and returns it with the tokens after it. -/
def readTokens (limit : Nat) (expect : Expect) (stack : List Frame) :
    List Token → Option (Value × List Token)
  | [] => none
  | t :: ts =>
    match Progress.step limit expect stack t with
    | .done v => some (v, ts)
    | .more expect stack => readTokens limit expect stack ts
    | .failed => none

/-- A value at the start of a text, and whether nothing follows it. -/
structure Reading where
  value : Value
  isWhole : Bool
deriving Repr

/-- How many arrays and objects may be open at once. -/
def nestingLimit : Nat := 127

/-- Reads the value at the start of a text. -/
def read? (limit : Nat) (s : String) : Option Reading :=
  (readTokens limit .value [] (scan s)).map fun (v, rest) => ⟨v, rest.isEmpty⟩

end RecordSql.Document
