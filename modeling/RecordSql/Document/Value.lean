/-!
# `RecordSql.Document.Value`: JSON values

A document is read into a value that keeps what decoding may ask about: the order and the
repetitions of keys, and whether a number was written as a plain natural number.
-/

set_option autoImplicit false

namespace RecordSql.Document

/-- A JSON value. -/
inductive Value where
  | null
  | bool (b : Bool)
  /-- A number written with digits only. -/
  | natural (n : Nat)
  /-- Any other number, as it is written. -/
  | real (literal : String)
  | string (s : String)
  | array (items : List Value)
  /-- The entries in the order of the document; keys may repeat. -/
  | object (entries : List (String × Value))
deriving Inhabited, Repr

end RecordSql.Document
