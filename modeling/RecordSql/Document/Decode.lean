import RecordSql.Document.Value

/-!
# `RecordSql.Document.Decode`: reading data out of a value

A structure is written as an object, whose keys may come in any order among unknown ones,
or as the array of its fields in their order, of which the last ones may be left out. A
known key must not repeat. One of a set of names is written as a string or as an object
with that name as its only key and null as its value.
-/

set_option autoImplicit false

namespace RecordSql.Document

/-- The value of the only entry, if there is one. More than one is an error. -/
def atMostOne? : List (String × Value) → Option (Option Value)
  | [] => some none
  | [e] => some (some e.2)
  | _ => none

/-- The values of the fields of a structure, given its field names in order. A field that
is left out has none. -/
def Value.slots? (names : List String) : Value → Option (List (Option Value))
  | .array items =>
    if items.length ≤ names.length then
      some (items.map some ++ List.replicate (names.length - items.length) none)
    else none
  | .object entries => names.mapM fun name => atMostOne? (entries.filter (·.1 == name))
  | _ => none

/-- A string. -/
def Value.string? : Value → Option String
  | .string s => some s
  | _ => none

/-- A truth value. -/
def Value.bool? : Value → Option Bool
  | .bool b => some b
  | _ => none

/-- The first natural number that is too large for a size. -/
def sizeBound : Nat := Nat.pow 2 64

/-- A size: a natural number of at most 64 bits. -/
def Value.size? : Value → Option Nat
  | .natural n => if n < sizeBound then some n else none
  | _ => none

/-- A list. -/
def Value.list? {α : Type} (decode : Value → Option α) : Value → Option (List α)
  | .array items => items.mapM decode
  | _ => none

/-- One of a set of names. -/
def Value.choice? {α : Type} (ofName? : String → Option α) : Value → Option α
  | .string s => ofName? s
  | .object [(s, .null)] => ofName? s
  | _ => none

/-- A value that may be null. -/
def Value.nullable? {α : Type} (decode : Value → Option α) : Value → Option (Option α)
  | .null => some none
  | v => (decode v).map some

/-- A field that must be there. -/
def required {α : Type} (decode : Value → Option α) (slot : Option Value) : Option α :=
  slot.bind decode

/-- A field that has a default. -/
def optional {α : Type} (default : α) (decode : Value → Option α) : Option Value → Option α
  | none => some default
  | some v => decode v

end RecordSql.Document
