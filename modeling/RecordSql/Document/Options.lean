import RecordSql.Document.Decode
import RecordSql.Table.Options

/-!
# `RecordSql.Document.Options`: documents of settings

The settings of loading are written as an object with one key.
-/

set_option autoImplicit false

namespace RecordSql.Document

open RecordSql.Table (Validation LoadOptions)

/-- The name of a way to deal with issues. -/
def validationName : Validation → String
  | .lenient => "lenient"
  | .strict => "strict"

/-- The way to deal with issues that has a given name. -/
def validationOfName? (s : String) : Option Validation :=
  [Validation.lenient, .strict].find? (validationName · == s)

/-- The keys of the settings of loading. -/
def optionKeys : List String :=
  ["validation"]

/-- The settings of loading as a value. -/
def ofOptions (o : LoadOptions) : Value :=
  .object [("validation", .string (validationName o.validation))]

/-- Reads the settings of loading. -/
def options? (v : Value) : Option LoadOptions := do
  match ← v.slots? optionKeys with
  | [validation] =>
    return { validation := ← required (Value.choice? validationOfName?) validation }
  | _ => none

end RecordSql.Document
