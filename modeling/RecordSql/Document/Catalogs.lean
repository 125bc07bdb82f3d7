import RecordSql.Catalog.Basic
import RecordSql.Document.Decode

/-!
# `RecordSql.Document.Catalogs`: documents of catalogs

Catalogs are written as objects with their keys in a fixed order, and read back by the
same keys. All of them are required.
-/

set_option autoImplicit false

namespace RecordSql.Document

/-- The keys of a statement. -/
def statementKeys : List String :=
  ["label", "kind", "sql"]

/-- A statement as a value. -/
def ofStatement (s : Statement) : Value :=
  .object [("label", .string s.label), ("kind", .string s.kind.name), ("sql", .string s.sql)]

/-- Reads a statement. -/
def statement? (v : Value) : Option Statement := do
  match ← v.slots? statementKeys with
  | [label, kind, sql] =>
    return {
      label := ← required Value.string? label
      kind := ← required (Value.choice? StatementKind.ofName?) kind
      sql := ← required Value.string? sql }
  | _ => none

/-- The keys of a catalog. -/
def catalogKeys : List String :=
  ["table", "statements"]

/-- A catalog as a value. -/
def ofCatalog (c : Catalog) : Value :=
  .object [("table", .string c.table), ("statements", .array (c.statements.map ofStatement))]

/-- Reads a catalog. -/
def catalog? (v : Value) : Option Catalog := do
  match ← v.slots? catalogKeys with
  | [table, statements] =>
    return {
      table := ← required Value.string? table
      statements := ← required (Value.list? statement?) statements }
  | _ => none

end RecordSql.Document
