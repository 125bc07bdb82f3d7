import RecordSql.Text.Blank

/-!
# `RecordSql.Catalog.Basic`: labelled statements

A catalog holds the statements of one table in a fixed order, each under a label. Its
schema script is what creates the table with its indexes and foreign keys.
-/

set_option autoImplicit false

namespace RecordSql

/-- What a statement is for. -/
inductive StatementKind where
  /-- It changes the schema. -/
  | schema
  /-- It reads or writes rows. -/
  | query
deriving DecidableEq, Repr

namespace StatementKind

/-- All kinds. -/
def all : List StatementKind :=
  [schema, query]

/-- The name of a kind in documents. -/
def name : StatementKind → String
  | schema => "schema"
  | query => "query"

/-- The kind with a given name. -/
def ofName? (s : String) : Option StatementKind :=
  all.find? (·.name == s)

end StatementKind

/-- A statement under its label. -/
structure Statement where
  label : String
  kind : StatementKind
  sql : String
deriving DecidableEq, Repr

/-- The statements of a table. -/
structure Catalog where
  table : String := ""
  statements : List Statement := []
deriving DecidableEq, Repr

namespace Catalog

/-- The first statement with a given label. -/
def get? (c : Catalog) (label : String) : Option Statement :=
  c.statements.find? (·.label == label)

/-- The statements that change the schema. -/
def schema (c : Catalog) : List Statement :=
  c.statements.filter (·.kind = .schema)

/-- A statement as a line of a script: it ends with a semicolon. -/
def scriptLine (sql : String) : String :=
  let ended := (Text.trimEnd sql.toList).getLast? == some ';'
  sql ++ (if ended then "" else ";") ++ "\n"

/-- The schema statements one after the other. -/
def schemaScript (c : Catalog) : String :=
  String.join (c.schema.map fun s => scriptLine s.sql)

end Catalog

end RecordSql
