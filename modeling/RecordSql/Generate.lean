import RecordSql.Catalog.Draft
import RecordSql.Document.Catalogs
import RecordSql.Document.Printer
import RecordSql.Document.Records
import RecordSql.Document.Tables
import RecordSql.Table.Load

/-!
# `RecordSql.Generate`: from records to output

A run takes the records of a document, or those of one type, and makes the table and the
catalog of each on its own. The output is the statements as text, or the catalogs or the
tables as a document.
-/

set_option autoImplicit false

namespace RecordSql

open RecordSql.Record (Tree)
open RecordSql.Table (Issue LoadOptions)

/-- The layout of the output. -/
inductive Format where
  /-- Statements under their labels. -/
  | text
  /-- The catalogs as a document. -/
  | json
  /-- The tables as a document. -/
  | model
deriving DecidableEq, Repr, Inhabited

namespace Format

/-- The name of a format. -/
def name : Format → String
  | text => "text"
  | json => "json"
  | model => "model"

/-- The format with a given name. -/
def ofName? (s : String) : Option Format :=
  [text, json, model].find? (·.name == s)

end Format

/-- The settings of a run. -/
structure Settings where
  /-- The type of the records to take; all records if absent. -/
  typeName : Option String := none
  dialect : Sql.Dialect := .sqlite
  format : Format := .text
  options : LoadOptions := {}
deriving DecidableEq, Repr, Inhabited

/-- A table with its statements. -/
structure Generated where
  table : Table
  catalog : Catalog
deriving DecidableEq, Repr

/-- Why a run makes nothing. -/
inductive GenerateError where
  /-- No record has the type that was asked for. -/
  | typeNotFound (name : String)
  /-- A record has an issue under strict validation. -/
  | loadFailed (typeName : String) (issue : Issue)
  /-- A table or a foreign key has a name of which there is no singular for the labels. -/
  | unlabelled (typeName : String) (clash : English.CaseClash)
deriving DecidableEq, Repr

/-- The wording of an error. -/
def GenerateError.message : GenerateError → String
  | typeNotFound name => "type " ++ name ++ " not found in input"
  | loadFailed typeName issue => "failed to load type " ++ typeName ++ ": " ++ issue.message
  | unlabelled typeName clash => "failed to label type " ++ typeName ++ ": " ++ clash.message

namespace Generate

/-- The records of the type that was asked for. -/
def selected (settings : Settings) (ts : List Tree) : List Tree :=
  match settings.typeName with
  | none => ts
  | some name => ts.filter (·.root.typeName == name)

/-- The table of one record with its statements. -/
def one (settings : Settings) (t : Tree) : Except GenerateError Generated :=
  match Table.loadWith settings.options t with
  | .error issue => .error (.loadFailed t.root.typeName issue)
  | .ok loaded =>
    match Catalog.build settings.dialect loaded.table with
    | .error clash => .error (.unlabelled t.root.typeName clash)
    | .ok catalog => .ok ⟨loaded.table, catalog⟩

/-- The tables of all records of the type that was asked for, or the first error. -/
def all (settings : Settings) (ts : List Tree) : Except GenerateError (List Generated) :=
  let chosen := selected settings ts
  match settings.typeName, chosen with
  | some name, [] => .error (.typeNotFound name)
  | _, _ => chosen.mapM (one settings)

/-- A statement under its label. -/
def statementText (s : Statement) : String :=
  "-- " ++ s.label ++ "\n" ++ s.sql ++ "\n\n"

/-- The statements of a catalog under the name of its table. -/
def catalogText (c : Catalog) : String :=
  "-- table: " ++ c.table ++ "\n\n" ++ String.join (c.statements.map statementText)

/-- The output of a run. -/
def render (format : Format) (gs : List Generated) : String :=
  match format with
  | .text => String.join (gs.map fun g => catalogText g.catalog)
  | .json => Document.printLines (gs.map fun g => Document.ofCatalog g.catalog)
  | .model => Document.printLines (gs.map fun g => Document.ofTable g.table)

/-- The schema scripts of all tables, one after the other. -/
def schemaScript (gs : List Generated) : String :=
  String.join (gs.map fun g => g.catalog.schemaScript)

end Generate

end RecordSql
