import RecordSql.English.Number
import RecordSql.Text.Blank
import RecordSql.Text.Words

/-!
# `RecordSql.Identifier`: names of tables, columns, constraints and statements

Every name in generated SQL is derived here from the names of a record. Tables are plural
and in snake case, columns carry the path of their field, and statement labels are in
camel case.
-/

set_option autoImplicit false

namespace RecordSql.Identifier

/-- The segment that stands for the record at the start of every column name. -/
def columnRoot : String := "f"

/-- The ending of statement labels, which start with a lowercase letter. -/
def statementEnding : String := "Stmt"

/-- The table of a record type: `BlogPost` becomes `blog_posts`. -/
def table (typeName : String) : String :=
  English.plural (Text.snake typeName)

/-- The entity of a table, for use in labels: `blog_posts` becomes `blog_post`. -/
def entity (tableName : String) : Except English.CaseClash String :=
  English.singular tableName

/-- The column of a field path. The first segment, the record itself, gives way to the
column root: `User`, `Address`, `ZipCode` becomes `f_address_zip_code`. -/
def column : List String → String
  | [] => ""
  | _ :: segments => Text.snake ("_".intercalate (columnRoot :: segments))

/-- The column of a referenced table, from the name of its field. -/
def targetColumn (source : String) : String :=
  columnRoot ++ "_" ++ Text.snake (Text.trimmed source)

/-- The default name of the foreign key from one table to another. -/
def foreignKey (tableName target : String) : String :=
  "fk_" ++ tableName ++ "_to_" ++ target

/-- The label made of the segments, in upper camel case; a label with the statement
ending is in lower camel case. -/
def label (segments : List String) : String :=
  let name := Text.upperCamel ("_".intercalate segments)
  if statementEnding.toList.isSuffixOf name.toList then Text.lowerCamel name else name

/-- The column name without the column root and its underscore. -/
def bareColumn (name : String) : String :=
  match name.toList with
  | 'f' :: '_' :: rest => String.ofList rest
  | _ => name

/-- Columns in upper camel case, joined: `f_user_id` and `f_name` with `And` become
`UserIdAndName`. -/
def joinColumns (columns : List String) (sep : String) : String :=
  sep.intercalate (columns.map fun c => Text.upperCamel (bareColumn c))

end RecordSql.Identifier
