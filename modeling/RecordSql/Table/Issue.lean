import RecordSql.Tag.Entry

/-!
# `RecordSql.Table.Issue`: what can be wrong with a record

Lenient loading passes over what it cannot use and reports it as a warning; strict loading
fails with the first issue.
-/

set_option autoImplicit false

namespace RecordSql.Table

/-- The tags that are lists of entries. -/
inductive EntryTag where
  | index
  | unique
  | foreign
deriving DecidableEq, Repr

/-- The name of an entry tag. -/
def EntryTag.name : EntryTag → String
  | index => "index"
  | unique => "unique"
  | foreign => "foreign"

/-- Something in a record that cannot be used. -/
inductive Issue where
  /-- An entry of a tag that is rejected. -/
  | invalidTag (column : String) (tag : EntryTag) (reason : Tag.Rejection)
  /-- A `type` tag that names no column type. -/
  | unknownSqlType (field typeName : String)
  /-- A field whose column another field has already. -/
  | duplicateColumn (column field : String)
  /-- A `tableName` tag that differs from the first one. -/
  | conflictingTableName (first second : String)
deriving DecidableEq, Repr

/-- The wording of an issue. -/
def Issue.message : Issue → String
  | invalidTag column tag reason =>
    "invalid " ++ tag.name ++ " tag on field '" ++ column ++ "': " ++ reason.message
  | unknownSqlType field typeName =>
    "unknown SQL type '" ++ typeName ++ "' on field '" ++ field ++ "'"
  | duplicateColumn column field =>
    "field '" ++ field ++ "' maps to column '" ++ column ++ "', which is already taken"
  | conflictingTableName first second =>
    "conflicting table name overrides '" ++ first ++ "' and '" ++ second ++ "'"

end RecordSql.Table
