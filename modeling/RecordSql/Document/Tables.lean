import RecordSql.Document.Decode
import RecordSql.Table.Basic

/-!
# `RecordSql.Document.Tables`: documents of tables

Tables are written as objects with their keys in a fixed order, and read back by the same
keys. All of them are required.
-/

set_option autoImplicit false

namespace RecordSql.Document

open RecordSql.Table (SqlType)
open RecordSql.Tag (Operator)

/-- A comparison: a name, or a function under the key `Call`. -/
def ofOperator : Operator → Value
  | .equal => .string "Eq"
  | .like => .string "Like"
  | .call function => .object [("Call", .string function)]

/-- A comparison with a given name. -/
def operatorOfName? (s : String) : Option Operator :=
  if s = "Eq" then some .equal else if s = "Like" then some .like else none

/-- Reads a comparison. -/
def operator? : Value → Option Operator
  | .object [("Call", .string function)] => some (.call function)
  | v => v.choice? operatorOfName?

/-- The keys of a column. -/
def fieldKeys : List String :=
  ["node", "name", "sql_type", "primary", "auto", "size", "operator", "value_as_first_arg"]

/-- A column as a value. -/
def ofField (f : Field) : Value :=
  .object [("node", .natural f.node), ("name", .string f.name),
    ("sql_type", .string f.type.name), ("primary", .bool f.primary), ("auto", .bool f.auto),
    ("size", .natural f.size), ("operator", ofOperator f.operator),
    ("value_as_first_arg", .bool f.valueFirst)]

/-- Reads a column. -/
def field? (v : Value) : Option Field := do
  match ← v.slots? fieldKeys with
  | [node, name, type, primary, auto, size, operator, valueFirst] =>
    return {
      node := ← required Value.size? node
      name := ← required Value.string? name
      type := ← required (Value.choice? SqlType.ofName?) type
      primary := ← required Value.bool? primary
      auto := ← required Value.bool? auto
      size := ← required Value.size? size
      operator := ← required operator? operator
      valueFirst := ← required Value.bool? valueFirst }
  | _ => none

/-- The keys of an index. -/
def indexKeys : List String :=
  ["name", "unique", "fields"]

/-- An index as a value. -/
def ofIndex (ix : Index) : Value :=
  .object [("name", .string ix.name), ("unique", .bool ix.unique),
    ("fields", .array (ix.fields.map ofField))]

/-- Reads an index. -/
def index? (v : Value) : Option Index := do
  match ← v.slots? indexKeys with
  | [name, unique, fields] =>
    return {
      name := ← required Value.string? name
      unique := ← required Value.bool? unique
      fields := ← required (Value.list? field?) fields }
  | _ => none

/-- The keys of a foreign key. -/
def foreignKeyKeys : List String :=
  ["name", "to_table", "from_columns", "to_columns", "from_fields", "many"]

/-- A foreign key as a value. -/
def ofForeignKey (k : ForeignKey) : Value :=
  .object [("name", .string k.name), ("to_table", .string k.toTable),
    ("from_columns", .array (k.fromColumns.map .string)),
    ("to_columns", .array (k.toColumns.map .string)),
    ("from_fields", .array (k.fromFields.map ofField)), ("many", .bool k.many)]

/-- Reads a foreign key. -/
def foreignKey? (v : Value) : Option ForeignKey := do
  match ← v.slots? foreignKeyKeys with
  | [name, toTable, fromColumns, toColumns, fromFields, many] =>
    return {
      name := ← required Value.string? name
      toTable := ← required Value.string? toTable
      fromColumns := ← required (Value.list? Value.string?) fromColumns
      toColumns := ← required (Value.list? Value.string?) toColumns
      fromFields := ← required (Value.list? field?) fromFields
      many := ← required Value.bool? many }
  | _ => none

/-- The keys of a table. -/
def tableKeys : List String :=
  ["name", "fields", "primary", "indexes", "foreign_keys"]

/-- A table as a value. -/
def ofTable (t : Table) : Value :=
  .object [("name", .string t.name), ("fields", .array (t.fields.map ofField)),
    ("primary", .array (t.primary.map ofField)), ("indexes", .array (t.indexes.map ofIndex)),
    ("foreign_keys", .array (t.foreignKeys.map ofForeignKey))]

/-- Reads a table. -/
def table? (v : Value) : Option Table := do
  match ← v.slots? tableKeys with
  | [name, fields, primary, indexes, foreignKeys] =>
    return {
      name := ← required Value.string? name
      fields := ← required (Value.list? field?) fields
      primary := ← required (Value.list? field?) primary
      indexes := ← required (Value.list? index?) indexes
      foreignKeys := ← required (Value.list? foreignKey?) foreignKeys }
  | _ => none

end RecordSql.Document
