import RecordSql.Record.Kind
import RecordSql.Text.Case

/-!
# `RecordSql.Table.SqlType`: column types

The column types that every dialect can write. A column has the type of its field's kind
unless the field names one.
-/

set_option autoImplicit false

namespace RecordSql.Table

/-- A column type. -/
inductive SqlType where
  | integer
  | long
  | varchar
  | boolean
  | real
  | blob
  | float
  | double
  | mediumText
  | longText
deriving DecidableEq, Repr

namespace SqlType

/-- All column types. -/
def all : List SqlType :=
  [integer, long, varchar, boolean, real, blob, float, double, mediumText, longText]

/-- The name of a column type in documents. -/
def name : SqlType → String
  | integer => "INTEGER"
  | long => "LONG"
  | varchar => "VARCHAR"
  | boolean => "BOOLEAN"
  | real => "REAL"
  | blob => "BLOB"
  | float => "FLOAT"
  | double => "DOUBLE"
  | mediumText => "MEDIUMTEXT"
  | longText => "LONGTEXT"

/-- The column type with a given name in documents. -/
def ofName? (s : String) : Option SqlType :=
  all.find? (·.name == s)

/-- The column type of a kind. What has no scalar type is stored as it is. -/
def ofKind : Record.Kind → SqlType
  | .bool => boolean
  | .int | .int8 | .int16 | .int32 | .uint | .uint8 | .uint16 | .uint32 | .uint64
  | .complex64 | .complex128 => integer
  | .int64 => long
  | .float32 => float
  | .float64 => double
  | .string => varchar
  | .interface | .bytes | .map | .slice | .struct | .pointer | .other => blob

/-- The names by which a tag may ask for a column type, in lowercase. -/
def tagNames : List (String × SqlType) :=
  [("text", varchar), ("varchar", varchar), ("varchar2", varchar), ("number", integer),
    ("integer", integer), ("int", integer), ("long", long), ("bigint", long), ("bool", boolean),
    ("boolean", boolean), ("real", real), ("blob", blob), ("bytea", blob), ("float", float),
    ("double", double), ("mediumtext", mediumText), ("longtext", longText)]

/-- The column type that a tag asks for, in any case and with white space around it. -/
def ofTag? (s : String) : Option SqlType :=
  tagNames.lookup (String.ofList (Text.asciiLower (Text.trim s.toList)))

end SqlType

end RecordSql.Table
