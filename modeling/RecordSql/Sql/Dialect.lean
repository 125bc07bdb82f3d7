import RecordSql.Table.Basic

/-!
# `RecordSql.Sql.Dialect`: what differs between databases

A dialect has its own column types, its own keyword for generated values, its own
placeholders and its own form of `CREATE INDEX`.
-/

set_option autoImplicit false

namespace RecordSql.Sql

/-- A database. -/
inductive Dialect where
  | sqlite
  | postgres
  | mysql
deriving DecidableEq, Repr, Inhabited

namespace Dialect

/-- All dialects. -/
def all : List Dialect :=
  [sqlite, postgres, mysql]

/-- The name of a dialect. -/
def name : Dialect → String
  | sqlite => "sqlite"
  | postgres => "postgres"
  | mysql => "mysql"

/-- The text that describes a renderer of the dialect. -/
def description (d : Dialect) : String :=
  "Renderer \x7b dialect: \"" ++ d.name ++ "\" \x7d"

/-- The names by which a dialect may be chosen, in lowercase. -/
def choices : List (String × Dialect) :=
  [("sqlite", sqlite), ("sqlite3", sqlite), ("postgres", postgres), ("postgresql", postgres),
    ("mysql", mysql)]

/-- The form in which the name of a dialect is looked up. -/
def normalized (choice : String) : String :=
  String.ofList (Text.asciiLower (Text.trim choice.toList))

/-- The dialect with a given name, in any case and with white space around it. -/
def ofChoice? (choice : String) : Option Dialect :=
  choices.lookup (normalized choice)

/-- The dialect with a given name, or SQLite if no dialect has it. -/
def ofChoice (choice : String) : Dialect :=
  (ofChoice? choice).getD sqlite

/-- The wording of the warning about an unknown dialect. -/
def fallbackMessage : String :=
  "Unknown dialect, falling back to sqlite"

/-- The size of a MySQL text column that has no size of its own. -/
def mysqlTextSize : Nat := 512

/-- The SQLite type of a column. A generated value needs the type `INTEGER`. -/
def sqliteType (f : Field) : String :=
  match f.type with
  | .integer => "INTEGER"
  | .long => if f.auto then "INTEGER" else "TEXT"
  | .boolean => "BOOLEAN"
  | .blob => "BLOB"
  | .real | .float | .double => "REAL"
  | .varchar | .mediumText | .longText => "TEXT"

/-- The PostgreSQL type of a column. A generated integer has a serial type. -/
def postgresType (f : Field) : String :=
  match f.type with
  | .integer => if f.auto then "SERIAL" else "INTEGER"
  | .long => if f.auto then "BIGSERIAL" else "BIGINT"
  | .varchar => if 0 < f.size then "VARCHAR(" ++ toString f.size ++ ")" else "TEXT"
  | .mediumText | .longText => "TEXT"
  | .boolean => "BOOLEAN"
  | .real | .float => "REAL"
  | .double => "DOUBLE PRECISION"
  | .blob => "BYTEA"

/-- The MySQL type of a column. -/
def mysqlType (f : Field) : String :=
  match f.type with
  | .integer => "INTEGER"
  | .long => "BIGINT"
  | .float => "FLOAT"
  | .double => "DOUBLE"
  | .real => "REAL"
  | .boolean => "BOOLEAN"
  | .blob => "MEDIUMBLOB"
  | .mediumText => "MEDIUMTEXT"
  | .longText => "LONGTEXT"
  | .varchar =>
    "VARCHAR(" ++ toString (if f.size = 0 then mysqlTextSize else f.size) ++ ")"

/-- The type of a column. -/
def columnType : Dialect → Field → String
  | sqlite, f => sqliteType f
  | postgres, f => postgresType f
  | mysql, f => mysqlType f

/-- The keywords of a primary key column. -/
def primaryKey : Dialect → String
  | sqlite | postgres | mysql => "PRIMARY KEY"

/-- The keyword of a column with generated values; empty if the type says so already. -/
def autoIncrement : Dialect → String
  | sqlite => "AUTOINCREMENT"
  | postgres => ""
  | mysql => "AUTO_INCREMENT"

/-- The placeholder of the value with a given position, counted from 0. -/
def placeholder : Dialect → Nat → String
  | postgres, position => "$" ++ toString (position + 1)
  | sqlite, _ | mysql, _ => "?"

/-- What stands between `CREATE INDEX` and the name of the index. -/
def indexGuard : Dialect → String
  | sqlite | postgres => "IF NOT EXISTS "
  | mysql => ""

/-- What ends a `CREATE INDEX` statement. -/
def indexEnd : Dialect → String
  | sqlite | postgres => ""
  | mysql => ";"

end Dialect

end RecordSql.Sql
