import RecordSql.Record.Tree
import RecordSql.Table.SqlType
import RecordSql.Tag.Operator

/-!
# `RecordSql.Table.Basic`: tables

A table has columns, a primary key, indexes and foreign keys. Indexes and foreign keys
hold copies of the columns they are about; a copy in an index has its own way to be
compared in a condition.
-/

set_option autoImplicit false

namespace RecordSql

/-- A column. -/
structure Field where
  /-- The leaf of the field tree from which the column comes. -/
  node : Record.NodeId
  name : String
  type : Table.SqlType
  primary : Bool := false
  auto : Bool := false
  /-- The size of the column; 0 leaves it to the dialect. -/
  size : Nat := 0
  /-- How the column is compared in a condition. -/
  operator : Tag.Operator := .equal
  /-- Whether a function gets the bound value as its first argument. -/
  valueFirst : Bool := false
deriving DecidableEq, Repr

/-- The column with another way to be compared. -/
def Field.withOperator (f : Field) (operator : Tag.Operator) (valueFirst : Bool) : Field :=
  { f with operator, valueFirst }

/-- A named index. -/
structure Index where
  name : String
  unique : Bool := false
  /-- The indexed columns in order. -/
  fields : List Field := []
deriving DecidableEq, Repr

/-- Appends a column. The index becomes unique if `unique` asks for it. -/
def Index.push (ix : Index) (unique : Bool) (f : Field) : Index :=
  { ix with unique := ix.unique || unique, fields := ix.fields ++ [f] }

/-- The names of the indexed columns. -/
def Index.columnNames (ix : Index) : List String :=
  ix.fields.map (·.name)

/-- Columns that refer to columns of another table. -/
structure ForeignKey where
  name : String
  toTable : String
  /-- The referring columns; each refers to the column of `toColumns` at its place. -/
  fromColumns : List String := []
  toColumns : List String := []
  /-- The fields behind `fromColumns`. -/
  fromFields : List Field := []
  /-- Many rows of this table may refer to one row of the other. -/
  many : Bool
deriving DecidableEq, Repr

/-- Adds a pair of columns. -/
def ForeignKey.push (k : ForeignKey) (f : Field) (toColumn : String) : ForeignKey :=
  { k with
    fromColumns := k.fromColumns ++ [f.name]
    toColumns := k.toColumns ++ [toColumn]
    fromFields := k.fromFields ++ [f] }

/-- The pairs of a referring column and the column it refers to. -/
def ForeignKey.pairs (k : ForeignKey) : List (String × String) :=
  k.fromColumns.zip k.toColumns

/-- A table. -/
structure Table where
  name : String
  /-- The columns in order. -/
  fields : List Field := []
  /-- The columns of the primary key in order. -/
  primary : List Field := []
  indexes : List Index := []
  foreignKeys : List ForeignKey := []
deriving DecidableEq, Repr

namespace Table

/-- Appends a column, to the primary key as well if it is marked as primary. -/
def addField (t : Table) (f : Field) : Table :=
  { t with
    fields := t.fields ++ [f]
    primary := if f.primary then t.primary ++ [f] else t.primary }

/-- Appends an index. -/
def addIndex (t : Table) (ix : Index) : Table :=
  { t with indexes := t.indexes ++ [ix] }

/-- Appends a foreign key. -/
def addForeignKey (t : Table) (k : ForeignKey) : Table :=
  { t with foreignKeys := t.foreignKeys ++ [k] }

/-- The first column with a given name. -/
def field? (t : Table) (name : String) : Option Field :=
  t.fields.find? (·.name == name)

/-- The first index with a given name. -/
def index? (t : Table) (name : String) : Option Index :=
  t.indexes.find? (·.name == name)

/-- The first foreign key with a given name. -/
def foreignKey? (t : Table) (name : String) : Option ForeignKey :=
  t.foreignKeys.find? (·.name == name)

/-- The columns that an insert sets: all that the database does not generate. -/
def insertable (t : Table) : List Field :=
  t.fields.filter (!·.auto)

end Table

end RecordSql
