/-!
# `RecordSql.Record.Tags`: annotations of a field

Every annotation is optional. Those that hold text keep it as it was written; the tag
languages are read when a table is made.
-/

set_option autoImplicit false

namespace RecordSql.Record

/-- The annotations of a field. -/
structure Tags where
  /-- Leave the field out of the table. -/
  skip : Bool := false
  /-- The segment of this field in column names, in place of its name. -/
  name : Option String := none
  primary : Bool := false
  auto : Bool := false
  /-- The size of the column; 0 leaves it to the dialect. -/
  size : Nat := 0
  /-- The name of an explicit SQL type. -/
  type : Option String := none
  /-- The indexes that the column joins. -/
  index : Option String := none
  /-- The indexes that the column joins and makes unique. -/
  unique : Option String := none
  /-- The columns of other tables that the column refers to. -/
  foreign : Option String := none
  /-- The foreign key of references that name none themselves. -/
  foreignGroup : Option String := none
  /-- Many rows of this table may refer to one row of the other. -/
  many : Bool := false
  /-- The table of the record, in place of the derived one. -/
  tableName : Option String := none
deriving DecidableEq, Repr, Inhabited

end RecordSql.Record
