import RecordSql.Sql.Dialect

/-!
# `RecordSql.Sql.Render`: the statements of a table

The text of every statement about a table. Names stand in the text as they are. Bound
values have placeholders, numbered through the whole statement where the dialect numbers
them: an update first sets all columns and then compares its keys, and a range comes after
the keys.
-/

set_option autoImplicit false

namespace RecordSql.Sql

variable (d : Dialect)

/-- The names of columns with commas between them. -/
def columnList (fs : List Field) : String :=
  ",".intercalate (fs.map (·.name))

/-- The comparison of a column with the value at a position. -/
def predicate (f : Field) (position : Nat) : String :=
  let value := d.placeholder position
  match f.operator with
  | .equal => f.name ++ "=" ++ value
  | .like => f.name ++ " LIKE " ++ value
  | .call function =>
    if f.valueFirst then function ++ "(" ++ value ++ "," ++ f.name ++ ")"
    else function ++ "(" ++ f.name ++ "," ++ value ++ ")"

/-- The comparisons of columns with values from a position on. -/
def predicates (fs : List Field) (offset : Nat) : List String :=
  fs.zipIdx.map fun (f, i) => predicate d f (offset + i)

/-- The condition that all columns compare with values from a position on; empty if there
are no columns. -/
def clause (fs : List Field) (offset : Nat) : String :=
  if fs.isEmpty then "" else "WHERE " ++ " AND ".intercalate (predicates d fs offset)

/-- A statement with its condition on a line of its own. -/
def filtered (head condition : String) : String :=
  if condition.isEmpty then head else head ++ "\n" ++ condition

/-- What introduces the columns of a table one by one: a space, then commas. -/
def cell (position : Nat) (f : Field) : String :=
  (if position = 0 then " " else ",") ++ f.name

/-- The text with spaces after it up to a width in characters. -/
def padded (width : Nat) (s : String) : String :=
  s ++ String.ofList (List.replicate (width - s.length) ' ')

/-- What stands after the name of a column: its type and the keywords that apply. -/
def properties (f : Field) : String :=
  -- A keyword that the dialect does not need is empty and leaves no space behind.
  let words := [d.columnType f, if f.primary then d.primaryKey else "",
    if f.auto then d.autoIncrement else ""]
  " ".intercalate (words.filter (!·.isEmpty))

/-- The place at which all column types start: one past the longest cell. -/
def typeColumn (cells : List String) : Nat :=
  (cells.map (·.length)).foldl max 0 + 1

/-- The definitions of the columns, one to a line. A line ends in a type or in a keyword, so it has
no white space at its end that would have to be trimmed. -/
def definitionLines (fs : List Field) : List String :=
  let cells := fs.zipIdx.map fun (f, i) => cell i f
  (cells.zip fs).map fun (c, f) => padded (typeColumn cells) c ++ properties d f

/-- `CREATE TABLE`, with every column on a line of its own. -/
def createTable (t : Table) : String :=
  "CREATE TABLE IF NOT EXISTS " ++ t.name ++ " ("
    ++ String.join ((definitionLines d t.fields).map ("\n" ++ ·)) ++ "\n);"

/-- `CREATE INDEX`. -/
def createIndex (t : Table) (ix : Index) : String :=
  "CREATE " ++ (if ix.unique then "UNIQUE INDEX " else "INDEX ") ++ d.indexGuard ++ ix.name
    ++ " ON " ++ t.name ++ " (" ++ columnList ix.fields ++ ")" ++ d.indexEnd

/-- `ALTER TABLE` with a new foreign key. -/
def addForeignKey (t : Table) (k : ForeignKey) : String :=
  "ALTER TABLE " ++ t.name ++ " ADD FOREIGN KEY (" ++ ",".intercalate k.fromColumns
    ++ ") REFERENCES " ++ k.toTable ++ " (" ++ ",".intercalate k.toColumns ++ ");"

/-- The placeholders of the first `count` values. -/
def placeholders (count : Nat) : List String :=
  (List.range count).map d.placeholder

/-- `INSERT` of the columns that the database does not generate. -/
def insert (t : Table) : String :=
  let fs := t.insertable
  "INSERT INTO " ++ t.name ++ " (" ++ columnList fs ++ "\n) VALUES ("
    ++ ",".intercalate (placeholders d fs.length) ++ ")"

/-- The assignments of values to columns. -/
def assignments (fs : List Field) : List String :=
  fs.zipIdx.map fun (f, i) => f.name ++ "=" ++ d.placeholder i

/-- `UPDATE` of all columns where the keys compare. -/
def update (t : Table) (keys : List Field) : String :=
  filtered ("UPDATE " ++ t.name ++ " SET " ++ ",".intercalate (assignments d t.fields))
    (clause d keys t.fields.length)

/-- `DELETE` where the keys compare. -/
def delete (t : Table) (keys : List Field) : String :=
  filtered ("DELETE FROM " ++ t.name) (clause d keys 0)

/-- `SELECT` of all columns where the keys compare. -/
def select (t : Table) (keys : List Field) : String :=
  filtered ("SELECT " ++ columnList t.fields ++ "\nFROM " ++ t.name) (clause d keys 0)

/-- `SELECT` of a range of the rows where the keys compare. -/
def selectRange (t : Table) (keys : List Field) : String :=
  select d t keys ++ "\nLIMIT " ++ d.placeholder keys.length ++ " OFFSET "
    ++ d.placeholder (keys.length + 1)

/-- `SELECT` of the number of rows where the keys compare. -/
def selectCount (t : Table) (keys : List Field) : String :=
  filtered ("SELECT count(1)\nFROM " ++ t.name) (clause d keys 0)

end RecordSql.Sql
