import RecordSql.Catalog.Basic
import RecordSql.Identifier
import RecordSql.Sql.Render

/-!
# `RecordSql.Catalog.Offer`: the statements a table calls for

Every table has its `CREATE TABLE`, an insert and three selects. A primary key adds a
select, an update and a delete by that key; an index adds the statements by its columns;
a foreign key adds the selects of the rows of another table's row. Each statement is
offered with the segments of its label. Statements by an index or a foreign key carry its
name as a qualifier, which tells them apart from others with the same columns.
-/

set_option autoImplicit false

namespace RecordSql.Catalog

open RecordSql.Sql (Dialect)

/-- A statement with the segments of its label. -/
structure Offer where
  kind : StatementKind
  sql : String
  label : List String
  qualifier : Option String := none
deriving DecidableEq, Repr

namespace Offer

/-- The segment that ends every label. -/
def ending : String := "stmt"

/-- The label of a statement that changes the schema. -/
def create (name sql : String) : Offer :=
  { kind := .schema, sql, label := ["create", name, ending] }

/-- A query whose label has a verb and further segments. -/
def query (sql : String) (segments : List String) (qualifier : Option String := none) : Offer :=
  { kind := .query, sql, label := segments ++ [ending], qualifier }

/-- The label with the qualifier before its last segment. -/
def qualifiedLabel (label : List String) (qualifier : String) : List String :=
  label.dropLast ++ ["via", qualifier] ++ label.getLast?.toList

end Offer

/-- The columns as a segment of a label. -/
def keySegment (fs : List Field) : String :=
  Identifier.joinColumns (fs.map (·.name)) "And"

section

variable (d : Dialect) (t : Table) (entity : String)

/-- What every table calls for. -/
def baseOffers : List Offer :=
  [.create entity (Sql.createTable d t),
    .query (Sql.insert d t) ["insert", entity],
    .query (Sql.select d t []) ["select", entity],
    .query (Sql.selectRange d t []) ["select", entity, "range"],
    .query (Sql.selectCount d t []) ["select", entity, "count"]]

/-- What a primary key calls for. -/
def primaryOffers : List Offer :=
  let key := keySegment t.primary
  if t.primary.isEmpty then []
  else
    [.query (Sql.select d t t.primary) ["select", entity, "by", key],
      .query (Sql.update d t t.primary) ["update", entity, "by", key],
      .query (Sql.delete d t t.primary) ["delete", entity, "by", key]]

/-- What an index calls for. Rows are updated and deleted only by a unique index; a range
makes sense only for another. -/
def indexOffers (ix : Index) : List Offer :=
  let key := keySegment ix.fields
  [.create ix.name (Sql.createIndex d t ix),
    .query (Sql.select d t ix.fields) ["select", entity, "by", key] ix.name,
    .query (Sql.selectCount d t ix.fields) ["select", entity, "count", "by", key] ix.name]
    ++ if ix.unique then
        [.query (Sql.update d t ix.fields) ["update", entity, "by", key] ix.name,
          .query (Sql.delete d t ix.fields) ["delete", entity, "by", key] ix.name]
      else
        [.query (Sql.selectRange d t ix.fields) ["select", entity, "range", "by", key] ix.name]

/-- What a foreign key calls for, with the entities of the table that it references and of
its own name. -/
def foreignKeyOffers (k : ForeignKey) (target own : String) : List Offer :=
  let key := Identifier.joinColumns k.fromColumns "And"
  [.create own (Sql.addForeignKey t k),
    .query (Sql.select d t k.fromFields) ["select", entity, "of", target, "by", key] k.name]
    ++ if k.many then
        [.query (Sql.selectRange d t k.fromFields)
          ["select", entity, "of", target, "range", "by", key] k.name]
      else []

end

/-- What a table calls for, in order. There is nothing if one of the names in the labels
has no entity. -/
def offers (d : Dialect) (t : Table) : Except English.CaseClash (List Offer) := do
  let entity ← Identifier.entity t.name
  let ofKeys ← t.foreignKeys.mapM fun k => do
    return foreignKeyOffers d t entity k (← Identifier.entity k.toTable)
      (← Identifier.entity k.name)
  return baseOffers d t entity ++ primaryOffers d t entity
    ++ t.indexes.flatMap (indexOffers d t entity) ++ ofKeys.flatten

end RecordSql.Catalog
