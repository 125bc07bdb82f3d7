import RecordSql.Table.Leaf
import RecordSql.Table.Registry

/-!
# `RecordSql.Table.Builder`: a table in the making

The table of a record is made in two passes over its leaves. The first settles the name of
the table (`chooseName`), which the default names of foreign keys contain. The second adds
leaf after leaf (`Builder.addLeaf`): a leaf whose column is taken is reported and nothing
else of it is looked at; of any other, the column goes into the primary key, the indexes
and the foreign keys that its tags name, and what cannot be used is reported on the way.
-/

set_option autoImplicit false

namespace RecordSql.Table

/-- The name of the table that leaves ask for, as far as they have been looked at. -/
structure NameChoice where
  chosen : Option String := none
  conflicts : List Issue := []
deriving DecidableEq, Repr

/-- Considers one more name. The first one is taken; a later one that differs is reported. -/
def NameChoice.consider (c : NameChoice) (name : String) : NameChoice :=
  match c.chosen with
  | none => { c with chosen := some name }
  | some first =>
    if first = name then c
    else { c with conflicts := c.conflicts ++ [.conflictingTableName first name] }

/-- The name of the table that the leaves ask for. -/
def chooseName (ls : List Leaf) : NameChoice :=
  (ls.filterMap (·.tableName?)).foldl NameChoice.consider {}

/-- What has been made of a table. -/
structure Builder where
  name : String
  /-- The names of columns that are taken. -/
  columns : List String := []
  fields : List Field := []
  primary : List Field := []
  indexes : Registry Index := {}
  foreignKeys : Registry ForeignKey := {}
  issues : List Issue := []
deriving DecidableEq, Repr

namespace Builder

/-- Reports issues. -/
def report (b : Builder) (issues : List Issue) : Builder :=
  { b with issues := b.issues ++ issues }

/-- Takes the name of a column. -/
def takeColumn (b : Builder) (column : String) : Builder :=
  { b with columns := column :: b.columns }

/-- Adds a column to the primary key if it is marked as primary. -/
def addPrimary (b : Builder) (f : Field) : Builder :=
  { b with primary := if f.primary then b.primary ++ [f] else b.primary }

/-- Puts the column of a leaf into the index that an entry names. -/
def joinIndex (l : Leaf) (unique : Bool) (b : Builder) (e : Tag.IndexEntry) : Builder :=
  let item := l.field.withOperator e.operator e.valueFirst
  { b with indexes := b.indexes.update e.name { name := e.name } (·.push unique item) }

/-- Puts the column of a leaf into the indexes that a tag names. -/
def joinIndexes (b : Builder) (l : Leaf) (tag : EntryTag) (unique : Bool)
    (p : Tag.Parsed Tag.IndexEntry) : Builder :=
  p.entries.foldl (joinIndex l unique) (b.report (l.rejections tag p.rejected))

/-- Adds the reference of an entry to the foreign key of its name. -/
def joinForeignKey (l : Leaf) (b : Builder) (e : Tag.ForeignEntry) : Builder :=
  let name := l.foreignName b.name e
  let fresh : ForeignKey := { name, toTable := e.targetTable, many := l.tags.many }
  { b with foreignKeys := b.foreignKeys.update name fresh (·.push l.field e.targetColumn) }

/-- Adds the references of a leaf's column. -/
def joinForeignKeys (b : Builder) (l : Leaf) (p : Tag.Parsed Tag.ForeignEntry) : Builder :=
  p.entries.foldl (joinForeignKey l) (b.report (l.rejections .foreign p.rejected))

/-- Appends a column. -/
def addField (b : Builder) (f : Field) : Builder :=
  { b with fields := b.fields ++ [f] }

/-- Adds a leaf. -/
def addLeaf (b : Builder) (l : Leaf) : Builder :=
  if l.column ∈ b.columns then
    b.report [.duplicateColumn l.column l.node.name]
  else
    b.takeColumn l.column
      |>.report l.typeIssues
      |>.addPrimary l.field
      |>.joinIndexes l .index false l.indexTag
      |>.joinIndexes l .unique true l.uniqueTag
      |>.joinForeignKeys l l.foreignTag
      |>.addField l.field

/-- The table that has been made. -/
def table (b : Builder) : Table where
  name := b.name
  fields := b.fields
  primary := b.primary
  indexes := b.indexes.entries
  foreignKeys := b.foreignKeys.entries

end Builder

end RecordSql.Table
