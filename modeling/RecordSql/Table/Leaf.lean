import RecordSql.Table.Basic
import RecordSql.Table.Issue

/-!
# `RecordSql.Table.Leaf`: what a leaf of the field tree says

A leaf becomes a column. Its tags say into which indexes the column goes and to which
columns of other tables it refers, and some of them may be unusable.
-/

set_option autoImplicit false

namespace RecordSql.Table

open RecordSql.Record (Node NodeId Tags Kind)

/-- A leaf of a field tree with the name of its column. -/
structure Leaf where
  id : NodeId
  node : Node
  column : String
deriving DecidableEq, Repr

namespace Leaf

/-- The annotations of the leaf. -/
def tags (l : Leaf) : Tags :=
  l.node.tags.getD {}

/-- A field with this name is an auto-increment primary key if it is a 64-bit integer. -/
def idName : String := "ID"

/-- Whether the field is an auto-increment primary key by its name and kind. -/
def isId (l : Leaf) : Bool :=
  l.node.name == idName && l.node.kind = Kind.int64

/-- The type that the `type` tag asks for, unless it is blank. -/
def typeTag? (l : Leaf) : Option String :=
  (l.tags.type.map Text.trimmed).filter (!·.isEmpty)

/-- The column type: that of the `type` tag if it is known, else that of the kind. -/
def sqlType (l : Leaf) : SqlType :=
  (l.typeTag?.bind SqlType.ofTag?).getD (SqlType.ofKind l.node.kind)

/-- The column of the leaf. -/
def field (l : Leaf) : Field where
  node := l.id
  name := l.column
  type := l.sqlType
  primary := l.tags.primary || l.isId
  auto := l.tags.auto || l.isId
  size := l.tags.size

/-- The entries of the index tag. -/
def indexTag (l : Leaf) : Tag.Parsed Tag.IndexEntry :=
  (l.tags.index.map Tag.readIndexTag).getD {}

/-- The entries of the unique tag. -/
def uniqueTag (l : Leaf) : Tag.Parsed Tag.IndexEntry :=
  (l.tags.unique.map Tag.readIndexTag).getD {}

/-- The entries of the foreign tag. -/
def foreignTag (l : Leaf) : Tag.Parsed Tag.ForeignEntry :=
  (l.tags.foreign.map Tag.readForeignTag).getD {}

/-- The issue of a `type` tag that names no column type. -/
def typeIssues (l : Leaf) : List Issue :=
  let unknown := (l.typeTag?.filter (SqlType.ofTag? · |>.isNone)).toList
  unknown.map (.unknownSqlType l.node.name ·)

/-- The issues of the entries of a tag that are rejected. -/
def rejections (l : Leaf) (tag : EntryTag) (rejected : List Tag.Rejection) : List Issue :=
  rejected.map (.invalidTag l.column tag ·)

/-- The `tableName` tag, unless it is blank. -/
def tableName? (l : Leaf) : Option String :=
  (l.tags.tableName.map Text.trimmed).filter (!·.isEmpty)

/-- The foreign key of a reference: that of the entry, else that of the `foreignGroup` tag
unless it is blank, else the default one for the two tables. -/
def foreignName (l : Leaf) (tableName : String) (e : Tag.ForeignEntry) : String :=
  match e.group with
  | some group => group
  | none =>
    (l.tags.foreignGroup.filter fun g => !(Text.trimmed g).isEmpty).getD
      (Identifier.foreignKey tableName e.targetTable)

end Leaf

end RecordSql.Table
