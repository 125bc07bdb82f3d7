import RecordSql.Tag.Entry

/-!
# `RecordSql.Tag.Printer`: writing tags

The entries of a tag are written with all their parts, so nothing is left to a default:
an index entry always has an operator and an order. A foreign entry has a third part only if it
names a foreign key.

```text
by_bio@LIKE@false;by_tags@CONTAINS@true
UserID@users;GroupID@groups@g
```
-/

set_option autoImplicit false

namespace RecordSql.Tag

/-- The word for an operator. -/
def Operator.word : Operator → String
  | equal => "="
  | like => "LIKE"
  | call function => function

/-- The parts of an index entry as they are written. -/
def IndexEntry.parts (e : IndexEntry) : List String :=
  [e.name, e.operator.word, if e.valueFirst then "true" else "false"]

/-- The parts of a foreign entry as they are written. -/
def ForeignEntry.parts (e : ForeignEntry) : List String :=
  e.sourceColumn :: e.targetTable :: e.group.toList

/-- The text of an index entry. -/
def IndexEntry.print (e : IndexEntry) : String :=
  "@".intercalate e.parts

/-- The text of a foreign entry. -/
def ForeignEntry.print (e : ForeignEntry) : String :=
  "@".intercalate e.parts

/-- An index tag or unique tag with the given entries. -/
def printIndexTag (es : List IndexEntry) : String :=
  ";".intercalate (es.map IndexEntry.print)

/-- A foreign tag with the given entries. -/
def printForeignTag (es : List ForeignEntry) : String :=
  ";".intercalate (es.map ForeignEntry.print)

end RecordSql.Tag
