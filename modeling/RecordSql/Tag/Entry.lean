import RecordSql.Identifier
import RecordSql.Tag.Operator

/-!
# `RecordSql.Tag.Entry`: the tag languages of indexes and foreign keys

A tag is a list of entries separated by `;`, and an entry is a list of up to three parts
separated by `@`:

* an index tag, which is also the language of unique tags, has entries
  `name`, `name@operator` and `name@operator@order`;
* a foreign tag has entries `column@table` and `column@table@group`.

```text
by_bio@LIKE;by_tags@CONTAINS@true     two index entries
UserID@users; GroupID @ groups @ g    two foreign entries
```

White space does not count in an index tag; in a foreign tag it does not count around a
part. An entry that is empty is passed over. Every other entry is either accepted or
rejected with the reason.
-/

set_option autoImplicit false

namespace RecordSql.Tag

/-- The largest number of parts of an entry. -/
def maxParts : Nat := 3

/-- Why an entry is rejected. Each reason holds the text of the entry. -/
inductive Rejection where
  | emptyName (entry : String)
  | emptySourceColumn (entry : String)
  | missingTargetTable (entry : String)
  | tooManyParts (entry : String) (found : Nat)
deriving DecidableEq, Repr

/-- The wording of a rejection. -/
def Rejection.message : Rejection → String
  | emptyName entry => "entry '" ++ entry ++ "' has an empty name"
  | emptySourceColumn entry => "entry '" ++ entry ++ "' has an empty source column"
  | missingTargetTable entry => "entry '" ++ entry ++ "' is missing a target table"
  | tooManyParts entry found =>
    "entry '" ++ entry ++ "' has " ++ toString found ++ " '@' segments, at most "
      ++ toString maxParts ++ " are allowed"

/-- The entries of a tag that are accepted and the reasons for the others, both in the
order of the tag. -/
structure Parsed (ε : Type) where
  entries : List ε := []
  rejected : List Rejection := []
deriving DecidableEq, Repr

namespace Parsed

/-- Adds what became of one more entry in front. -/
def cons {ε : Type} (result : Except Rejection ε) (p : Parsed ε) : Parsed ε :=
  match result with
  | .ok e => { p with entries := e :: p.entries }
  | .error r => { p with rejected := r :: p.rejected }

/-- Collects what became of the entries. -/
def ofResults {ε : Type} (results : List (Except Rejection ε)) : Parsed ε :=
  results.foldr cons {}

end Parsed

/-- The entries of a tag, cleaned and without the empty ones. -/
def pieces (clean : List Char → List Char) (tag : String) : List (List Char) :=
  ((Text.split (· == ';') tag.toList).map clean).filter (!·.isEmpty)

/-- An entry of an index tag or a unique tag. -/
structure IndexEntry where
  /-- The index that the column joins. -/
  name : String
  operator : Operator := .equal
  valueFirst : Bool := false
deriving DecidableEq, Repr

/-- Reads an entry without white space. -/
def IndexEntry.ofPiece (piece : List Char) : Except Rejection IndexEntry :=
  let parts := Text.split (· == '@') piece
  -- The number of parts is looked at before their contents.
  if maxParts < parts.length then
    .error (.tooManyParts (String.ofList piece) parts.length)
  else
    let name := parts.headD []
    if name.isEmpty then .error (.emptyName (String.ofList piece))
    else .ok {
      name := String.ofList name
      operator := Operator.ofWord ((parts[1]?).getD [])
      valueFirst := (parts[2]?).any (Text.sameIgnoringAsciiCase · ['t', 'r', 'u', 'e']) }

/-- Reads an index tag or a unique tag. -/
def readIndexTag (tag : String) : Parsed IndexEntry :=
  .ofResults ((pieces Text.removeBlanks tag).map IndexEntry.ofPiece)

/-- An entry of a foreign tag. -/
structure ForeignEntry where
  /-- The field of the other record, as it is written. -/
  sourceColumn : String
  targetTable : String
  /-- The foreign key to which the reference belongs, if the entry names it. -/
  group : Option String := none
deriving DecidableEq, Repr

/-- The column to which the entry refers. -/
def ForeignEntry.targetColumn (e : ForeignEntry) : String :=
  Identifier.targetColumn e.sourceColumn

/-- Reads a trimmed entry. -/
def ForeignEntry.ofPiece (piece : List Char) : Except Rejection ForeignEntry :=
  let parts := (Text.split (· == '@') piece).map Text.trim
  if maxParts < parts.length then
    .error (.tooManyParts (String.ofList piece) parts.length)
  else
    let source := parts.headD []
    let target := (parts[1]?).getD []
    if target.isEmpty then .error (.missingTargetTable (String.ofList piece))
    else if source.isEmpty then .error (.emptySourceColumn (String.ofList piece))
    else .ok {
      sourceColumn := String.ofList source
      targetTable := String.ofList target
      group := ((parts[2]?).filter (!·.isEmpty)).map String.ofList }

/-- Reads a foreign tag. -/
def readForeignTag (tag : String) : Parsed ForeignEntry :=
  .ofResults ((pieces Text.trim tag).map ForeignEntry.ofPiece)

end RecordSql.Tag
