import RecordSql.Document.Decode
import RecordSql.Document.Reader
import RecordSql.Record.Nested

/-!
# `RecordSql.Document.Records`: documents of record definitions

An input document holds the nested definition of one record or a list of them. No value
is both: the array form of a definition starts with a string, a list of definitions does
not.
-/

set_option autoImplicit false

namespace RecordSql.Document

open RecordSql.Record (Kind Nested Node NodeId Tags Tree)

/-- The names of the annotations, in order. -/
def tagKeys : List String :=
  ["skip", "name", "primary", "auto", "size", "type", "index", "unique", "foreign",
    "foreignGroup", "many", "tableName"]

/-- Annotations. All have defaults; those that hold text may be null. -/
def tags? (v : Value) : Option Tags := do
  let flag := optional false Value.bool?
  let text := optional none (Value.nullable? Value.string?)
  match ← v.slots? tagKeys with
  | [skip, name, primary, auto, size, type, index, unique, foreign, foreignGroup, many,
      tableName] =>
    return {
      skip := ← flag skip
      name := ← text name
      primary := ← flag primary
      auto := ← flag auto
      size := ← optional 0 Value.size? size
      type := ← text type
      index := ← text index
      unique := ← text unique
      foreign := ← text foreign
      foreignGroup := ← text foreignGroup
      many := ← flag many
      tableName := ← text tableName }
  | _ => none

/-- The names of the fields of a definition, in order. -/
def nestedKeys : List String :=
  ["name", "type", "kind", "tags", "children"]

/-- A definition, given the values of its fields and the definitions inside it. -/
def assemble? (slots : List (Option Value)) (children : List Nested) : Option Nested := do
  match slots with
  | [name, type, kind, tags, _] =>
    return .field
      (← required Value.string? name)
      (← required Value.string? type)
      (← optional none (Value.nullable? (Value.choice? Kind.ofName?)) kind)
      (← optional none (Value.nullable? tags?) tags)
      children
  | _ => none

mutual

/-- The definition of a field with its fields inside it. -/
def nested? : Value → Option Nested
  | .object entries => do
    assemble? (← (Value.object entries).slots? nestedKeys) (← childrenOfEntries? entries)
  | .array items => do
    assemble? (← (Value.array items).slots? nestedKeys) (← childrenOfItems? 4 items)
  | _ => none

/-- The definitions under the key `children`, none if there is no such key. -/
def childrenOfEntries? : List (String × Value) → Option (List Nested)
  | [] => some []
  | (key, v) :: entries =>
    if key = "children" then nestedList? v else childrenOfEntries? entries

/-- The definitions in the item with a given position, none if there is no such item. -/
def childrenOfItems? : Nat → List Value → Option (List Nested)
  | _, [] => some []
  | 0, v :: _ => nestedList? v
  | position + 1, _ :: items => childrenOfItems? position items

/-- A list of definitions. -/
def nestedList? : Value → Option (List Nested)
  | .array items => nestedAll? items
  | _ => none

/-- The definitions that the items are, if all are. -/
def nestedAll? : List Value → Option (List Nested)
  | [] => some []
  | v :: items => do
    let d ← nested? v
    let ds ← nestedAll? items
    return d :: ds

end

/-- The records of a document: one, or a list of them. -/
def records? (v : Value) : Option (List Nested) :=
  match nested? v with
  | some d => some [d]
  | none => nestedList? v

/-- Why a text is no document of records. -/
inductive DocumentError where
  /-- It is no JSON, or more than one value. -/
  | notJson
  /-- Its value describes no records. -/
  | notRecords
deriving DecidableEq, Repr

/-- The field trees of a document. What follows the first value is looked at last. -/
def readTrees (text : String) : Except DocumentError (List Tree) :=
  match read? nestingLimit text with
  | none => .error .notJson
  | some reading =>
    match records? reading.value with
    | none => .error .notRecords
    | some ds => if reading.isWhole then .ok (ds.map Nested.toTree) else .error .notJson

/-- Text that may be absent. -/
def ofText : Option String → Value
  | none => .null
  | some s => .string s

/-- Annotations as a value. -/
def ofTags (t : Tags) : Value :=
  .object [("skip", .bool t.skip), ("name", ofText t.name), ("primary", .bool t.primary),
    ("auto", .bool t.auto), ("size", .natural t.size), ("type", ofText t.type),
    ("index", ofText t.index), ("unique", ofText t.unique), ("foreign", ofText t.foreign),
    ("foreignGroup", ofText t.foreignGroup), ("many", .bool t.many),
    ("tableName", ofText t.tableName)]

end RecordSql.Document
