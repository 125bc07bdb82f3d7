import RecordSql.Table.Builder
import RecordSql.Table.Options

/-!
# `RecordSql.Table.Load`: the table of a record

Every leaf of the field tree that is not skipped becomes a column, unless an earlier leaf
has a column of that name. The entries of the index, unique and foreign tags, in the order
of the columns, are grouped by the name of the index or foreign key that they name.

`load` also lists the issues of the record. `loadWith` fails with the first of them under
strict validation.
-/

set_option autoImplicit false

namespace RecordSql.Table

open RecordSql.Record (Tree NodeId)

/-- The leaf of a tree with a given number, unless it is to be skipped. -/
def leaf? (t : Tree) (id : NodeId) : Option Leaf :=
  match t.get? id with
  | some n =>
    if n.isSkipped then none
    else some ⟨id, n, Identifier.column ((t.path id).map (·.segment))⟩
  | none => none

/-- The leaves of a tree that are not skipped, in order. -/
def leavesOf (t : Tree) : List Leaf :=
  t.leaves.filterMap (leaf? t)

/-- A table without columns under the name that the leaves ask for, else that of the record
type. -/
def Builder.start (t : Tree) (ls : List Leaf) : Builder :=
  let choice := chooseName ls
  { name := choice.chosen.getD (Identifier.table t.root.typeName)
    issues := choice.conflicts }

/-- Makes the table of a record. -/
def Builder.ofTree (t : Tree) : Builder :=
  let ls := leavesOf t
  ls.foldl addLeaf (start t ls)

/-- A table and the issues of the record it comes from. -/
structure Loaded where
  table : Table
  issues : List Issue
deriving DecidableEq, Repr

/-- The table of a record and all its issues: first those of the table name, then those of
the leaves in order. -/
def load (t : Tree) : Loaded :=
  let b := Builder.ofTree t
  { table := b.table, issues := b.issues }

/-- The table of a record and the issues that are passed over, or the first issue. -/
def loadWith (options : LoadOptions) (t : Tree) : Except Issue Loaded :=
  let loaded := load t
  match options.validation, loaded.issues with
  | .strict, issue :: _ => .error issue
  | _, _ => .ok loaded

end RecordSql.Table
