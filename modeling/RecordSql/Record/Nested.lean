import RecordSql.Record.Tree

/-!
# `RecordSql.Record.Nested`: nested definitions of records

Documents describe a record by nesting. The nodes of a nested definition are pushed in
depth-first order, each parent before its children.
-/

set_option autoImplicit false

namespace RecordSql.Record

/-- A field with its fields inside it. -/
inductive Nested where
  | field (name typeName : String) (kind : Option Kind) (tags : Option Tags)
    (children : List Nested)
deriving Repr, Inhabited

namespace Nested

/-- The node of a definition by itself. A kind that is not given follows from the type. -/
def node : Nested → Node
  | field name typeName kind tags _ =>
    { name, typeName, tags, kind := kind.getD (Kind.ofTypeName typeName) }

/-- The fields inside a definition. -/
def children : Nested → List Nested
  | field _ _ _ _ ds => ds

mutual

/-- Pushes a definition below a node. -/
def pushBelow (parent : NodeId) (d : Nested) (t : Tree) : Tree :=
  match d with
  | field name typeName kind tags ds =>
    pushAllBelow t.size ds (t.push parent (field name typeName kind tags ds).node)

/-- Pushes definitions below a node, one after the other. -/
def pushAllBelow (parent : NodeId) (ds : List Nested) (t : Tree) : Tree :=
  match ds with
  | [] => t
  | d :: ds => pushAllBelow parent ds (pushBelow parent d t)

end

/-- The root of a record: a type that is not built in is a record type. -/
def rootNode (d : Nested) : Node :=
  let n := d.node
  if n.kind = .other then { n with kind := .struct } else n

/-- The tree of a nested definition. -/
def toTree (d : Nested) : Tree :=
  pushAllBelow 0 d.children (Tree.single d.rootNode)

end Nested

end RecordSql.Record
