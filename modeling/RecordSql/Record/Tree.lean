import RecordSql.Record.Kind
import RecordSql.Record.Tags

/-!
# `RecordSql.Record.Tree`: the field tree of a record

A record is a tree of fields: the root is the record, inner nodes are nested records and
the leaves below the root are its columns. Nodes are numbered in the order of their
creation and refer to each other by number. A node can be pushed below any node that is
there already, so a parent always has a smaller number than its children.
-/

set_option autoImplicit false

namespace RecordSql.Record

/-- The number of a node in its tree. The root has number 0. -/
abbrev NodeId := Nat

/-- A field with its links to other nodes of the tree. -/
structure Node where
  name : String
  kind : Kind
  /-- The declared type, as it is written. -/
  typeName : String
  tags : Option Tags := none
  parent : Option NodeId := none
  /-- The children in the order in which they were pushed. -/
  children : List NodeId := []
deriving DecidableEq, Repr

/-- Whether the field is to be left out. -/
def Node.isSkipped (n : Node) : Bool :=
  n.tags.any (·.skip)

/-- The segment of the field in column names: its `name` tag unless that is empty. -/
def Node.segment (n : Node) : String :=
  match n.tags.bind (·.name) with
  | some s => if s.isEmpty then n.name else s
  | none => n.name

/-- The nodes of a record by number; there is always a root. -/
structure Tree where
  nodes : Array Node
  nonempty : 0 < nodes.size
deriving DecidableEq, Repr

namespace Tree

/-- The number of nodes. -/
def size (t : Tree) : Nat :=
  t.nodes.size

/-- The node of the record itself. -/
def root (t : Tree) : Node :=
  have := t.nonempty
  t.nodes[0]

/-- The node with a given number. -/
def get? (t : Tree) (id : NodeId) : Option Node :=
  t.nodes[id]?

/-- The tree of a single node. -/
def single (root : Node) : Tree where
  nodes := #[{ root with parent := none, children := [] }]
  nonempty := by simp

/-- A record without fields. -/
def new (name typeName : String) : Tree :=
  single ⟨name, .struct, typeName, none, none, []⟩

/-- Appends a node as the last child of `parent`. Links that the node brings along are
dropped. Without such a parent the tree stays as it is. -/
def push (t : Tree) (parent : NodeId) (n : Node) : Tree :=
  if h : parent < t.nodes.size then
    let child := { n with parent := some parent, children := [] }
    let link (p : Node) : Node := { p with children := p.children ++ [t.nodes.size] }
    { nodes := (t.nodes.modify parent link).push child
      nonempty := by simp }
  else t

/-- Why a request to a tree is refused. -/
inductive Refusal where
  | unknownParent (id : NodeId)
  | unknownNode (id : NodeId)
deriving DecidableEq, Repr

/-- The wording of a refusal, where it has one. -/
def Refusal.message? : Refusal → Option String
  | unknownParent id => some ("unknown parent node NodeId(" ++ toString id ++ ")")
  | unknownNode _ => none

/-- Appends a node below a parent that must be there. -/
def tryPush (t : Tree) (parent : NodeId) (n : Node) : Except Refusal Tree :=
  if parent < t.size then .ok (t.push parent n) else .error (.unknownParent parent)

/-- The node with a given number, which must be there. -/
def tryGet (t : Tree) (id : NodeId) : Except Refusal Node :=
  match t.get? id with
  | some n => .ok n
  | none => .error (.unknownNode id)

/-- The nodes from `id` up to the root, at most `fuel` of them. -/
def ancestors (t : Tree) : Nat → NodeId → List Node
  | 0, _ => []
  | fuel + 1, id =>
    match t.get? id with
    | none => []
    | some n =>
      match n.parent with
      | none => [n]
      | some p => n :: t.ancestors fuel p

/-- The nodes from the root down to `id`. A parent has a smaller number, so there are at
most `id + 1` of them. -/
def path (t : Tree) (id : NodeId) : List Node :=
  (t.ancestors (id + 1) id).reverse

/-- The nodes from the root down to `id`, which must be there. -/
def tryPath (t : Tree) (id : NodeId) : Except Refusal (List Node) :=
  (t.tryGet id).map fun _ => t.path id

/-- A walk through a tree: the nodes that it has still to visit, the next one first, and the
leaves that it has met. -/
structure Walk where
  stack : List NodeId
  found : List NodeId := []
deriving DecidableEq, Repr

/-- Puts nodes on a stack, the last one first, so that the first one is visited next. -/
def stackUp (stack ids : List NodeId) : List NodeId :=
  ids.reverse.foldl (fun stack id => id :: stack) stack

/-- Visits the next node, if there is one. A node without children is a leaf; the children of
any other are visited next. A number without a node is passed over. -/
def visit? (t : Tree) (w : Walk) : Option Walk :=
  match w.stack with
  | [] => none
  | id :: rest =>
    match t.get? id with
    | none => some { w with stack := rest }
    | some n =>
      if n.children.isEmpty then some { stack := rest, found := w.found ++ [id] }
      else some { w with stack := stackUp rest n.children }

/-- Visits one node after the other, at most `fuel` of them. -/
def walkOn (t : Tree) : Nat → Walk → Walk
  | 0, w => w
  | fuel + 1, w =>
    match t.visit? w with
    | none => w
    | some w => t.walkOn fuel w

/-- The walk that is about to visit the children of the root. -/
def start (t : Tree) : Walk where
  stack := stackUp [] t.root.children

/-- The leaves below the root in the order of declaration. No walk visits a node twice, so
there are fewer visits than nodes. -/
def leaves (t : Tree) : List NodeId :=
  (t.walkOn t.size t.start).found

end Tree

end RecordSql.Record
