import RecordSql.Proofs.Walks

/-!
# `RecordSql.Proofs.Nesting`: the tree of a nested definition

The nodes of a nested definition are pushed one by one, each parent before its children, so the
children of a node get their numbers only after everything inside their elder siblings has got
its own. `Nested.arena` says what comes out: the nodes in depth-first order with all their links,
where a definition takes as many numbers as it has definitions in it (`nodes_toTree`).

Two functions look at a tree without regard to how it was made. `Tree.readAt` reads the
definition below a node back along the children, and `Tree.walkAt` lists the numbers that it
meets on the way. Where the nodes of a definition stand in a tree, reading gives the definition
and walking counts upwards, whatever else the tree holds (`readAt_walkAt_of_prefix`).

`toTree_keeps_definition` puts together that the tree of a definition loses and reorders nothing.
-/

set_option autoImplicit false

namespace RecordSql.Record

/-! ### Nested definitions in depth-first order -/

namespace Nested

mutual

/-- The number of definitions in a definition, with itself. -/
def size : Nested → Nat
  | field _ _ _ _ ds => sizeAll ds + 1

/-- The number of definitions in several of them. -/
def sizeAll : List Nested → Nat
  | [] => 0
  | d :: ds => d.size + sizeAll ds

end

mutual

/-- The definition with the kinds that follow from the types where none are given. -/
def resolved : Nested → Nested
  | field name typeName kind tags ds =>
    field name typeName (some (kind.getD (Kind.ofTypeName typeName))) tags (resolvedAll ds)

/-- Definitions with the kinds that follow from the types where none are given. -/
def resolvedAll : List Nested → List Nested
  | [] => []
  | d :: ds => d.resolved :: resolvedAll ds

end

/-- The definition as one of a record: a type that is not built in is a record type. -/
def asRecord : Nested → Nested
  | field name typeName kind tags ds =>
    let k := kind.getD (Kind.ofTypeName typeName)
    field name typeName (some (if k = .other then .struct else k)) tags ds

/-- The numbers of definitions that stand one after the other from a number on. -/
def starts (id : NodeId) : List Nested → List NodeId
  | [] => []
  | d :: ds => id :: starts (id + d.size) ds

mutual

/-- The nodes of a definition in depth-first order, with all links, where the first one has the
number `id`. -/
def arena (parent : Option NodeId) (id : NodeId) : Nested → List Node
  | field name typeName kind tags ds =>
    { (field name typeName kind tags ds).node with parent, children := starts (id + 1) ds }
      :: arenaAll id (id + 1) ds

/-- The nodes of definitions with one parent, where the first one has the number `id`. -/
def arenaAll (parent id : NodeId) : List Nested → List Node
  | [] => []
  | d :: ds => arena (some parent) id d ++ arenaAll parent (id + d.size) ds

end

mutual

/-- There is a node for each definition. -/
theorem length_arena (parent : Option NodeId) (id : NodeId) :
    (d : Nested) → (d.arena parent id).length = d.size
  | field name typeName kind tags ds => by
    rw [arena, List.length_cons, length_arenaAll, size]

/-- There is a node for each of several definitions. -/
theorem length_arenaAll (parent id : NodeId) :
    (ds : List Nested) → (arenaAll parent id ds).length = sizeAll ds
  | [] => rfl
  | d :: ds => by
    rw [arenaAll, List.length_append, length_arena, length_arenaAll, sizeAll]

end

/-! ### The nodes that are pushed -/

end Nested

/-- Adopting no children changes nothing. -/
theorem Node.adopt_nil : Node.adopt [] = id := by
  funext n
  simp [Node.adopt]

/-- Adopting children twice is adopting all of them. -/
theorem Node.adopt_comp_adopt (ids more : List NodeId) :
    Node.adopt more ∘ Node.adopt ids = Node.adopt (ids ++ more) := by
  funext n
  simp [Node.adopt]

/-- A change of one of the first entries. -/
theorem modify_append_of_lt (f : Node → Node) {p : NodeId} {ns : List Node} (h : p < ns.length)
    (more : List Node) : (ns ++ more).modify p f = ns.modify p f ++ more := by
  induction ns generalizing p with
  | nil => cases h
  | cons n ns ih =>
    cases p with
    | zero => rfl
    | succ p =>
      rw [List.cons_append, List.modify_succ_cons, List.modify_succ_cons,
        ih (Nat.lt_of_succ_lt_succ h), List.cons_append]

/-- A change of the last entry. -/
theorem modify_concat_of_eq (f : Node → Node) {p : NodeId} {ns : List Node} (h : ns.length = p)
    (n : Node) : (ns ++ [n]).modify p f = ns ++ [f n] := by
  subst h
  simp [List.modify_eq_take_drop]

/-- The list of nodes after a push. -/
theorem Tree.toList_push {t : Tree} {p : NodeId} (h : p < t.size) (n : Node) :
    (t.push p n).nodes.toList
      = t.nodes.toList.modify p (Node.adopt [t.size])
        ++ [{ n with parent := some p, children := [] }] := by
  rw [nodes_push h, Array.toList_push, Array.toList_modify]

namespace Nested

/-- A tree that has got the nodes of a definition has got a node for each definition in it. -/
theorem size_of_toList {t u : Tree} {d : Nested} {p id : NodeId} {f : Node → Node}
    {parent : Option NodeId}
    (h : u.nodes.toList = t.nodes.toList.modify p f ++ d.arena parent id) :
    u.size = t.size + d.size := by
  have hlength := congrArg List.length h
  simpa [Tree.size, length_arena] using hlength

mutual

/-- Pushing a definition gives the parent a child and appends the nodes of the definition. -/
theorem toList_pushBelow {p : NodeId} : (d : Nested) → {t : Tree} → p < t.size →
    (pushBelow p d t).nodes.toList
      = t.nodes.toList.modify p (Node.adopt [t.size]) ++ d.arena (some p) t.size
  | field name typeName kind tags ds, t, h => by
    have hsize := Tree.size_push h (field name typeName kind tags ds).node
    have hlast : t.size < (t.push p (field name typeName kind tags ds).node).size := by omega
    rw [pushBelow, toList_pushAllBelow ds hlast, Tree.toList_push h, hsize, arena]
    -- The parent of the inner definitions is the node that was pushed last.
    have hlength : (t.nodes.toList.modify p (Node.adopt [t.size])).length = t.size := by
      simp [Tree.size]
    rw [modify_concat_of_eq _ hlength, List.append_assoc]
    rfl

/-- Pushing definitions gives the parent children and appends the nodes of the definitions. -/
theorem toList_pushAllBelow {p : NodeId} : (ds : List Nested) → {t : Tree} → p < t.size →
    (pushAllBelow p ds t).nodes.toList
      = t.nodes.toList.modify p (Node.adopt (starts t.size ds)) ++ arenaAll p t.size ds
  | [], t, h => by
    rw [pushAllBelow, starts, arenaAll, Node.adopt_nil, List.modify_id, List.append_nil]
  | d :: ds, t, h => by
    have hd := toList_pushBelow d h
    have hsize : (pushBelow p d t).size = t.size + d.size := size_of_toList hd
    have hlt : p < (pushBelow p d t).size := hsize ▸ Nat.lt_add_right d.size h
    have hp : p < (t.nodes.toList.modify p (Node.adopt [t.size])).length := by
      simpa [Tree.size] using h
    rw [pushAllBelow, toList_pushAllBelow ds hlt, hd, hsize, modify_append_of_lt _ hp,
      List.modify_modify_eq, Node.adopt_comp_adopt, List.append_assoc]
    rfl

end

/-- Pushing a definition adds a node for each definition in it. -/
theorem size_pushBelow {p : NodeId} (d : Nested) {t : Tree} (h : p < t.size) :
    (pushBelow p d t).size = t.size + d.size :=
  size_of_toList (toList_pushBelow d h)

/-- The root is the node of the definition as one of a record. -/
theorem rootNode_eq (d : Nested) : d.rootNode = d.asRecord.node := by
  cases d with
  | field name typeName kind tags ds =>
    unfold rootNode asRecord
    simp only [node, Option.getD_some]
    split <;> simp_all

/-- The nodes of the tree of a definition. -/
theorem toList_toTree (d : Nested) : d.toTree.nodes.toList = d.asRecord.arena none 0 := by
  unfold toTree
  have hpos : 0 < (Tree.single d.rootNode).size := Tree.nonempty _
  rw [toList_pushAllBelow d.children hpos, rootNode_eq]
  cases d with
  | field name typeName kind tags ds => rfl

/-! ### One push after the other -/

end Nested

/-- Pushes a node below the parent whose number it brings along. -/
def Tree.pushLinked (t : Tree) (n : Node) : Tree :=
  match n.parent with
  | some p => t.push p n
  | none => t

namespace Nested

mutual

/-- Pushing a definition is pushing its nodes in depth-first order. -/
theorem pushBelow_eq_foldl {p : NodeId} : (d : Nested) → {t : Tree} → p < t.size →
    pushBelow p d t = (d.arena (some p) t.size).foldl Tree.pushLinked t
  | field name typeName kind tags ds, t, h => by
    have hsize := Tree.size_push h (field name typeName kind tags ds).node
    have hlast : t.size < (t.push p (field name typeName kind tags ds).node).size := by omega
    rw [pushBelow, pushAllBelow_eq_foldl ds hlast, hsize, arena, List.foldl_cons]
    -- The links that the node brings along make no difference to a push.
    rfl

/-- Pushing definitions is pushing their nodes in depth-first order. -/
theorem pushAllBelow_eq_foldl {p : NodeId} : (ds : List Nested) → {t : Tree} → p < t.size →
    pushAllBelow p ds t = (arenaAll p t.size ds).foldl Tree.pushLinked t
  | [], _, _ => rfl
  | d :: ds, t, h => by
    have hsize := size_pushBelow d h
    have hlt : p < (pushBelow p d t).size := hsize ▸ Nat.lt_add_right d.size h
    rw [pushAllBelow, pushAllBelow_eq_foldl ds hlt, hsize, pushBelow_eq_foldl d h, arenaAll,
      List.foldl_append]

end

end Nested

/-! ### Reading a tree back -/

namespace Tree

/-- The definition at a node, read along the children, where the tree is less than `fuel` levels
deep there. -/
def readAt (t : Tree) : Nat → NodeId → Option Nested
  | 0, _ => none
  | fuel + 1, id =>
    match t.get? id with
    | none => none
    | some n =>
      (n.children.mapM (t.readAt fuel)).map (.field n.name n.typeName (some n.kind) n.tags)

variable {t : Tree} {id : NodeId}

/-- Where nodes begin with one, that one has the number. -/
theorem get?_of_cons_prefix {n : Node} {ns : List Node}
    (h : n :: ns <+: t.nodes.toList.drop id) :
    t.get? id = some n ∧ ns <+: t.nodes.toList.drop (id + 1) := by
  obtain ⟨rest, hrest⟩ := h
  constructor
  · have hget : (t.nodes.toList.drop id)[0]? = some n := by
      rw [← hrest]
      rfl
    rwa [List.getElem?_drop, Nat.add_zero, Array.getElem?_toList] at hget
  · refine ⟨rest, ?_⟩
    rw [← List.drop_drop, ← hrest]
    rfl

/-- Where nodes stand, the last of them stand after the first. -/
theorem prefix_of_append_prefix {ns more : List Node}
    (h : ns ++ more <+: t.nodes.toList.drop id) :
    more <+: t.nodes.toList.drop (id + ns.length) := by
  obtain ⟨rest, hrest⟩ := h
  refine ⟨rest, ?_⟩
  rw [← List.drop_drop, ← hrest, List.append_assoc, List.drop_left]

mutual

/-- Where the nodes of a definition stand, reading gives the definition and walking counts the
numbers of its nodes, whatever comes before and after. -/
theorem readAt_walkAt_of_prefix {parent : Option NodeId} : (d : Nested) → {id : NodeId} →
    d.arena parent id <+: t.nodes.toList.drop id → ∀ fuel, d.size ≤ fuel →
      t.readAt fuel id = some d.resolved ∧ t.walkAt fuel id = List.range' id d.size
  | .field name typeName kind tags ds, id, h, fuel, hfuel => by
    obtain ⟨hn, hds⟩ := get?_of_cons_prefix h
    cases fuel with
    | zero => cases hfuel
    | succ fuel =>
      obtain ⟨hread, hwalk⟩ := readAt_walkAt_of_prefixAll ds hds fuel (Nat.le_of_succ_le_succ hfuel)
      constructor
      · rw [readAt, hn]
        show Option.map _ ((Nested.starts (id + 1) ds).mapM (t.readAt fuel)) = _
        rw [hread]
        rfl
      · rw [walkAt, hn]
        show id :: (Nested.starts (id + 1) ds).flatMap _ = _
        rw [hwalk]
        rfl

/-- The same of several definitions that stand one after the other. -/
theorem readAt_walkAt_of_prefixAll {parent : NodeId} : (ds : List Nested) → {id : NodeId} →
    Nested.arenaAll parent id ds <+: t.nodes.toList.drop id → ∀ fuel, Nested.sizeAll ds ≤ fuel →
      (Nested.starts id ds).mapM (t.readAt fuel) = some (Nested.resolvedAll ds) ∧
      (Nested.starts id ds).flatMap (t.walkAt fuel) = List.range' id (Nested.sizeAll ds)
  | [], _, _, _, _ => ⟨rfl, rfl⟩
  | d :: ds, id, h, fuel, hfuel => by
    rw [Nested.sizeAll] at hfuel
    obtain ⟨hread, hwalk⟩ := readAt_walkAt_of_prefix d ((List.prefix_append _ _).trans h) fuel
      (by omega)
    have hrest := prefix_of_append_prefix h
    rw [Nested.length_arena] at hrest
    obtain ⟨hreads, hwalks⟩ := readAt_walkAt_of_prefixAll ds hrest fuel (by omega)
    constructor
    · rw [Nested.starts, List.mapM_cons, hread, hreads]
      rfl
    · rw [Nested.starts, List.flatMap_cons, hwalk, hwalks, Nested.sizeAll,
        ← List.range'_append_1]

end

end Tree

/-! ### The tree of a definition -/

namespace Nested

/-- A definition has as many definitions in it as one of a record. -/
theorem size_asRecord (d : Nested) : d.asRecord.size = d.size := by
  cases d with
  | field name typeName kind tags ds => rfl

/-- The tree has a node for each definition. -/
theorem size_toTree (d : Nested) : d.toTree.size = d.size := by
  rw [← size_asRecord, ← length_arena none 0, ← toList_toTree]
  rfl

/-- The leaves of the tree are its nodes without children, but for the root, in the order of
their numbers. -/
theorem leaves_toTree (d : Nested) :
    d.toTree.leaves = (List.range' 1 (d.toTree.size - 1)).filter d.toTree.isLeaf := by
  have hlinked : d.toTree.Linked := Tree.linked_of_reachable (.nested d)
  have hnodes := toList_toTree d
  have hsize := size_toTree d
  cases d with
  | field name typeName kind tags ds =>
    generalize (field name typeName kind tags ds).toTree = t at hlinked hnodes hsize ⊢
    have hprefix : arena none 0 (field name typeName kind tags ds).asRecord
        <+: t.nodes.toList.drop 0 :=
      ⟨[], by rw [List.append_nil, List.drop_zero, hnodes]⟩
    obtain ⟨hroot, hds⟩ := Tree.get?_of_cons_prefix hprefix
    obtain hroot := Option.some.inj ((Tree.get?_zero t).symm.trans hroot)
    have hfuel : sizeAll ds ≤ t.size := by rw [hsize, size]; omega
    obtain ⟨-, hwalk⟩ := Tree.readAt_walkAt_of_prefixAll ds hds t.size hfuel
    rw [hlinked.leaves_eq_filter, hroot]
    show ((starts 1 ds).flatMap (t.walkAt t.size)).filter _ = _
    rw [hwalk, hsize]
    rfl

/-- The tree of a nested definition loses and reorders nothing.

Reading the nodes back from the root along the children gives the definition again: the names,
types, annotations and the order of children are the same at every level, and where no kind is
given the kind of the type is filled in, but a record type for a root that is of no built-in
type. The tree has as many nodes as the definition has definitions in it. Going through it in
depth-first order meets the numbers of the nodes one by one, so the leaves below the root stand in
the order of their numbers.

It is the tree that pushing these nodes one at a time gives, in the order of their numbers and
each below its parent, from the root alone. A record without annotations starts as a new one. -/
theorem toTree_keeps_definition (d : Nested) :
    let t := d.toTree
    (∀ fuel, d.size ≤ fuel → t.readAt fuel 0 = some d.asRecord.resolved) ∧
    t.size = d.size ∧
    (∀ fuel, d.size ≤ fuel → t.walkAt fuel 0 = List.range t.size) ∧
    t.leaves = (List.range' 1 (t.size - 1)).filter t.isLeaf ∧
    t.leaves.Pairwise (· < ·) ∧
    t.nodes.toList = d.asRecord.arena none 0 ∧
    t = (t.nodes.toList.drop 1).foldl Tree.pushLinked (Tree.single d.rootNode) ∧
    (d.rootNode.kind = .struct → d.rootNode.tags = none →
      Tree.single d.rootNode = Tree.new d.rootNode.name d.rootNode.typeName) := by
  intro t
  have hprefix : d.asRecord.arena none 0 <+: t.nodes.toList.drop 0 :=
    ⟨[], by rw [List.append_nil, List.drop_zero, toList_toTree]⟩
  have hrecord := Tree.readAt_walkAt_of_prefix d.asRecord hprefix
  rw [size_asRecord] at hrecord
  refine ⟨fun fuel hfuel => (hrecord fuel hfuel).1, size_toTree d, ?_, leaves_toTree d, ?_,
    toList_toTree d, ?_, ?_⟩
  · intro fuel hfuel
    rw [(hrecord fuel hfuel).2, show t.size = d.size from size_toTree d, List.range_eq_range']
  · rw [show t.leaves = _ from leaves_toTree d]
    exact List.Pairwise.filter _ List.pairwise_lt_range'
  · rw [show t.nodes.toList = _ from toList_toTree d]
    show d.toTree = _
    unfold toTree
    rw [pushAllBelow_eq_foldl d.children (Tree.nonempty _)]
    cases d with
    | field name typeName kind tags ds => rfl
  · intro hkind htags
    unfold Tree.new Tree.single
    rw [hkind, htags]

end Nested

end RecordSql.Record
