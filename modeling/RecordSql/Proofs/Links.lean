import Mathlib.Data.List.Chain
import Mathlib.Data.List.Nodup
import RecordSql.Document.Records

/-!
# `RecordSql.Proofs.Links`: the links between the nodes of a tree

A tree stores its links twice: each node has the number of its parent and the numbers of its
children. `Linked` says that the two agree and that numbers grow from the root downwards. Trees
are built by pushing nodes only, and a push keeps the links in order (`linked_push`), whatever
links the node brings along. So all trees that can come up are linked (`linked_of_reachable`).

The way from a node up to the root follows the parents. In a linked tree it ends at the root
within as many steps as the number of the node says (`exists_isPath`).

`links_of_reachable` puts this together with what a push changes and what it leaves alone.
-/

set_option autoImplicit false

namespace RecordSql.Record

/-- Adds children after those that are there. -/
def Node.adopt (ids : List NodeId) (n : Node) : Node :=
  { n with children := n.children ++ ids }

namespace Tree

variable {t : Tree} {id p : NodeId} {n m : Node}

/-! ### Nodes by number -/

/-- Nodes have numbers below the size. -/
theorem lt_size_of_get? (h : t.get? id = some n) : id < t.size :=
  (Array.getElem?_eq_some_iff.mp h).1

/-- Every number below the size has a node. -/
theorem exists_get? (h : id < t.size) : ∃ n, t.get? id = some n :=
  ⟨t.nodes[id], Array.getElem?_eq_getElem h⟩

/-- The root has number 0. -/
theorem get?_zero (t : Tree) : t.get? 0 = some t.root :=
  Array.getElem?_eq_getElem t.nonempty

/-- A single node has number 0 and no links. -/
theorem get?_single (root : Node) (id : NodeId) :
    (single root).get? id
      = if id = 0 then some { root with parent := none, children := [] } else none := by
  cases id with
  | zero => rfl
  | succ id => rfl

/-- A push below a node that is not there changes nothing. -/
theorem push_of_size_le (h : t.size ≤ p) (n : Node) : t.push p n = t :=
  dif_neg (Nat.not_lt.mpr h)

/-- A push gives the parent a child and appends that child. -/
theorem nodes_push (h : p < t.size) (n : Node) :
    (t.push p n).nodes = (t.nodes.modify p (Node.adopt [t.size])).push
      { n with parent := some p, children := [] } := by
  have hsize : p < t.nodes.size := h
  unfold push
  rw [dif_pos hsize]
  rfl

/-- A push adds a node. -/
theorem size_push (h : p < t.size) (n : Node) : (t.push p n).size = t.size + 1 := by
  unfold size
  rw [nodes_push h, Array.size_push, Array.size_modify]

/-- The nodes after a push: the new one has the next number, no children and the parent that was
asked for, and all others stay as they are, but for the parent, which has one more child. -/
theorem get?_push (h : p < t.size) (n : Node) (id : NodeId) :
    (t.push p n).get? id
      = if id = t.size then some { n with parent := some p, children := [] }
        else (t.get? id).map fun m => if id = p then m.adopt [t.size] else m := by
  have hsize : t.nodes.size = t.size := rfl
  show (t.push p n).nodes[id]? = _
  rw [nodes_push h, Array.getElem?_push, Array.size_modify, Array.getElem?_modify, hsize]
  by_cases hid : id = t.size
  · rw [if_pos hid, if_pos hid]
  · rw [if_neg hid, if_neg hid]
    by_cases hp : p = id
    · simp [get?, hp]
    · simp [get?, hp, Ne.symm hp]

/-- A node of a tree after a push is the new one, or it was there before with the same parent
and without the new node as a child. -/
theorem get?_push_cases (h : p < t.size) (hm : (t.push p n).get? id = some m) :
    (id = t.size ∧ m = { n with parent := some p, children := [] }) ∨
      ∃ old, t.get? id = some old ∧ m.parent = old.parent ∧
        m.children = old.children ++ if id = p then [t.size] else [] := by
  rw [get?_push h] at hm
  split at hm
  · rename_i hid
    exact Or.inl ⟨hid, (Option.some.inj hm).symm⟩
  · obtain ⟨old, hold, rfl⟩ := Option.map_eq_some_iff.mp hm
    refine Or.inr ⟨old, hold, ?_⟩
    split
    · exact ⟨rfl, rfl⟩
    · exact ⟨rfl, (List.append_nil _).symm⟩

/-- An old node keeps its parent when another one is pushed. -/
theorem exists_get?_push_of_get? (h : p < t.size) (hn : t.get? id = some n) (new : Node) :
    ∃ m, (t.push p new).get? id = some m ∧ m.parent = n.parent := by
  have hid : id ≠ t.size := Nat.ne_of_lt (lt_size_of_get? hn)
  rw [get?_push h, if_neg hid, hn, Option.map_some]
  split
  · exact ⟨_, rfl, rfl⟩
  · exact ⟨_, rfl, rfl⟩

/-! ### Linked trees -/

/-- The links of the nodes agree:

- `parent_eq_none_iff`: the root has no parent, and every other node has one;
- `parent_lt`: a parent has a smaller number;
- `mem_children_iff`: the children of a node are the nodes that have it as their parent;
- `children_lt`: the children of a node stand in the order of their numbers. -/
structure Linked (t : Tree) : Prop where
  parent_eq_none_iff : ∀ {id n}, t.get? id = some n → (n.parent = none ↔ id = 0)
  parent_lt : ∀ {id n p}, t.get? id = some n → n.parent = some p → p < id
  mem_children_iff : ∀ {p m}, t.get? p = some m →
    ∀ id, id ∈ m.children ↔ ∃ n, t.get? id = some n ∧ n.parent = some p
  children_lt : ∀ {p m}, t.get? p = some m → m.children.Pairwise (· < ·)

/-- A single node is linked. -/
theorem linked_single (root : Node) : (single root).Linked := by
  have hroot : ∀ {id m}, (single root).get? id = some m →
      id = 0 ∧ m = { root with parent := none, children := [] } := by
    intro id m hm
    rw [get?_single] at hm
    split at hm
    · rename_i hid
      exact ⟨hid, (Option.some.inj hm).symm⟩
    · cases hm
  constructor
  · intro id m hm
    obtain ⟨rfl, rfl⟩ := hroot hm
    exact ⟨fun _ => rfl, fun _ => rfl⟩
  · intro id m p hm hp
    obtain ⟨-, rfl⟩ := hroot hm
    cases hp
  · intro p m hm id
    obtain ⟨-, rfl⟩ := hroot hm
    constructor
    · intro hid
      cases hid
    · rintro ⟨n, hn, hp⟩
      obtain ⟨-, rfl⟩ := hroot hn
      cases hp
  · intro p m hm
    obtain ⟨-, rfl⟩ := hroot hm
    exact List.Pairwise.nil

/-- The children of a node are nodes of the tree. -/
theorem Linked.lt_size_of_mem_children (h : t.Linked) (hm : t.get? p = some m)
    (hid : id ∈ m.children) : id < t.size := by
  obtain ⟨n, hn, -⟩ := (h.mem_children_iff hm id).mp hid
  exact lt_size_of_get? hn

/-- A push keeps a tree linked, whatever links the node brings along. -/
theorem linked_push (h : t.Linked) (p : NodeId) (n : Node) : (t.push p n).Linked := by
  rcases Nat.lt_or_ge p t.size with hp | hp
  case inr =>
    rw [push_of_size_le hp]
    exact h
  constructor
  · intro id m hm
    rcases get?_push_cases hp hm with ⟨rfl, rfl⟩ | ⟨old, hold, hparent, -⟩
    · have hpos : t.size ≠ 0 := Nat.ne_of_gt t.nonempty
      simp [hpos]
    · rw [hparent]
      exact h.parent_eq_none_iff hold
  · intro id m q hm hq
    rcases get?_push_cases hp hm with ⟨rfl, rfl⟩ | ⟨old, hold, hparent, -⟩
    · cases hq
      exact hp
    · rw [hparent] at hq
      exact h.parent_lt hold hq
  · intro q m hm id
    -- The nodes that have `q` as their parent are the old ones and, below `p`, the new one.
    have hnew : (t.push p n).get? t.size = some { n with parent := some p, children := [] } := by
      rw [get?_push hp, if_pos rfl]
    have hold_iff : (∃ k, (t.push p n).get? id = some k ∧ k.parent = some q) ↔
        (∃ k, t.get? id = some k ∧ k.parent = some q) ∨ id = t.size ∧ q = p := by
      constructor
      · rintro ⟨k, hk, hq⟩
        rcases get?_push_cases hp hk with ⟨rfl, rfl⟩ | ⟨old, hold, hparent, -⟩
        · exact Or.inr ⟨rfl, (Option.some.inj hq).symm⟩
        · exact Or.inl ⟨old, hold, hparent ▸ hq⟩
      · rintro (⟨k, hk, hq⟩ | ⟨rfl, rfl⟩)
        · obtain ⟨k', hk', hparent⟩ := exists_get?_push_of_get? hp hk n
          exact ⟨k', hk', hparent.trans hq⟩
        · exact ⟨_, hnew, rfl⟩
    rw [hold_iff]
    rcases get?_push_cases hp hm with ⟨rfl, rfl⟩ | ⟨old, hold, -, hchildren⟩
    · -- Nothing has the new node as its parent yet.
      constructor
      · intro hid
        cases hid
      · rintro (⟨k, hk, hq⟩ | ⟨-, hsize⟩)
        · exact absurd (h.parent_lt hk hq) (Nat.lt_asymm (lt_size_of_get? hk))
        · exact absurd hsize (Nat.ne_of_gt hp)
    · rw [hchildren, List.mem_append, h.mem_children_iff hold]
      refine or_congr Iff.rfl ?_
      split <;> simp [*]
  · intro q m hm
    rcases get?_push_cases hp hm with ⟨rfl, rfl⟩ | ⟨old, hold, -, hchildren⟩
    · exact List.Pairwise.nil
    · rw [hchildren, List.pairwise_append]
      refine ⟨h.children_lt hold, ?_, ?_⟩
      · split <;> simp
      · intro a ha b hb
        have hlt := h.lt_size_of_mem_children hold ha
        split at hb
        · rw [List.mem_singleton] at hb
          exact hb ▸ hlt
        · cases hb

/-! ### The way to a node -/

/-- The numbers lead from the root to a node, each to one of its children, and none comes
twice. -/
structure IsPath (t : Tree) (id : NodeId) (ids : List NodeId) : Prop where
  first : ids.head? = some 0
  last : ids.getLast? = some id
  steps : ids.IsChain fun p id => (t.get? id).bind (·.parent) = some p
  distinct : ids.Nodup

/-- Numbers grow along parents. -/
theorem Linked.pairwise_lt (h : t.Linked) {ids : List NodeId}
    (hids : ids.IsChain fun p id => (t.get? id).bind (·.parent) = some p) :
    ids.Pairwise (· < ·) := by
  refine List.isChain_iff_pairwise.mp (hids.imp ?_)
  intro p id hp
  obtain ⟨n, hn, hparent⟩ := Option.bind_eq_some_iff.mp hp
  exact h.parent_lt hn hparent

/-- The way up from a node ends at the root. It takes at most as many steps as the number of the
node says, and more steps do not lead further. -/
theorem Linked.exists_isPath (h : t.Linked) (hid : id < t.size) :
    ∃ ids, t.IsPath id ids ∧
      ∀ fuel, id < fuel → (t.ancestors fuel id).reverse.map some = ids.map t.get? := by
  -- A parent has a smaller number.
  induction id using Nat.strongRecOn with
  | ind id ih =>
    obtain ⟨n, hn⟩ := exists_get? hid
    cases hparent : n.parent with
    | none =>
      obtain rfl : id = 0 := (h.parent_eq_none_iff hn).mp hparent
      refine ⟨[0], ⟨rfl, rfl, List.isChain_singleton 0, List.nodup_singleton 0⟩, ?_⟩
      intro fuel hfuel
      obtain ⟨more, rfl⟩ := Nat.exists_eq_add_of_lt hfuel
      simp [ancestors, hn, hparent]
    | some p =>
      have hlt : p < id := h.parent_lt hn hparent
      obtain ⟨ids, hids, hancestors⟩ := ih p hlt (Nat.lt_trans hlt hid)
      have hsteps : (ids ++ [id]).IsChain fun p id => (t.get? id).bind (·.parent) = some p := by
        refine List.isChain_append.mpr ⟨hids.steps, List.isChain_singleton id, ?_⟩
        intro q hq c hc
        rw [hids.last, Option.mem_some_iff] at hq
        obtain rfl : id = c := by simpa using hc
        rw [hn, Option.bind_some, hparent, hq]
      refine ⟨ids ++ [id], ⟨?_, by simp, hsteps, ?_⟩, ?_⟩
      · rw [List.head?_append, hids.first, Option.some_or]
      · exact (h.pairwise_lt hsteps).imp Nat.ne_of_lt
      · intro fuel hfuel
        obtain ⟨fuel, rfl⟩ := Nat.exists_eq_add_one_of_ne_zero (Nat.ne_zero_of_lt hfuel)
        have hrest := hancestors fuel (Nat.lt_of_lt_of_le hlt (Nat.le_of_lt_succ hfuel))
        simp [ancestors, hn, hparent, hrest]

/-! ### Trees that can come up -/

/-- The trees that come up: records without fields, those of nested definitions, and what
becomes of them by pushing nodes below nodes that are there. -/
inductive Reachable : Tree → Prop
  | new (name typeName : String) : Reachable (Tree.new name typeName)
  | nested (d : Nested) : Reachable d.toTree
  | push {t t' : Tree} {p : NodeId} {n : Node} (h : Reachable t) (ht : t.tryPush p n = .ok t') :
    Reachable t'

/-- A push below a node that is there is done. -/
theorem tryPush_of_lt (h : p < t.size) (n : Node) : t.tryPush p n = .ok (t.push p n) :=
  if_pos h

/-- A push below a node that is not there is refused. -/
theorem tryPush_of_size_le (h : t.size ≤ p) (n : Node) :
    t.tryPush p n = .error (.unknownParent p) :=
  if_neg (Nat.not_lt.mpr h)

mutual

/-- Pushing a nested definition keeps a tree linked. -/
theorem linked_pushBelow (p : NodeId) : (d : Nested) → {t : Tree} → t.Linked →
    (Nested.pushBelow p d t).Linked
  | .field name typeName kind tags ds, t, h => by
    rw [Nested.pushBelow]
    exact linked_pushAllBelow t.size ds (linked_push h p _)

/-- So does pushing several of them. -/
theorem linked_pushAllBelow (p : NodeId) : (ds : List Nested) → {t : Tree} → t.Linked →
    (Nested.pushAllBelow p ds t).Linked
  | [], _, h => h
  | d :: ds, t, h => by
    rw [Nested.pushAllBelow]
    exact linked_pushAllBelow p ds (linked_pushBelow p d h)

end

/-- All trees that come up are linked. -/
theorem linked_of_reachable (h : t.Reachable) : t.Linked := by
  induction h with
  | new name typeName => exact linked_single _
  | nested d => exact linked_pushAllBelow 0 d.children (linked_single d.rootNode)
  | push h ht ih =>
    unfold tryPush at ht
    split at ht
    · cases ht
      exact linked_push ih _ _
    · cases ht

/-- A child stands once among the children of its parent and nowhere else. -/
theorem Linked.count_children (h : t.Linked) (hn : t.get? id = some n) (hp : n.parent = some p) :
    ∃ m, t.get? p = some m ∧ m.children.count id = 1 ∧
      ∀ q k, t.get? q = some k → q ≠ p → id ∉ k.children := by
  have hlt : p < t.size := Nat.lt_trans (h.parent_lt hn hp) (lt_size_of_get? hn)
  obtain ⟨m, hm⟩ := exists_get? hlt
  have hmem : id ∈ m.children := (h.mem_children_iff hm id).mpr ⟨n, hn, hp⟩
  have hnodup : m.children.Nodup := (h.children_lt hm).imp Nat.ne_of_lt
  refine ⟨m, hm, List.count_eq_one_of_mem hnodup hmem, ?_⟩
  intro q k hk hq hid
  obtain ⟨n', hn', hparent⟩ := (h.mem_children_iff hk id).mp hid
  obtain rfl : n = n' := Option.some.inj (hn.symm.trans hn')
  exact hq (Option.some.inj (hparent.symm.trans hp))

/-- The links of a tree that can come up.

The root is the only node without a parent. Every other node has a parent with a smaller number,
and among the children of all nodes its number stands once, in the list of its parent. The
numbers in each of these lists grow and are numbers of nodes.

Therefore the way up from a node ends, however many steps are allowed beyond its number: the path
starts at the root, ends at the node, goes from a parent to its child in each step and meets no
node twice.

A push below a node that is not there is refused and changes nothing. Any other push appends the
new node, without the links that it brings along, and its number becomes the last child of the
parent; all else of the old nodes stays. -/
theorem links_of_reachable (h : t.Reachable) :
    (∀ id n, t.get? id = some n → (n.parent = none ↔ id = 0)) ∧
    (∀ id n, t.get? id = some n → id ≠ 0 →
      ∃ p m, n.parent = some p ∧ p < id ∧ t.get? p = some m ∧ m.children.count id = 1 ∧
        ∀ q k, t.get? q = some k → q ≠ p → id ∉ k.children) ∧
    (∀ p m, t.get? p = some m →
      m.children.Pairwise (· < ·) ∧ ∀ id ∈ m.children, id < t.size) ∧
    (∀ id, id < t.size →
      ∃ ids, t.IsPath id ids ∧ (t.path id).map some = ids.map t.get? ∧
        ∀ fuel, id < fuel → (t.ancestors fuel id).reverse = t.path id) ∧
    (∀ p n, t.size ≤ p → t.tryPush p n = .error (.unknownParent p) ∧ t.push p n = t) ∧
    ∀ p n, p < t.size → t.tryPush p n = .ok (t.push p n) ∧
      ∀ id, (t.push p n).get? id
        = if id = t.size then some { n with parent := some p, children := [] }
          else (t.get? id).map fun m =>
            if id = p then { m with children := m.children ++ [t.size] } else m := by
  have hlinked : t.Linked := linked_of_reachable h
  refine ⟨fun id n hn => hlinked.parent_eq_none_iff hn, ?_, ?_, ?_, ?_, ?_⟩
  · intro id n hn hid
    have hparent : n.parent ≠ none := mt (hlinked.parent_eq_none_iff hn).mp hid
    obtain ⟨p, hp⟩ := Option.ne_none_iff_exists'.mp hparent
    obtain ⟨m, hm, hcount, hothers⟩ := hlinked.count_children hn hp
    exact ⟨p, m, hp, hlinked.parent_lt hn hp, hm, hcount, hothers⟩
  · intro p m hm
    exact ⟨hlinked.children_lt hm, fun id hid => hlinked.lt_size_of_mem_children hm hid⟩
  · intro id hid
    obtain ⟨ids, hids, hancestors⟩ := hlinked.exists_isPath hid
    have hpath := hancestors (id + 1) (Nat.lt_succ_self id)
    refine ⟨ids, hids, hpath, ?_⟩
    intro fuel hfuel
    have heq := (hancestors fuel hfuel).trans hpath.symm
    exact List.map_inj_right (fun _ _ => Option.some.inj) |>.mp heq
  · intro p n hp
    exact ⟨tryPush_of_size_le hp n, push_of_size_le hp n⟩
  · intro p n hp
    exact ⟨tryPush_of_lt hp n, get?_push hp n⟩

/-- A visit with a place inside it. Below the place stands a node that brought the links of
another tree along. -/
def visit : Tree :=
  let text (name : String) : Nested := .field name "string" none none []
  let place : Nested := .field "Place" "Place" (some .struct) none [text "City"]
  let stray : Node :=
    { name := "Floor", kind := .int, typeName := "int", parent := some 7, children := [0, 3] }
  (Nested.field "Visit" "Visit" none none [place, text "Note"]).toTree.push 1 stray

/-- The links of the pushed node are those of its place in this tree. -/
theorem links_of_visit :
    visit.Reachable ∧ 4 < visit.size ∧
      (∃ n p m, visit.get? 4 = some n ∧ n.children = [] ∧ n.parent = some p ∧ p < 4 ∧
        visit.get? p = some m ∧ m.children.count 4 = 1) ∧
      ∃ ids, visit.IsPath 4 ids ∧ (visit.path 4).map some = ids.map visit.get? := by
  have hreachable : visit.Reachable := .push (.nested _) (tryPush_of_lt (by decide) _)
  have hsize : 4 < visit.size := by decide
  obtain ⟨-, hparents, -, hpaths, -⟩ := links_of_reachable hreachable
  refine ⟨hreachable, hsize, ?_, ?_⟩
  · obtain ⟨p, m, hp, hlt, hm, hcount, -⟩ := hparents 4 _ rfl (by decide)
    exact ⟨_, p, m, rfl, rfl, hp, hlt, hm, hcount⟩
  · obtain ⟨ids, hids, hpath, -⟩ := hpaths 4 hsize
    exact ⟨ids, hids, hpath⟩

end Tree

end RecordSql.Record

namespace RecordSql.Document

open RecordSql.Record (Tree)

/-- The trees of a document come up. -/
theorem reachable_of_readTrees {text : String} {ts : List Tree} (h : readTrees text = .ok ts) :
    ∀ t ∈ ts, t.Reachable := by
  intro t ht
  unfold readTrees at h
  split at h
  · cases h
  · split at h
    · cases h
    · split at h
      · cases h
        obtain ⟨d, -, rfl⟩ := List.mem_map.mp ht
        exact .nested d
      · cases h

end RecordSql.Document
