import Mathlib.Data.List.Nodup
import Mathlib.Data.List.Range
import Mathlib.Logic.Relation
import RecordSql.Proofs.Links

/-!
# `RecordSql.Proofs.Walks`: what a walk through a tree meets

The leaves of a tree are found by a walk with a stack: the next node is taken from the stack and,
unless it is a leaf, its children take its place. Nothing in this says that the walk ends, for the
stack grows on the way, and the numbers of the nodes need not come in order.

`Tree.below` is the second side: the numbers at and below a node by recursion along the children.
In a linked tree numbers grow downwards, so this recursion ends (`Linked.below_eq`), and as every
node has one parent only, it lists every node once (`Linked.nodup_below`, `Linked.mem_below_iff`).

The walk is compared with it through what is `pending`: the nodes below those on the stack. One
visit takes the first of them away (`Linked.visit?_cases`). Hence `Linked.walkOn_eq`: after any
number of visits the walk has met as many nodes in depth-first order and has found the leaves
among them. `leaves_of_reachable` is what follows for the trees that come up.
-/

set_option autoImplicit false

namespace RecordSql.Record.Tree

/-- The numbers at and below a node in depth-first order, where the tree is at most `fuel` levels
deep there. -/
def walkAt (t : Tree) : Nat → NodeId → List NodeId
  | 0, _ => []
  | fuel + 1, id =>
    match t.get? id with
    | none => []
    | some n => id :: n.children.flatMap (t.walkAt fuel)

/-- The numbers at and below a node in depth-first order. -/
def below (t : Tree) (id : NodeId) : List NodeId :=
  t.walkAt t.size id

/-- Whether a number is that of a node without children. -/
def isLeaf (t : Tree) (id : NodeId) : Bool :=
  (t.get? id).any (·.children.isEmpty)

/-- The one node has the other as its parent. -/
def HasParent (t : Tree) (id p : NodeId) : Prop :=
  (t.get? id).bind (·.parent) = some p

/-- The way up from the one node comes to the other. -/
def Reaches (t : Tree) : NodeId → NodeId → Prop :=
  Relation.ReflTransGen t.HasParent

variable {t : Tree} {id p : NodeId} {n : Node}

/-! ### Numbers grow downwards -/

/-- A child has its node as the parent. -/
theorem Linked.mem_children_iff_hasParent (h : t.Linked) (hn : t.get? p = some n) :
    id ∈ n.children ↔ t.HasParent id p := by
  rw [h.mem_children_iff hn, HasParent, Option.bind_eq_some_iff]

/-- A parent has a smaller number. -/
theorem Linked.lt_of_hasParent (h : t.Linked) (hp : t.HasParent id p) : p < id := by
  obtain ⟨m, hm, hparent⟩ := Option.bind_eq_some_iff.mp hp
  exact h.parent_lt hm hparent

/-- A node has one parent at most. -/
theorem rightUnique_hasParent (t : Tree) : Relator.RightUnique t.HasParent := by
  intro id p q hp hq
  exact Option.some.inj (hp.symm.trans hq)

/-- The way up leads to smaller numbers. -/
theorem Linked.le_of_reaches (h : t.Linked) (hr : t.Reaches id p) : p ≤ id := by
  induction hr with
  | refl => exact Nat.le_refl id
  | tail _ hp ih => exact Nat.le_trans (Nat.le_of_lt (h.lt_of_hasParent hp)) ih

/-- What holds of a node if it holds of its children holds of all nodes. -/
theorem Linked.induction_children (h : t.Linked) {P : NodeId → Prop}
    (step : ∀ id n, t.get? id = some n → (∀ c ∈ n.children, P c) → P id) :
    ∀ id, id < t.size → P id := by
  intro id
  -- The distance to the size is what grows smaller on the way down.
  induction hk : t.size - id using Nat.strongRecOn generalizing id with
  | ind k ih =>
    intro hid
    obtain ⟨n, hn⟩ := exists_get? hid
    refine step id n hn ?_
    intro c hc
    have hlt := h.lt_of_hasParent ((h.mem_children_iff_hasParent hn).mp hc)
    have hsize := h.lt_size_of_mem_children hn hc
    exact ih (t.size - c) (hk ▸ Nat.sub_lt_sub_left hid hlt) c rfl hsize

/-- Every node reaches the root. -/
theorem Linked.reaches_root (h : t.Linked) (hid : id < t.size) : t.Reaches id 0 := by
  induction id using Nat.strongRecOn with
  | ind id ih =>
    obtain ⟨n, hn⟩ := exists_get? hid
    cases hparent : n.parent with
    | none =>
      obtain rfl : id = 0 := (h.parent_eq_none_iff hn).mp hparent
      exact Relation.ReflTransGen.refl
    | some p =>
      have hp : t.HasParent id p := by rw [HasParent, hn, Option.bind_some, hparent]
      have hlt := h.lt_of_hasParent hp
      exact Relation.ReflTransGen.head hp (ih p hlt (Nat.lt_trans hlt hid))

/-! ### Depth-first order -/

/-- Levels beyond the last number make no difference. -/
theorem Linked.walkAt_congr (h : t.Linked) {fuel fuel' id : Nat} (hfuel : t.size ≤ fuel + id)
    (hfuel' : t.size ≤ fuel' + id) : t.walkAt fuel id = t.walkAt fuel' id := by
  induction fuel generalizing fuel' id with
  | zero =>
    have hnone : t.get? id = none := Array.getElem?_eq_none (Nat.zero_add id ▸ hfuel)
    cases fuel' with
    | zero => rfl
    | succ fuel' => simp [walkAt, hnone]
  | succ fuel ih =>
    cases hn : t.get? id with
    | none => cases fuel' <;> simp [walkAt, hn]
    | some n =>
      have hid : id < t.size := lt_size_of_get? hn
      cases fuel' with
      | zero => omega
      | succ fuel' =>
        have hchildren : n.children.flatMap (t.walkAt fuel)
            = n.children.flatMap (t.walkAt fuel') := by
          refine List.flatMap_congr ?_
          intro c hc
          have hlt : id < c := h.lt_of_hasParent ((h.mem_children_iff_hasParent hn).mp hc)
          exact ih (by omega) (by omega)
        simp only [walkAt, hn, hchildren]

/-- At and below a node are the node itself and what is at and below its children. -/
theorem Linked.below_eq (h : t.Linked) {id : Nat} (hn : t.get? id = some n) :
    t.below id = id :: n.children.flatMap t.below := by
  obtain ⟨fuel, hfuel⟩ := Nat.exists_eq_add_one_of_ne_zero (Nat.ne_of_gt t.nonempty)
  replace hfuel : t.size = fuel + 1 := hfuel
  have hchildren : n.children.flatMap (t.walkAt fuel) = n.children.flatMap t.below := by
    refine List.flatMap_congr ?_
    intro c hc
    have hlt : id < c := h.lt_of_hasParent ((h.mem_children_iff_hasParent hn).mp hc)
    exact h.walkAt_congr (by omega) (by omega)
  rw [← hchildren, below, hfuel]
  simp only [walkAt, hn]

/-- At and below a node are the nodes that reach it. -/
theorem Linked.mem_below_iff (h : t.Linked) (hid : id < t.size) {x : NodeId} :
    x ∈ t.below id ↔ t.Reaches x id := by
  refine h.induction_children (P := fun id => x ∈ t.below id ↔ t.Reaches x id) ?_ id hid
  intro id n hn ih
  rw [h.below_eq hn, List.mem_cons, List.mem_flatMap, Reaches,
    Relation.ReflTransGen.cases_tail_iff, eq_comm]
  refine or_congr Iff.rfl ⟨?_, ?_⟩
  · rintro ⟨c, hc, hx⟩
    exact ⟨c, (ih c hc).mp hx, (h.mem_children_iff_hasParent hn).mp hc⟩
  · rintro ⟨c, hx, hp⟩
    have hc := (h.mem_children_iff_hasParent hn).mpr hp
    exact ⟨c, hc, (ih c hc).mpr hx⟩

/-- Of two children of a node, none reaches the other. -/
theorem Linked.eq_of_reaches (h : t.Linked) {c c' : NodeId} (hc : t.HasParent c p)
    (hc' : t.HasParent c' p) (hr : t.Reaches c c') : c = c' := by
  rcases Relation.ReflTransGen.cases_head hr with heq | ⟨q, hq, hr⟩
  · exact heq
  · -- Above the one is the parent, which has a smaller number than the other.
    obtain rfl := t.rightUnique_hasParent hc hq
    exact absurd (h.lt_of_hasParent hc') (Nat.not_lt.mpr (h.le_of_reaches hr))

/-- No node comes twice in depth-first order. -/
theorem Linked.nodup_below (h : t.Linked) (hid : id < t.size) : (t.below id).Nodup := by
  refine h.induction_children (P := fun id => (t.below id).Nodup) ?_ id hid
  intro id n hn ih
  have hsize : ∀ c ∈ n.children, c < t.size := fun c hc => h.lt_size_of_mem_children hn hc
  have hparent : ∀ c ∈ n.children, t.HasParent c id := fun c hc =>
    (h.mem_children_iff_hasParent hn).mp hc
  rw [h.below_eq hn, List.nodup_cons, List.nodup_flatMap]
  refine ⟨?_, ih, ?_⟩
  · intro hmem
    obtain ⟨c, hc, hx⟩ := List.mem_flatMap.mp hmem
    have hle := h.le_of_reaches ((h.mem_below_iff (hsize c hc)).mp hx)
    exact absurd (h.lt_of_hasParent (hparent c hc)) (Nat.not_lt.mpr hle)
  · refine (h.children_lt hn).imp_of_mem ?_
    intro c c' hc hc' hlt x hx hx'
    -- From a node below both children the one would be reached through the other.
    have hr := (h.mem_below_iff (hsize c hc)).mp hx
    have hr' := (h.mem_below_iff (hsize c' hc')).mp hx'
    have heq : c = c' := by
      rcases Relation.ReflTransGen.total_of_right_unique t.rightUnique_hasParent hr hr'
        with hcc | hcc
      · exact h.eq_of_reaches (hparent c hc) (hparent c' hc') hcc
      · exact (h.eq_of_reaches (hparent c' hc') (hparent c hc) hcc).symm
    exact Nat.ne_of_lt hlt heq

/-- Below the root are all nodes but the root, each once. -/
theorem Linked.perm_below_root (h : t.Linked) :
    (t.root.children.flatMap t.below).Perm (List.range' 1 (t.size - 1)) := by
  have hroot := h.below_eq (get?_zero t)
  have hnodup := h.nodup_below t.nonempty
  have hrange : List.range t.size = 0 :: List.range' 1 (t.size - 1) := by
    have hpos : 0 < t.size := t.nonempty
    rw [List.range_eq_range', ← Nat.sub_add_cancel hpos, List.range'_succ, Nat.sub_add_cancel hpos]
  have hall : (t.below 0).Perm (List.range t.size) := by
    rw [List.perm_ext_iff_of_nodup hnodup List.nodup_range]
    intro x
    rw [h.mem_below_iff t.nonempty, List.mem_range]
    constructor
    · intro hr
      by_contra hx
      -- A number without a node has no parent, so it reaches itself only.
      rcases Relation.ReflTransGen.cases_head hr with rfl | ⟨q, hq, -⟩
      · exact hx t.nonempty
      · obtain ⟨m, hm, -⟩ := Option.bind_eq_some_iff.mp hq
        exact hx (lt_size_of_get? hm)
    · exact h.reaches_root
  rw [hroot, hrange, List.perm_cons] at hall
  exact hall

/-! ### The walk -/

/-- The children of a node come on top of a stack in their order. -/
theorem stackUp_eq (stack ids : List NodeId) : stackUp stack ids = ids ++ stack := by
  simp [stackUp, List.foldl_reverse]

/-- The nodes that a walk has still to meet, in depth-first order. -/
def pending (t : Tree) (w : Walk) : List NodeId :=
  w.stack.flatMap t.below

/-- There are nodes of the tree on the stack only. -/
def Walk.Inside (w : Walk) (t : Tree) : Prop :=
  ∀ id ∈ w.stack, id < t.size

/-- Something is pending as long as there is something on the stack. -/
theorem Linked.pending_eq_nil_iff (h : t.Linked) {w : Walk} (hw : w.Inside t) :
    t.pending w = [] ↔ w.stack = [] := by
  unfold pending
  constructor
  · intro hnil
    rw [List.flatMap_eq_nil_iff] at hnil
    rw [List.eq_nil_iff_forall_not_mem]
    intro id hid
    obtain ⟨n, hn⟩ := exists_get? (hw id hid)
    have hbelow := hnil id hid
    rw [h.below_eq hn] at hbelow
    cases hbelow
  · intro hnil
    rw [hnil, List.flatMap_nil]

/-- With an empty stack nothing is visited. Any other visit takes the first of the pending nodes
away, and takes it down if it is a leaf. -/
theorem Linked.visit?_cases (h : t.Linked) {w : Walk} (hw : w.Inside t) :
    (w.stack = [] ∧ t.visit? w = none) ∨
    ∃ id w', t.visit? w = some w' ∧ w'.Inside t ∧ t.pending w = id :: t.pending w' ∧
      w'.found = w.found ++ [id].filter t.isLeaf := by
  obtain ⟨stack, found⟩ := w
  cases stack with
  | nil => exact Or.inl ⟨rfl, rfl⟩
  | cons id rest =>
    right
    obtain ⟨hid, hrest⟩ := List.forall_mem_cons.mp hw
    obtain ⟨n, hn⟩ := exists_get? hid
    have hleaf : t.isLeaf id = n.children.isEmpty := by rw [isLeaf, hn, Option.any_some]
    have hpending : t.pending ⟨id :: rest, found⟩
        = id :: (n.children.flatMap t.below ++ rest.flatMap t.below) := by
      rw [pending, List.flatMap_cons, h.below_eq hn, List.cons_append]
    by_cases hchildren : n.children.isEmpty
    · refine ⟨id, ⟨rest, found ++ [id]⟩, ?_, hrest, ?_, ?_⟩
      · simp [visit?, hn, hchildren]
      · rw [hpending, List.isEmpty_iff.mp hchildren]
        rfl
      · simp [hleaf, hchildren]
    · refine ⟨id, ⟨stackUp rest n.children, found⟩, ?_, ?_, ?_, ?_⟩
      · simp [visit?, hn, hchildren]
      · show ∀ c ∈ stackUp rest n.children, c < t.size
        rw [stackUp_eq]
        exact List.forall_mem_append.mpr ⟨fun c hc => h.lt_size_of_mem_children hn hc, hrest⟩
      · rw [hpending, pending, stackUp_eq, List.flatMap_append]
      · simp [hleaf, hchildren]

/-- After some visits, that many of the pending nodes have been met, and the leaves among them
have been found. -/
theorem Linked.walkOn_eq (h : t.Linked) {w : Walk} (hw : w.Inside t) (fuel : Nat) :
    (t.walkOn fuel w).Inside t ∧ t.pending (t.walkOn fuel w) = (t.pending w).drop fuel ∧
      (t.walkOn fuel w).found = w.found ++ ((t.pending w).take fuel).filter t.isLeaf := by
  induction fuel generalizing w with
  | zero => exact ⟨hw, rfl, by simp [walkOn]⟩
  | succ fuel ih =>
    rcases h.visit?_cases hw with ⟨hstack, hvisit⟩ | ⟨id, w', hvisit, hw', hpending, hfound⟩
    · have hnil := (h.pending_eq_nil_iff hw).mpr hstack
      simp only [walkOn, hvisit, hnil]
      exact ⟨hw, by simp, by simp⟩
    · obtain ⟨hinside, hdrop, htake⟩ := ih hw'
      simp only [walkOn, hvisit]
      refine ⟨hinside, ?_, ?_⟩
      · rw [hdrop, hpending, List.drop_succ_cons]
      · rw [htake, hfound, hpending, List.take_succ_cons, List.append_assoc, ← List.filter_append]
        rfl

/-! ### The leaves of a tree -/

/-- The walk starts with the children of the root. -/
theorem pending_start (t : Tree) : t.pending t.start = t.root.children.flatMap t.below := by
  rw [pending, start, stackUp_eq, List.append_nil]

theorem Linked.inside_start (h : t.Linked) : t.start.Inside t := by
  intro id hid
  rw [start, stackUp_eq, List.append_nil] at hid
  exact h.lt_size_of_mem_children (get?_zero t) hid

/-- The walk visits every node but the root. -/
theorem Linked.length_pending_start (h : t.Linked) : (t.pending t.start).length = t.size - 1 := by
  rw [pending_start, h.perm_below_root.length_eq, List.length_range']

/-- The walk is at its end after as many visits as there are nodes below the root, and not
before. -/
theorem Linked.stack_walkOn_eq_nil_iff (h : t.Linked) (fuel : Nat) :
    (t.walkOn fuel t.start).stack = [] ↔ t.size ≤ fuel + 1 := by
  obtain ⟨hinside, hdrop, -⟩ := h.walkOn_eq h.inside_start fuel
  rw [← h.pending_eq_nil_iff hinside, hdrop, List.drop_eq_nil_iff, h.length_pending_start]
  omega

/-- Then it has found the leaves among all nodes in depth-first order. -/
theorem Linked.walkOn_start (h : t.Linked) {fuel : Nat} (hfuel : t.size ≤ fuel + 1) :
    t.walkOn fuel t.start = ⟨[], (t.root.children.flatMap t.below).filter t.isLeaf⟩ := by
  obtain ⟨-, -, hfound⟩ := h.walkOn_eq h.inside_start fuel
  have hstack := (h.stack_walkOn_eq_nil_iff fuel).mpr hfuel
  have hlength := h.length_pending_start
  rw [List.take_of_length_le (by omega), pending_start] at hfound
  generalize t.walkOn fuel t.start = w at hstack hfound
  obtain ⟨stack, found⟩ := w
  cases hstack
  cases hfound
  rfl

/-- The leaves of a tree are those among its nodes in depth-first order. -/
theorem Linked.leaves_eq_filter (h : t.Linked) :
    t.leaves = (t.root.children.flatMap t.below).filter t.isLeaf := by
  rw [leaves, h.walkOn_start (Nat.le_succ t.size)]

/-- A function lists the leaves at and below every node: a node without children is its only
leaf, and any other node has the leaves of its children, in their order. -/
def ListsLeaves (t : Tree) (f : NodeId → List NodeId) : Prop :=
  ∀ id n, t.get? id = some n → f id = if n.children = [] then [id] else n.children.flatMap f

/-- The leaves in depth-first order are listed so. -/
theorem Linked.listsLeaves_filter (h : t.Linked) :
    t.ListsLeaves fun id => (t.below id).filter t.isLeaf := by
  intro id n hn
  have hleaf : t.isLeaf id = n.children.isEmpty := by rw [isLeaf, hn, Option.any_some]
  beta_reduce
  rw [h.below_eq hn, List.filter_cons, hleaf, List.filter_flatMap]
  by_cases hchildren : n.children = []
  · simp [hchildren]
  · simp [hchildren]

/-- There is one such function only. -/
theorem Linked.listsLeaves_unique (h : t.Linked) {f g : NodeId → List NodeId}
    (hf : t.ListsLeaves f) (hg : t.ListsLeaves g) : ∀ id, id < t.size → f id = g id := by
  refine h.induction_children ?_
  intro id n hn ih
  rw [hf id n hn, hg id n hn, List.flatMap_congr ih]

/-- The leaves are the nodes without children but for the root. -/
theorem Linked.mem_leaves_iff (h : t.Linked) :
    id ∈ t.leaves ↔ id ≠ 0 ∧ ∃ n, t.get? id = some n ∧ n.children = [] := by
  have hleaf : t.isLeaf id = true ↔ ∃ n, t.get? id = some n ∧ n.children = [] := by
    simp [isLeaf, Option.any_eq_true]
  rw [h.leaves_eq_filter, List.mem_filter, h.perm_below_root.mem_iff, List.mem_range'_1, hleaf]
  constructor
  · rintro ⟨⟨hpos, -⟩, hn⟩
    exact ⟨Nat.ne_of_gt hpos, hn⟩
  · rintro ⟨hid, n, hn, hchildren⟩
    have hsize : id < 1 + (t.size - 1) := by
      rw [Nat.add_sub_cancel' (show 1 ≤ t.size from t.nonempty)]
      exact lt_size_of_get? hn
    exact ⟨⟨Nat.pos_of_ne_zero hid, hsize⟩, n, hn, hchildren⟩

/-- The leaves of a tree that comes up.

The walk that looks for them ends: its stack is empty after one visit for every node but the root,
and not before. More visits change nothing. What it has found then are the nodes without
children, each once, and never the root.

They stand in depth-first order: there is exactly one way to list the leaves at and below every
node by going through its children in order, and the leaves of the tree are those of the children
of the root. A record without fields has none.

A push below a node makes a leaf of the new node, and one that has got a child is a leaf no
longer. -/
theorem leaves_of_reachable (h : t.Reachable) :
    (∀ fuel, (t.walkOn fuel t.start).stack = [] ↔ t.size ≤ fuel + 1) ∧
    (∀ fuel, t.size ≤ fuel + 1 → t.walkOn fuel t.start = ⟨[], t.leaves⟩) ∧
    t.leaves.Nodup ∧
    (∀ id, id ∈ t.leaves ↔ id ≠ 0 ∧ ∃ n, t.get? id = some n ∧ n.children = []) ∧
    (∃ f, t.ListsLeaves f) ∧
    (∀ f, t.ListsLeaves f → t.leaves = t.root.children.flatMap f) ∧
    (t.size = 1 → t.leaves = []) ∧
    ∀ p n, p < t.size → ∀ id, id ∈ (t.push p n).leaves ↔ id = t.size ∨ id ∈ t.leaves ∧ id ≠ p := by
  have hlinked : t.Linked := linked_of_reachable h
  have hfilter := hlinked.leaves_eq_filter
  refine ⟨hlinked.stack_walkOn_eq_nil_iff, ?_, ?_, fun id => hlinked.mem_leaves_iff,
    ⟨_, hlinked.listsLeaves_filter⟩, ?_, ?_, ?_⟩
  · intro fuel hfuel
    rw [hlinked.walkOn_start hfuel, hfilter]
  · rw [hfilter]
    exact (hlinked.perm_below_root.nodup_iff.mpr List.nodup_range').filter _
  · intro f hf
    rw [hfilter, List.filter_flatMap]
    refine List.flatMap_congr ?_
    intro c hc
    exact hlinked.listsLeaves_unique hlinked.listsLeaves_filter hf c
      (hlinked.lt_size_of_mem_children (get?_zero t) hc)
  · intro hsize
    have hperm := hlinked.perm_below_root
    rw [hsize] at hperm
    rw [hfilter, hperm.eq_nil, List.filter_nil]
  · intro p n hp id
    rw [(linked_push hlinked p n).mem_leaves_iff, hlinked.mem_leaves_iff, get?_push hp]
    by_cases hid : id = t.size
    · have hpos : t.size ≠ 0 := Nat.ne_of_gt t.nonempty
      simp [hid, hpos]
    · by_cases hpid : id = p
      · -- The parent has a child now.
        subst hpid
        simp [hid, Node.adopt]
      · simp [hid, hpid]

/-- A user whose city comes after the note that follows the address. -/
def lateCity : Tree :=
  let text (name : String) : Node := { name, kind := .string, typeName := "string" }
  let address : Node := { name := "Address", kind := .struct, typeName := "Address" }
  (((Tree.new "User" "User").push 0 address).push 0 (text "Note")).push 1 (text "City")

/-- The city, node 3, is met before the note, node 2, and the walk takes three visits. -/
theorem leaves_of_lateCity :
    lateCity.Reachable ∧ lateCity.leaves = [3, 2] ∧ lateCity.leaves.Nodup ∧
      (∀ fuel, (lateCity.walkOn fuel lateCity.start).stack = [] ↔ 4 ≤ fuel + 1) ∧
      ∃ f, lateCity.ListsLeaves f ∧ lateCity.root.children.flatMap f = [3, 2] := by
  have hreachable : lateCity.Reachable :=
    .push (.push (.push (.new _ _) (tryPush_of_lt (by decide) _)) (tryPush_of_lt (by decide) _))
      (tryPush_of_lt (by decide) _)
  have hleaves : lateCity.leaves = [3, 2] := by decide
  obtain ⟨hends, -, hnodup, -, ⟨f, hf⟩, hlists, -⟩ := leaves_of_reachable hreachable
  exact ⟨hreachable, hleaves, hnodup, hends, f, hf, (hlists f hf).symm.trans hleaves⟩

end RecordSql.Record.Tree
