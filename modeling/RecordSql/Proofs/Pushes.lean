import RecordSql.Proofs.Walks

/-!
# `RecordSql.Proofs.Pushes`: what a push changes in a walk

A push can happen below any node, so the leaves of a tree change in the middle of their list. In
depth-first order the new node comes after all that is at and below its parent
(`Linked.growsBelow`), and nothing else moves.

Among the leaves, those below the parent stand together (`Linked.leaves_push`). The new node comes
after the last of them. If the parent was a leaf itself it is one no longer, and so the new node
comes in its place.

The way up from an old node does not meet the new one. It leads through the same numbers as before
(`Linked.exists_isPath_push`), and of the nodes on it only the list of children of the parent is
new. `leaves_of_push` puts this together for the trees that come up.
-/

set_option autoImplicit false

namespace RecordSql.Record

/-- The node without the numbers of its children. -/
def Node.bare (n : Node) : Node :=
  { n with children := [] }

namespace Tree

/-- Whether a number is that of a leaf other than the root. -/
def isProperLeaf (t : Tree) (id : NodeId) : Bool :=
  id != 0 && t.isLeaf id

/-- The leaves at and below a node, in depth-first order. -/
def leavesBelow (t : Tree) (id : NodeId) : List NodeId :=
  (t.below id).filter t.isProperLeaf

/-- How a push changes what is at and below a node. If the parent is not there, nothing changes, and
if it is, the new node comes right after what is at and below the parent. -/
structure GrowsBelow (t : Tree) (p : NodeId) (n : Node) (id : NodeId) : Prop where
  stays : p ∉ t.below id → (t.push p n).below id = t.below id
  grows : p ∈ t.below id → ∃ before after, t.below id = before ++ t.below p ++ after ∧
    (t.push p n).below id = before ++ t.below p ++ t.size :: after

variable {t : Tree} {id p : NodeId} {n m : Node}

/-- A number that is not in a list is not taken out of it. -/
theorem filter_ne_of_not_mem {ids : List NodeId} (h : p ∉ ids) : ids.filter (· != p) = ids := by
  refine List.filter_eq_self.mpr fun x hx => ?_
  have hne : x ≠ p := fun heq => h (heq ▸ hx)
  simpa using hne

/-! ### Depth-first order -/

/-- At and below the new node is the new node only. -/
theorem Linked.below_push_size (h : t.Linked) (hp : p < t.size) (n : Node) :
    (t.push p n).below t.size = [t.size] := by
  have hnew : (t.push p n).get? t.size = some { n with parent := some p, children := [] } := by
    rw [get?_push hp, if_pos rfl]
  rw [(linked_push h p n).below_eq hnew]
  rfl

/-- At and below the parent, the new node comes last. -/
theorem Linked.below_push_parent (h : t.Linked) (hm : t.get? p = some m) (n : Node)
    (hchildren : ∀ c ∈ m.children, (t.push p n).below c = t.below c) :
    (t.push p n).below p = t.below p ++ [t.size] := by
  have hp : p < t.size := lt_size_of_get? hm
  have hparent : (t.push p n).get? p = some (m.adopt [t.size]) := by
    rw [get?_push hp, if_neg (Nat.ne_of_lt hp), hm, Option.map_some, if_pos rfl]
  rw [(linked_push h p n).below_eq hparent, h.below_eq hm, Node.adopt, List.flatMap_append,
    List.flatMap_congr hchildren, List.flatMap_singleton, h.below_push_size hp, List.cons_append]

/-- The parent is at or below one child of a node at most. -/
theorem Linked.not_mem_below_sibling (h : t.Linked) (hm : t.get? id = some m)
    {before after : List NodeId} {c : NodeId} (hsplit : m.children = before ++ c :: after)
    (hp : p ∈ t.below c) : ∀ d ∈ before ++ after, p ∉ t.below d := by
  have hnodup := h.nodup_below (lt_size_of_get? hm)
  rw [h.below_eq hm, hsplit, List.flatMap_append, List.flatMap_cons] at hnodup
  obtain ⟨-, hrest, hbefore⟩ := List.nodup_append.mp (List.nodup_cons.mp hnodup).2
  obtain ⟨-, -, hafter⟩ := List.nodup_append.mp hrest
  intro d hd hpd
  rcases List.mem_append.mp hd with hd | hd
  · exact hbefore p (List.mem_flatMap.mpr ⟨d, hd, hpd⟩) p (List.mem_append_left _ hp) rfl
  · exact hafter p hp p (List.mem_flatMap.mpr ⟨d, hd, hpd⟩) rfl

/-- What is at and below the parent grows. -/
theorem Linked.growsBelow_parent (h : t.Linked) (hm : t.get? p = some m) (n : Node)
    (ih : ∀ c ∈ m.children, t.GrowsBelow p n c) : t.GrowsBelow p n p where
  stays hnot := by
    rw [h.below_eq hm] at hnot
    exact absurd List.mem_cons_self hnot
  grows _ := by
    refine ⟨[], [], by simp, h.below_push_parent hm n fun c hc => (ih c hc).stays ?_⟩
    -- A node is not below its child, which has a greater number.
    intro hmem
    have hle := h.le_of_reaches ((h.mem_below_iff (h.lt_size_of_mem_children hm hc)).mp hmem)
    exact absurd (h.lt_of_hasParent ((h.mem_children_iff_hasParent hm).mp hc)) (Nat.not_lt.mpr hle)

/-- Another node keeps its children, and what is at and below one of them at most grows. -/
theorem Linked.growsBelow_of_ne (h : t.Linked) (hp : p < t.size) (hm : t.get? id = some m)
    (n : Node) (hne : id ≠ p) (ih : ∀ c ∈ m.children, t.GrowsBelow p n c) :
    t.GrowsBelow p n id := by
  have hsame : (t.push p n).get? id = some m := by
    rw [get?_push hp, if_neg (Nat.ne_of_lt (lt_size_of_get? hm)), hm, Option.map_some, if_neg hne]
  have hbelow := h.below_eq hm
  have hbelow' := (linked_push h p n).below_eq hsame
  have hstay : ∀ ds : List NodeId, (∀ d ∈ ds, d ∈ m.children) → (∀ d ∈ ds, p ∉ t.below d) →
      ds.flatMap (t.push p n).below = ds.flatMap t.below := fun ds hds hnot =>
    List.flatMap_congr fun d hd => (ih d (hds d hd)).stays (hnot d hd)
  constructor
  · intro hnot
    rw [hbelow, List.mem_cons, not_or, List.mem_flatMap] at hnot
    rw [hbelow, hbelow', hstay m.children (fun _ hd => hd) fun d hd hpd => hnot.2 ⟨d, hd, hpd⟩]
  · intro hmem
    rw [hbelow, List.mem_cons, List.mem_flatMap] at hmem
    obtain ⟨c, hc, hpc⟩ := hmem.resolve_left (Ne.symm hne)
    obtain ⟨before, after, hsplit⟩ := List.append_of_mem hc
    obtain ⟨hbefore, hafter⟩ := List.forall_mem_append.mp (h.not_mem_below_sibling hm hsplit hpc)
    obtain ⟨left, right, hold, hnew⟩ := (ih c hc).grows hpc
    refine ⟨id :: before.flatMap t.below ++ left, right ++ after.flatMap t.below, ?_, ?_⟩
    · rw [hbelow, hsplit, List.flatMap_append, List.flatMap_cons, hold]
      simp only [List.cons_append, List.append_assoc]
    · rw [hbelow', hsplit, List.flatMap_append, List.flatMap_cons, hnew,
        hstay before (by simp +contextual [hsplit]) hbefore,
        hstay after (by simp +contextual [hsplit]) hafter]
      simp only [List.cons_append, List.append_assoc]

/-- So it is at every node. -/
theorem Linked.growsBelow (h : t.Linked) (hp : p < t.size) (n : Node) (hid : id < t.size) :
    t.GrowsBelow p n id := by
  refine h.induction_children (P := t.GrowsBelow p n) ?_ id hid
  intro id m hm ih
  by_cases heq : id = p
  · subst heq
    exact h.growsBelow_parent hm n ih
  · exact h.growsBelow_of_ne hp hm n heq ih

/-- Below a node are nodes of the tree. -/
theorem Linked.lt_size_of_mem_below (h : t.Linked) (hid : id < t.size) {x : NodeId}
    (hx : x ∈ t.below id) : x < t.size := by
  rcases Relation.ReflTransGen.cases_head ((h.mem_below_iff hid).mp hx) with rfl | ⟨q, hq, -⟩
  · exact hid
  · obtain ⟨m, hm, -⟩ := Option.bind_eq_some_iff.mp hq
    exact lt_size_of_get? hm

/-! ### Leaves -/

/-- The new node is a leaf. -/
theorem isProperLeaf_push_size (hp : p < t.size) (n : Node) :
    (t.push p n).isProperLeaf t.size = true := by
  have hpos : t.size ≠ 0 := Nat.ne_of_gt t.nonempty
  rw [isProperLeaf, isLeaf, get?_push hp, if_pos rfl]
  simp [hpos]

/-- Of the other nodes, the parent is a leaf no longer. -/
theorem isProperLeaf_push (hp : p < t.size) (n : Node) (hid : id ≠ t.size) :
    (t.push p n).isProperLeaf id = (id != p && t.isProperLeaf id) := by
  rw [isProperLeaf, isProperLeaf, isLeaf, isLeaf, get?_push hp, if_neg hid]
  by_cases heq : id = p
  · cases hm : t.get? id <;> simp [heq, Node.adopt]
  · cases hm : t.get? id <;> simp [heq]

/-- So the leaves among old nodes stay, but for the parent. -/
theorem filter_isProperLeaf_push (hp : p < t.size) (n : Node) {ids : List NodeId}
    (hids : ∀ x ∈ ids, x < t.size) :
    ids.filter (t.push p n).isProperLeaf = (ids.filter t.isProperLeaf).filter (· != p) := by
  rw [List.filter_filter]
  exact List.filter_congr fun x hx => isProperLeaf_push hp n (Nat.ne_of_lt (hids x hx))

/-- The leaves of a tree are those below the root. -/
theorem Linked.leaves_eq_leavesBelow (h : t.Linked) : t.leaves = t.leavesBelow 0 := by
  have hroot := h.below_eq (get?_zero t)
  have hnodup := h.nodup_below t.nonempty
  rw [hroot] at hnodup
  have hzero := (List.nodup_cons.mp hnodup).1
  rw [h.leaves_eq_filter, leavesBelow, hroot, List.filter_cons_of_neg (by simp [isProperLeaf])]
  refine List.filter_congr fun x hx => ?_
  have hne : x ≠ 0 := fun heq => hzero (heq ▸ hx)
  simp [isProperLeaf, hne]

/-- There is a leaf at or below every node. -/
theorem Linked.exists_isLeaf (h : t.Linked) (hid : id < t.size) :
    ∃ x ∈ t.below id, t.isLeaf x = true := by
  refine h.induction_children (P := fun id => ∃ x ∈ t.below id, t.isLeaf x = true) ?_ id hid
  intro id m hm ih
  rw [h.below_eq hm]
  cases hchildren : m.children with
  | nil => exact ⟨id, List.mem_cons_self, by simp [isLeaf, hm, hchildren]⟩
  | cons c cs =>
    obtain ⟨x, hx, hleaf⟩ := ih c (by simp [hchildren])
    exact ⟨x, List.mem_cons_of_mem _ (List.mem_flatMap.mpr ⟨c, List.mem_cons_self, hx⟩), hleaf⟩

/-- Below a leaf there is no other leaf. -/
theorem Linked.leavesBelow_of_children_eq_nil (h : t.Linked) (hm : t.get? p = some m)
    (hchildren : m.children = []) (hp : p ≠ 0) : t.leavesBelow p = [p] := by
  rw [leavesBelow, h.below_eq hm, hchildren]
  simp [isProperLeaf, isLeaf, hm, hchildren, hp]

/-- A node with children has leaves below it, and is none itself. -/
theorem Linked.leavesBelow_of_children_ne_nil (h : t.Linked) (hm : t.get? p = some m)
    (hchildren : m.children ≠ []) : t.leavesBelow p ≠ [] ∧ p ∉ t.leavesBelow p := by
  obtain ⟨c, cs, hcs⟩ := List.exists_cons_of_ne_nil hchildren
  have hc : c ∈ m.children := by simp [hcs]
  have hp : t.isLeaf p = false := by simp [isLeaf, hm, hchildren]
  have hlt := h.lt_of_hasParent ((h.mem_children_iff_hasParent hm).mp hc)
  obtain ⟨x, hx, hleaf⟩ := h.exists_isLeaf (h.lt_size_of_mem_children hm hc)
  have hle := h.le_of_reaches ((h.mem_below_iff (h.lt_size_of_mem_children hm hc)).mp hx)
  have hpos : x ≠ 0 := Nat.ne_zero_of_lt (Nat.lt_of_lt_of_le hlt hle)
  constructor
  · have hproper : t.isProperLeaf x = true := by simp [isProperLeaf, hpos, hleaf]
    refine List.ne_nil_of_mem (List.mem_filter.mpr ⟨?_, hproper⟩)
    rw [h.below_eq hm]
    exact List.mem_cons_of_mem _ (List.mem_flatMap.mpr ⟨c, hc, hx⟩)
  · intro hmem
    have hself := (List.mem_filter.mp hmem).2
    simp [isProperLeaf, hp] at hself

/-- The leaves below the parent stand together. A push puts the new node after them, and the parent
is not among them any more. -/
theorem Linked.leaves_push (h : t.Linked) (hp : p < t.size) (n : Node) :
    ∃ before after, t.leaves = before ++ t.leavesBelow p ++ after ∧
      (∀ x ∈ before ++ after, ¬t.Reaches x p) ∧
      (t.push p n).leaves
        = before ++ (t.leavesBelow p).filter (· != p) ++ t.size :: after := by
  have hmem : p ∈ t.below 0 := (h.mem_below_iff t.nonempty).mpr (h.reaches_root hp)
  obtain ⟨before, after, hold, hnew⟩ := (h.growsBelow hp n t.nonempty).grows hmem
  have hnodup := h.nodup_below t.nonempty
  rw [hold, List.append_assoc] at hnodup
  obtain ⟨-, hrest, hbefore⟩ := List.nodup_append.mp hnodup
  obtain ⟨-, -, hafter⟩ := List.nodup_append.mp hrest
  have houtside : ∀ x ∈ before ++ after, ¬t.Reaches x p := by
    intro x hx hr
    have hx' := (h.mem_below_iff hp).mpr hr
    rcases List.mem_append.mp hx with hx | hx
    · exact hbefore x hx x (List.mem_append_left _ hx') rfl
    · exact hafter x hx' x hx rfl
  have hlt : ∀ x ∈ before ++ (t.below p ++ after), x < t.size := by
    rw [← List.append_assoc, ← hold]
    exact fun x hx => h.lt_size_of_mem_below t.nonempty hx
  obtain ⟨hbefore', hrest'⟩ := List.forall_mem_append.mp hlt
  obtain ⟨hp', hafter'⟩ := List.forall_mem_append.mp hrest'
  refine ⟨before.filter t.isProperLeaf, after.filter t.isProperLeaf, ?_, ?_, ?_⟩
  · rw [h.leaves_eq_leavesBelow, leavesBelow, hold, List.filter_append, List.filter_append,
      leavesBelow]
  · rw [← List.filter_append]
    exact fun x hx => houtside x (List.mem_of_mem_filter hx)
  · -- The parent is neither before nor after what is below it.
    have hstay : ∀ ids : List NodeId, (∀ x ∈ ids, ¬t.Reaches x p) →
        (ids.filter t.isProperLeaf).filter (· != p) = ids.filter t.isProperLeaf := fun ids hids =>
      filter_ne_of_not_mem fun hmem => hids p (List.mem_of_mem_filter hmem) .refl
    obtain ⟨hbefore'', hafter''⟩ := List.forall_mem_append.mp houtside
    rw [(linked_push h p n).leaves_eq_leavesBelow, leavesBelow, hnew, List.filter_append,
      List.filter_append, List.filter_cons_of_pos (isProperLeaf_push_size hp n),
      filter_isProperLeaf_push hp n hbefore', filter_isProperLeaf_push hp n hp',
      filter_isProperLeaf_push hp n hafter', hstay before hbefore'', hstay after hafter'',
      leavesBelow]

/-- The other leaves stay in their order. -/
theorem Linked.filter_leaves_push (h : t.Linked) (hp : p < t.size) (n : Node) :
    (t.push p n).leaves.filter (· != t.size) = t.leaves.filter (· != p) := by
  obtain ⟨before, after, hold, houtside, hnew⟩ := h.leaves_push hp n
  obtain ⟨hbefore, hafter⟩ := List.forall_mem_append.mp houtside
  have hothers : t.leaves.filter (· != p)
      = before ++ (t.leavesBelow p).filter (· != p) ++ after := by
    rw [hold, List.filter_append, List.filter_append,
      filter_ne_of_not_mem fun hmem => hbefore p hmem .refl,
      filter_ne_of_not_mem fun hmem => hafter p hmem .refl]
  have hsize : t.size ∉ t.leaves.filter (· != p) := by
    intro hmem
    obtain ⟨-, m, hm, -⟩ := h.mem_leaves_iff.mp (List.mem_of_mem_filter hmem)
    exact Nat.lt_irrefl _ (lt_size_of_get? hm)
  rw [hnew, List.filter_append, List.filter_cons_of_neg (by simp), ← List.filter_append, ← hothers,
    filter_ne_of_not_mem hsize]

/-- Below the root, the new node is the last leaf. -/
theorem Linked.leaves_push_zero (h : t.Linked) (n : Node) :
    (t.push 0 n).leaves = t.leaves ++ [t.size] := by
  obtain ⟨before, after, hold, -, hnew⟩ := h.leaves_push t.nonempty n
  have hlength := congrArg List.length hold
  rw [h.leaves_eq_leavesBelow, List.length_append, List.length_append] at hlength
  obtain rfl : before = [] := List.length_eq_zero_iff.mp (by omega)
  obtain rfl : after = [] := List.length_eq_zero_iff.mp (by omega)
  have hzero : 0 ∉ t.leavesBelow 0 := by simp [leavesBelow, isProperLeaf]
  rw [hnew, filter_ne_of_not_mem hzero, h.leaves_eq_leavesBelow, List.nil_append]

/-! ### Paths -/

/-- The path to a node is that of its parent and the node. -/
theorem IsPath.cases {ids : List NodeId} (hids : t.IsPath id ids) :
    (id = 0 ∧ ids = [0]) ∨
      ∃ q before, ids = before ++ [id] ∧ t.HasParent id q ∧ t.IsPath q before := by
  obtain ⟨before, rfl⟩ := List.getLast?_eq_some_iff.mp hids.last
  rcases List.eq_nil_or_concat before with rfl | ⟨more, q, rfl⟩
  · obtain rfl : id = 0 := by simpa using hids.first
    exact Or.inl ⟨rfl, rfl⟩
  · rw [List.concat_eq_append] at hids ⊢
    obtain ⟨hsteps, -, hlast⟩ := List.isChain_append.mp hids.steps
    refine Or.inr ⟨q, more ++ [q], rfl, hlast q (by simp) id rfl, ⟨?_, by simp, hsteps, ?_⟩⟩
    · have hfirst := hids.first
      rwa [List.head?_append_of_ne_nil _ (by simp)] at hfirst
    · exact (List.nodup_append.mp hids.distinct).1

/-- There is one path to a node only. -/
theorem Linked.isPath_unique (h : t.Linked) {ids ids' : List NodeId} (hids : t.IsPath id ids)
    (hids' : t.IsPath id ids') : ids = ids' := by
  -- A parent has a smaller number.
  induction id using Nat.strongRecOn generalizing ids ids' with
  | ind id ih =>
    rcases hids.cases with ⟨rfl, rfl⟩ | ⟨q, before, rfl, hq, hbefore⟩
    · rcases hids'.cases with ⟨-, rfl⟩ | ⟨q, before, -, hq, -⟩
      · rfl
      · exact absurd (h.lt_of_hasParent hq) (Nat.not_lt_zero q)
    · rcases hids'.cases with ⟨rfl, -⟩ | ⟨q', before', rfl, hq', hbefore'⟩
      · exact absurd (h.lt_of_hasParent hq) (Nat.not_lt_zero q)
      · obtain rfl := t.rightUnique_hasParent hq hq'
        rw [ih q (h.lt_of_hasParent hq) hbefore hbefore']

/-- A path to an old node is one after a push. -/
theorem IsPath.push {ids : List NodeId} (hids : t.IsPath id ids) (hp : p < t.size) (n : Node) :
    (t.push p n).IsPath id ids where
  first := hids.first
  last := hids.last
  distinct := hids.distinct
  steps := by
    refine hids.steps.imp fun q x hq => ?_
    obtain ⟨m, hm, hparent⟩ := Option.bind_eq_some_iff.mp hq
    obtain ⟨m', hm', heq⟩ := exists_get?_push_of_get? hp hm n
    exact Option.bind_eq_some_iff.mpr ⟨m', hm', heq.trans hparent⟩

/-- An old node keeps all but its list of children, and only the parent does not keep this. -/
theorem get?_push_bare (hp : p < t.size) (n : Node) (hid : id < t.size) :
    ((t.push p n).get? id).map Node.bare = (t.get? id).map Node.bare ∧
      (id ≠ p → (t.push p n).get? id = t.get? id) := by
  rw [get?_push hp, if_neg (Nat.ne_of_lt hid), Option.map_map]
  constructor
  · refine congrArg (fun f => (t.get? id).map f) (funext fun m => ?_)
    by_cases heq : id = p <;> simp [heq, Node.bare, Node.adopt]
  · intro hne
    simp [hne]

/-- The way up from an old node leads through the same numbers as before, and the nodes there are
the same but for the children of the parent. -/
theorem Linked.exists_isPath_push (h : t.Linked) (hp : p < t.size) (n : Node) (hid : id < t.size) :
    ∃ ids, t.IsPath id ids ∧ (t.push p n).IsPath id ids ∧
      (t.path id).map some = ids.map t.get? ∧
      ((t.push p n).path id).map some = ids.map (t.push p n).get? ∧
      ((t.push p n).path id).map Node.bare = (t.path id).map Node.bare ∧
      (p ∉ ids → (t.push p n).path id = t.path id) := by
  obtain ⟨ids, hids, hancestors⟩ := h.exists_isPath hid
  have hid' : id < (t.push p n).size := by
    rw [size_push hp]
    exact Nat.lt_succ_of_lt hid
  obtain ⟨ids', hids', hancestors'⟩ := (linked_push h p n).exists_isPath hid'
  obtain rfl := (linked_push h p n).isPath_unique hids' (hids.push hp n)
  have hold : (t.path id).map some = ids'.map t.get? := hancestors _ (Nat.lt_succ_self id)
  have hnew : ((t.push p n).path id).map some = ids'.map (t.push p n).get? :=
    hancestors' _ (Nat.lt_succ_self id)
  have hlt : ∀ x ∈ ids', x < t.size := by
    intro x hx
    have hmem : t.get? x ∈ (t.path id).map some := hold ▸ List.mem_map_of_mem hx
    obtain ⟨m, -, hm⟩ := List.mem_map.mp hmem
    exact lt_size_of_get? hm.symm
  have hsome : Function.Injective (List.map (some : Node → Option Node)) :=
    List.map_injective_iff.mpr fun _ _ => Option.some.inj
  refine ⟨ids', hids, hids', hold, hnew, ?_, ?_⟩
  · have hbare : ∀ ms : List Node,
        (ms.map Node.bare).map some = (ms.map some).map (Option.map Node.bare) := by
      intro ms
      simp
    refine hsome ?_
    rw [hbare, hbare, hold, hnew, List.map_map, List.map_map]
    exact List.map_congr_left fun x hx => (get?_push_bare hp n (hlt x hx)).1
  · intro hnot
    refine hsome ?_
    rw [hold, hnew]
    exact List.map_congr_left fun x hx =>
      (get?_push_bare hp n (hlt x hx)).2 fun heq => hnot (heq ▸ hx)

/-! ### Trees that come up -/

/-- What a push changes in the leaves and the paths of a tree that comes up.

The new node gets the next number. If it is pushed below a leaf, it takes the place of that leaf
among the leaves. If it is pushed below a node that has leaves below it, it comes right after the
last of these, and below the root it comes last. All other leaves stay in their order.

The path to an old node leads through the same numbers as before. What is stored there is the same
but for the children of the parent, and it is the same altogether if the path does not meet the
parent. -/
theorem leaves_of_push (h : t.Reachable) (hm : t.get? p = some m) (n : Node) :
    t.tryPush p n = .ok (t.push p n) ∧
    (t.push p n).get? t.size = some { n with parent := some p, children := [] } ∧
    (p ≠ 0 → m.children = [] →
      ∃ before after, t.leaves = before ++ p :: after ∧
        (t.push p n).leaves = before ++ t.size :: after) ∧
    (p ≠ 0 → m.children ≠ [] →
      ∃ before last after, t.leaves = before ++ last :: after ∧
        t.Reaches last p ∧ (∀ x ∈ after, ¬t.Reaches x p) ∧
        (t.push p n).leaves = before ++ last :: t.size :: after) ∧
    (p = 0 → (t.push p n).leaves = t.leaves ++ [t.size]) ∧
    (t.push p n).leaves.filter (· != t.size) = t.leaves.filter (· != p) ∧
    ∀ id, id < t.size →
      ∃ ids, t.IsPath id ids ∧ (t.push p n).IsPath id ids ∧
        (t.path id).map some = ids.map t.get? ∧
        ((t.push p n).path id).map some = ids.map (t.push p n).get? ∧
        ((t.push p n).path id).map Node.bare = (t.path id).map Node.bare ∧
        (p ∉ ids → (t.push p n).path id = t.path id) := by
  have hlinked := linked_of_reachable h
  have hp := lt_size_of_get? hm
  obtain ⟨before, after, hold, houtside, hnew⟩ := hlinked.leaves_push hp n
  refine ⟨tryPush_of_lt hp n, ?_, ?_, ?_, ?_, hlinked.filter_leaves_push hp n,
    fun id hid => hlinked.exists_isPath_push hp n hid⟩
  · rw [get?_push hp, if_pos rfl]
  · intro hpos hchildren
    have hbelow := hlinked.leavesBelow_of_children_eq_nil hm hchildren hpos
    refine ⟨before, after, ?_, ?_⟩
    · rw [hold, hbelow, List.append_assoc, List.singleton_append]
    · rw [hnew, hbelow]
      simp
  · intro _ hchildren
    obtain ⟨hne, hnot⟩ := hlinked.leavesBelow_of_children_ne_nil hm hchildren
    obtain ⟨more, last, hlast⟩ := (List.eq_nil_or_concat _).resolve_left hne
    rw [filter_ne_of_not_mem hnot, hlast, List.concat_eq_append] at hnew
    rw [hlast, List.concat_eq_append] at hold
    have hmem : last ∈ t.leavesBelow p := by simp [hlast]
    refine ⟨before ++ more, last, after, ?_, ?_, (List.forall_mem_append.mp houtside).2, ?_⟩
    · simpa using hold
    · exact (hlinked.mem_below_iff hp).mp (List.mem_of_mem_filter hmem)
    · simpa using hnew
  · rintro rfl
    exact hlinked.leaves_push_zero n

/-- An order with a buyer and a note, where the name of the buyer is pushed after the note. -/
def order : Tree :=
  let text (name : String) : Node := { name, kind := .string, typeName := "string" }
  let buyer : Node := { name := "Buyer", kind := .struct, typeName := "Buyer" }
  (((Tree.new "Order" "Order").push 0 buyer).push 0 (text "Note")).push 1 (text "Name")

/-- A street, which brings the links of another tree along. -/
def street : Node :=
  { name := "Street", kind := .string, typeName := "string", parent := some 9, children := [2] }

/-- The street is node 4. Below the buyer it comes after the name, which is node 3, below the note,
node 2, it takes the place of the note, and below the order it comes last. -/
theorem leaves_of_push_order :
    order.Reachable ∧ order.leaves = [3, 2] ∧
      (∃ before last after, order.leaves = before ++ last :: after ∧ order.Reaches last 1 ∧
        (∀ x ∈ after, ¬order.Reaches x 1) ∧
        (order.push 1 street).leaves = before ++ last :: 4 :: after) ∧
      (order.push 1 street).leaves = [3, 4, 2] ∧
      (∃ before after, order.leaves = before ++ 2 :: after ∧
        (order.push 2 street).leaves = before ++ 4 :: after) ∧
      (order.push 2 street).leaves = [3, 4] ∧
      (order.push 0 street).leaves = order.leaves ++ [4] ∧
      ∃ ids, order.IsPath 3 ids ∧ (order.push 1 street).IsPath 3 ids ∧
        ((order.push 1 street).path 3).map Node.bare = (order.path 3).map Node.bare := by
  have hreachable : order.Reachable :=
    .push (.push (.push (.new _ _) (tryPush_of_lt (by decide) _)) (tryPush_of_lt (by decide) _))
      (tryPush_of_lt (by decide) _)
  obtain ⟨-, -, -, hinner, -, -, hpaths⟩ := leaves_of_push hreachable (p := 1) rfl street
  obtain ⟨-, -, hleaf, -⟩ := leaves_of_push hreachable (p := 2) rfl street
  obtain ⟨-, -, -, -, hroot, -⟩ := leaves_of_push hreachable (p := 0) rfl street
  obtain ⟨ids, hids, hids', -, -, hbare, -⟩ := hpaths 3 (by decide)
  exact ⟨hreachable, by decide, hinner (by decide) (by decide), by decide,
    hleaf (by decide) rfl, by decide, hroot rfl, ids, hids, hids', hbare⟩

end Tree

end RecordSql.Record
