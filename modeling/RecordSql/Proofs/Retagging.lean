import RecordSql.Proofs.Columns
import RecordSql.Proofs.ForeignKeys
import RecordSql.Proofs.Indexes
import RecordSql.Proofs.Links

/-!
# `RecordSql.Proofs.Retagging`: a record with other tags at one node

Tags stand beside the links of a tree, so other tags at a node leave the leaves of the tree what
they are (`Tree.leaves_retag`). Of the way down to a leaf only the segments are looked at, and these
stay if the `name` tag of the node does (`Tree.map_segment_path_retag`). Then no leaf but that of
the node itself can see the change (`leaf?_retag_of_ne`).

A table is made of the leaves of its record and nothing else of it but the name of its type
(`load_congr`). So other tags make no difference at a node that is no leaf and at a leaf that is
skipped before and after (`load_retag`). At any other leaf they change this leaf and nothing around
it (`leavesOf_retag`), and `load_map` says what of it counts: much if it is the first one of its
column, and a few things otherwise.
-/

set_option autoImplicit false

namespace RecordSql.Record

/-- The node with other tags. -/
def Node.withTags (n : Node) (tags : Option Tags) : Node :=
  { n with tags }

namespace Tree

/-- The tree with other tags at one node. Without such a node it stays as it is. -/
def retag (t : Tree) (id : NodeId) (tags : Option Tags) : Tree where
  nodes := t.nodes.modify id (·.withTags tags)
  nonempty := by
    rw [Array.size_modify]
    exact t.nonempty

/-- With the tags the node keeps its segment of column names. -/
def KeepsSegment (t : Tree) (id : NodeId) (tags : Option Tags) : Prop :=
  ∀ n, t.get? id = some n → (n.withTags tags).segment = n.segment

section

variable (t : Tree) (id : NodeId) (tags : Option Tags)

@[simp]
theorem size_retag : (t.retag id tags).size = t.size :=
  Array.size_modify

/-- One node has the tags and every other one stays as it is. -/
theorem get?_retag (x : NodeId) :
    (t.retag id tags).get? x = (t.get? x).map fun n => if x = id then n.withTags tags else n := by
  unfold get? retag
  rw [Array.getElem?_modify]
  by_cases hx : id = x
  · simp [hx]
  · simp [hx, Ne.symm hx]

/-- Of the tags that a node gets one after the other the last ones stay. -/
theorem retag_retag (tags' : Option Tags) : (t.retag id tags).retag id tags' = t.retag id tags' := by
  unfold retag
  congr 1
  refine Array.ext_getElem? fun x => ?_
  rw [Array.getElem?_modify, Array.getElem?_modify, Array.getElem?_modify]
  split
  · rw [Option.map_map]
    rfl
  · rfl

/-- The root keeps its type and its children. -/
theorem root_retag : (t.retag id tags).root.typeName = t.root.typeName ∧
    (t.retag id tags).root.children = t.root.children := by
  have hroot := get?_retag t id tags 0
  rw [get?_zero, get?_zero, Option.map_some, Option.some.injEq] at hroot
  rw [hroot]
  split <;> exact ⟨rfl, rfl⟩

/-! ### The walk to the leaves -/

theorem visit?_retag (w : Walk) : (t.retag id tags).visit? w = t.visit? w := by
  unfold visit?
  cases w.stack with
  | nil => rfl
  | cons x rest =>
    dsimp only
    rw [get?_retag]
    cases t.get? x with
    | none => rfl
    | some n =>
      dsimp only [Option.map_some]
      split <;> rfl

theorem walkOn_retag (fuel : Nat) (w : Walk) : (t.retag id tags).walkOn fuel w = t.walkOn fuel w := by
  -- Every step of the walk is the same, so the walks stop together.
  induction fuel generalizing w with
  | zero => rfl
  | succ fuel ih =>
    unfold walkOn
    rw [visit?_retag]
    cases t.visit? w with
    | none => rfl
    | some w' => exact ih w'

/-- The walk does not look at tags. -/
theorem leaves_retag : (t.retag id tags).leaves = t.leaves := by
  rw [leaves, leaves, walkOn_retag, size_retag, start, start, (root_retag t id tags).2]

end

variable {t : Tree} {id : NodeId} {tags : Option Tags}

/-- The segments on the way up from a node. -/
theorem map_segment_ancestors_retag (h : t.KeepsSegment id tags) (fuel : Nat) (x : NodeId) :
    ((t.retag id tags).ancestors fuel x).map (·.segment)
      = (t.ancestors fuel x).map (·.segment) := by
  induction fuel generalizing x with
  | zero => rfl
  | succ fuel ih =>
    unfold ancestors
    rw [get?_retag]
    cases hn : t.get? x with
    | none => rfl
    | some n =>
      -- The node itself shows its segment, and the way up goes on at its parent.
      have hsegment : (if x = id then n.withTags tags else n).segment = n.segment := by
        split
        · rename_i hx
          exact h n (hx ▸ hn)
        · rfl
      have hparent : (if x = id then n.withTags tags else n).parent = n.parent := by
        split <;> rfl
      dsimp only [Option.map_some]
      rw [hparent]
      cases n.parent with
      | none => rw [List.map_singleton, List.map_singleton, hsegment]
      | some p => rw [List.map_cons, List.map_cons, hsegment, ih]

/-- The segments on the way down to a node. -/
theorem map_segment_path_retag (h : t.KeepsSegment id tags) (x : NodeId) :
    ((t.retag id tags).path x).map (·.segment) = (t.path x).map (·.segment) := by
  unfold path
  rw [List.map_reverse, List.map_reverse, map_segment_ancestors_retag h]

end Tree

end RecordSql.Record

namespace RecordSql.Table

open RecordSql.Record (Tree NodeId Tags)

/-! ### Leaves -/

/-- The leaf with other tags, if it is the one with the number. -/
def Leaf.retag (l : Leaf) (id : NodeId) (tags : Option Tags) : Leaf :=
  if l.id = id then { l with node := l.node.withTags tags } else l

section

variable (l : Leaf) (id : NodeId) (tags : Option Tags)

@[simp]
theorem Leaf.column_retag : (l.retag id tags).column = l.column := by
  unfold retag
  split <;> rfl

@[simp]
theorem Leaf.name_retag : (l.retag id tags).node.name = l.node.name := by
  unfold retag
  split <;> rfl

end

/-- Another leaf stays as it is. -/
theorem Leaf.retag_of_ne {l : Leaf} {id : NodeId} (h : l.id ≠ id) (tags : Option Tags) :
    l.retag id tags = l :=
  if_neg h

variable {t t' : Tree} {id : NodeId} {tags : Option Tags}

/-- The leaf of another number stays as it is. -/
theorem leaf?_retag_of_ne (h : t.KeepsSegment id tags) {x : NodeId} (hx : x ≠ id) :
    leaf? (t.retag id tags) x = leaf? t x := by
  unfold leaf?
  rw [Tree.get?_retag, Tree.map_segment_path_retag h]
  cases t.get? x with
  | none => rfl
  | some n =>
    dsimp only [Option.map_some]
    rw [if_neg hx]

/-- The leaf of the number itself has the tags, where these say as much about skipping as its old
ones. -/
theorem leaf?_retag (h : t.KeepsSegment id tags)
    (hskip : ∀ n, t.get? id = some n → (n.withTags tags).isSkipped = n.isSkipped) (x : NodeId) :
    leaf? (t.retag id tags) x = (leaf? t x).map (·.retag id tags) := by
  by_cases hx : x = id
  · subst hx
    unfold leaf?
    rw [Tree.get?_retag, Tree.map_segment_path_retag h]
    cases hn : t.get? x with
    | none => rfl
    | some n =>
      dsimp only [Option.map_some]
      -- It is a leaf after as it was before, as it is skipped in both trees or in none.
      rw [if_pos rfl, hskip n hn]
      split
      · rfl
      · rw [Option.map_some, Leaf.retag, if_pos rfl]
  · rw [leaf?_retag_of_ne h hx]
    cases hl : leaf? t x with
    | none => rfl
    | some l =>
      have hid : l.id ≠ id := by
        rw [(leaf?_eq_some hl).1]
        exact hx
      rw [Option.map_some, Leaf.retag_of_ne hid]

/-- Of the leaves of a record one at most has other tags. -/
theorem leavesOf_retag (h : t.KeepsSegment id tags)
    (hskip : ∀ n, t.get? id = some n → (n.withTags tags).isSkipped = n.isSkipped) :
    leavesOf (t.retag id tags) = (leavesOf t).map (·.retag id tags) := by
  unfold leavesOf
  rw [Tree.leaves_retag, List.map_filterMap]
  exact congrArg (List.filterMap · _) (funext (leaf?_retag h hskip))

/-- A node that is no leaf, or that is skipped before and after, is not among the leaves. -/
theorem leavesOf_retag_of_unread (h : t.KeepsSegment id tags)
    (hunread : id ∉ t.leaves ∨
      ∀ n, t.get? id = some n → n.isSkipped = true ∧ (n.withTags tags).isSkipped = true) :
    leavesOf (t.retag id tags) = leavesOf t := by
  unfold leavesOf
  rw [Tree.leaves_retag]
  refine List.filterMap_congr ?_
  intro x hx
  by_cases hid : x = id
  · subst hid
    have hskip := hunread.resolve_left (not_not_intro hx)
    unfold leaf?
    rw [Tree.get?_retag]
    cases hn : t.get? x with
    | none => rfl
    | some n =>
      obtain ⟨hold, hnew⟩ := hskip n hn
      dsimp only [Option.map_some]
      rw [if_pos rfl, if_pos hold, if_pos hnew]
  · exact leaf?_retag_of_ne h hid

/-! ### Tables -/

/-- A table is made of the leaves of its record and the name of its type. -/
theorem load_congr (hroot : t'.root.typeName = t.root.typeName) (h : leavesOf t' = leavesOf t) :
    load t' = load t := by
  unfold load Builder.ofTree Builder.start
  rw [h, hroot]

/-- So the tags of a node that is no leaf, or that is skipped before and after, make no difference,
but for its segment. -/
theorem load_retag (h : t.KeepsSegment id tags)
    (hunread : id ∉ t.leaves ∨
      ∀ n, t.get? id = some n → n.isSkipped = true ∧ (n.withTags tags).isSkipped = true) :
    load (t.retag id tags) = load t :=
  load_congr (Tree.root_retag t id tags).1 (leavesOf_retag_of_unread h hunread)

/-- The primary key holds the columns that are marked as primary. -/
theorem primary_load (t : Tree) :
    (load t).table.primary = (load t).table.fields.filter (·.primary) :=
  (Builder.built_ofTree t).primary

/-- What a table takes of the first leaf of a column. -/
structure Leaf.SameColumn (l l' : Leaf) : Prop where
  field : l'.field = l.field
  indexItems : l'.indexItems = l.indexItems
  foreignItems : ∀ tableName, l'.foreignItems tableName = l.foreignItems tableName
  issues : l'.issues = l.issues

section

variable {f : Leaf → Leaf}

/-- A change of all leaves changes those before a leaf. -/
theorem withEarlier_map (f : Leaf → Leaf) (ls : List Leaf) :
    withEarlier (ls.map f) = (withEarlier ls).map fun (earlier, l) => (earlier.map f, f l) := by
  unfold withEarlier
  rw [List.zipIdx_map, List.map_map, List.map_map]
  refine List.map_congr_left ?_
  rintro ⟨l, i⟩ -
  simp [List.map_take]

theorem map_column_map (hcolumn : ∀ l, (f l).column = l.column) (ls : List Leaf) :
    (ls.map f).map (·.column) = ls.map (·.column) := by
  rw [List.map_map]
  exact List.map_congr_left fun l _ => hcolumn l

/-- If it leaves the columns as they are, the same leaves are the first ones. -/
theorem firstOfColumn_map (hcolumn : ∀ l, (f l).column = l.column) (ls : List Leaf) :
    firstOfColumn (ls.map f) = (firstOfColumn ls).map f := by
  unfold firstOfColumn
  rw [withEarlier_map, List.filter_map, List.map_map, List.map_map]
  refine congrArg _ (List.filter_congr ?_)
  rintro ⟨earlier, l⟩ -
  show decide ((f l).column ∉ _) = decide (l.column ∉ _)
  rw [hcolumn, map_column_map hcolumn]

/-- Then the issues are the same, if those of the first leaves are. -/
theorem leafIssues_map (hcolumn : ∀ l, (f l).column = l.column)
    (hname : ∀ l, (f l).node.name = l.node.name) {ls : List Leaf}
    (hissues : ∀ l ∈ firstOfColumn ls, (f l).issues = l.issues) :
    leafIssues (ls.map f) = leafIssues ls := by
  unfold leafIssues
  rw [withEarlier_map, List.flatMap_map]
  refine List.flatMap_congr ?_
  rintro ⟨earlier, l⟩ hmem
  dsimp only
  -- The report of a column that is taken shows the column and the field's name.
  rw [hcolumn, hname, map_column_map hcolumn]
  split
  · rfl
  · rename_i hnew
    exact hissues l
      (List.mem_map.mpr ⟨(earlier, l), List.mem_filter.mpr ⟨hmem, decide_eq_true hnew⟩, rfl⟩)

/-- A change of the leaves makes no difference to the table and its issues if it leaves alone what
is taken of every leaf, and of the first leaf of each column what is taken of that. -/
theorem load_map (hroot : t'.root.typeName = t.root.typeName)
    (hleaves : leavesOf t' = (leavesOf t).map f) (hcolumn : ∀ l, (f l).column = l.column)
    (hnodeName : ∀ l, (f l).node.name = l.node.name)
    (htableName : ∀ l ∈ leavesOf t, (f l).tableName? = l.tableName?)
    (hfirst : ∀ l ∈ firstOfColumn (leavesOf t), l.SameColumn (f l)) : load t' = load t := by
  -- Each part of a loaded table is known from its leaves, so the parts agree one by one.
  have hfirsts : firstOfColumn (leavesOf t') = (firstOfColumn (leavesOf t)).map f := by
    rw [hleaves, firstOfColumn_map hcolumn]
  have hnames : (leavesOf t').filterMap (·.tableName?) = (leavesOf t).filterMap (·.tableName?) := by
    rw [hleaves, List.filterMap_map]
    exact List.filterMap_congr htableName
  have hname : (load t').table.name = (load t).table.name := by
    rw [name_load, name_load, hnames, hroot]
  have hfields : (load t').table.fields = (load t).table.fields := by
    rw [fields_load, fields_load, hfirsts, List.map_map]
    exact List.map_congr_left fun l hl => (hfirst l hl).field
  have hprimary : (load t').table.primary = (load t).table.primary := by
    rw [primary_load, primary_load, hfields]
  have hindexes : (load t').table.indexes = (load t).table.indexes := by
    rw [indexes_load, indexes_load, indexStream, hfirsts, List.flatMap_map]
    exact congrArg _ (List.flatMap_congr fun l hl => (hfirst l hl).indexItems)
  have hforeign : (load t').table.foreignKeys = (load t).table.foreignKeys := by
    rw [foreignKeys_load, foreignKeys_load, foreignStream, hfirsts, hname, List.flatMap_map]
    exact congrArg _ (List.flatMap_congr fun l hl => (hfirst l hl).foreignItems _)
  have hissues : (load t').issues = (load t).issues := by
    calc (load t').issues = (chooseName (leavesOf t')).conflicts ++ leafIssues (leavesOf t') :=
          (Builder.built_ofTree t').issues
      _ = (chooseName (leavesOf t)).conflicts ++ leafIssues (leavesOf t) := by
          rw [chooseName, hnames, ← chooseName, hleaves,
            leafIssues_map hcolumn hnodeName fun l hl => (hfirst l hl).issues]
      _ = (load t).issues := (Builder.built_ofTree t).issues.symm
  calc load t'
      = ⟨⟨(load t').table.name, (load t').table.fields, (load t').table.primary,
          (load t').table.indexes, (load t').table.foreignKeys⟩, (load t').issues⟩ := rfl
    _ = ⟨⟨(load t).table.name, (load t).table.fields, (load t).table.primary,
          (load t).table.indexes, (load t).table.foreignKeys⟩, (load t).issues⟩ := by
        rw [hname, hfields, hprimary, hindexes, hforeign, hissues]
    _ = load t := rfl

end

end RecordSql.Table
