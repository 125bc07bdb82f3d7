import Mathlib.Data.List.Infix
import RecordSql.Proofs.Pushes
import RecordSql.Proofs.Retagging
import RecordSql.Proofs.Validation

/-!
# `RecordSql.Proofs.Appending`: a record with one more field

A field that is appended to a record comes last among its leaves. What a table has from the other
leaves does not depend on those after them, so it stays at its place, and what the new leaf asks for
comes at the end:

```text
Article                      f_author, index by_author (f_author)
├─ Author                    f_editor, index by_author (f_author, f_editor)
└─ Editor, appended                    index by_editor (f_editor)
```

A field can join an index or a foreign key that is there. This then has one more column at its end
and keeps all that it was (`Index.GrowsTo`, `ForeignKey.GrowsTo`). An index may become unique, but
the table of a foreign key is that of its first reference and stays.

The one thing that looks at all leaves is the name of the table. `load_growsTo` is about any leaves
at the end that ask for no name, and `load_push_zero` about the field of a record.
-/

set_option autoImplicit false

namespace RecordSql

/-! ### What it means to grow -/

/-- The index has stayed, with more columns at its end. -/
structure Index.GrowsTo (old new : Index) : Prop where
  name : new.name = old.name
  fields : old.fields <+: new.fields
  unique : old.unique = true → new.unique = true

/-- The foreign key has stayed, with more pairs at its end. -/
structure ForeignKey.GrowsTo (old new : ForeignKey) : Prop where
  name : new.name = old.name
  toTable : new.toTable = old.toTable
  many : new.many = old.many
  fromColumns : old.fromColumns <+: new.fromColumns
  toColumns : old.toColumns <+: new.toColumns
  fromFields : old.fromFields <+: new.fromFields
  pairs : old.pairs <+: new.pairs

namespace Table

open RecordSql.Record (Node NodeId Tree)

/-- The entries are still at their places, each of them grown, and those with new names come after
them. -/
def EntriesGrow {α : Type} (nameOf : α → String) (growsTo : α → α → Prop) (old new : List α) :
    Prop :=
  ∃ kept opened, new = kept ++ opened ∧ List.Forall₂ growsTo old kept ∧
    ∀ a ∈ opened, nameOf a ∉ old.map nameOf

/-- The table and its issues have stayed, with more of everything at the end. -/
structure Loaded.GrowsTo (old new : Loaded) : Prop where
  name : new.table.name = old.table.name
  fields : old.table.fields <+: new.table.fields
  primary : old.table.primary <+: new.table.primary
  indexes : EntriesGrow (·.name) Index.GrowsTo old.table.indexes new.table.indexes
  foreignKeys : EntriesGrow (·.name) ForeignKey.GrowsTo old.table.foreignKeys new.table.foreignKeys
  issues : old.issues <+: new.issues

/-! ### Groups -/

/-- More items at the end let the groups grow, if they let each single group grow that has items
already. -/
theorem entriesGrow_groupedBy {α β : Type} {key : β → String} {make : String → List β → α}
    {nameOf : α → String} {growsTo : α → α → Prop}
    (hname : ∀ name items, nameOf (make name items) = name)
    (hmake : ∀ name items more, items ≠ [] →
      growsTo (make name items) (make name (items ++ more))) {xs ys : List β} (h : xs <+: ys) :
    EntriesGrow nameOf growsTo (groupedBy key make xs) (groupedBy key make ys) := by
  obtain ⟨more, rfl⟩ := h
  let group (name : String) := make name ((xs ++ more).filter (key · = name))
  let names := (xs.map key).eraseDups
  let newNames := ((more.map key).removeAll (xs.map key)).eraseDups
  have hnames : ((xs ++ more).map key).eraseDups = names ++ newNames := by
    rw [List.map_append, List.eraseDups_append]
  -- An old name keeps its place, and its group has its old items before the new ones.
  refine ⟨names.map group, newNames.map group, ?_, ?_, ?_⟩
  · unfold groupedBy
    rw [hnames, List.map_append]
  · unfold groupedBy
    rw [List.forall₂_map_left_iff, List.forall₂_map_right_iff, List.forall₂_same]
    intro name hold
    show growsTo (make name (xs.filter (key · = name))) (make name ((xs ++ more).filter _))
    rw [List.filter_append]
    exact hmake name _ _ (filter_ne_nil_of_mem_eraseDups hold)
  · intro a ha
    obtain ⟨name, hnew, rfl⟩ := List.mem_map.mp ha
    rw [map_nameOf_groupedBy hname, hname, List.mem_eraseDups]
    rw [List.mem_eraseDups] at hnew
    simpa [List.removeAll] using (List.mem_filter.mp hnew).2

/-- An index grows by the items that are added. -/
theorem growsTo_indexOf (name : String) (items more : List IndexItem) :
    (indexOf name items).GrowsTo (indexOf name (items ++ more)) where
  name := rfl
  fields := by
    rw [fields_indexOf, fields_indexOf]
    exact (List.prefix_append items more).map _
  unique := by
    rw [unique_indexOf, unique_indexOf, List.any_append]
    exact fun h => Bool.or_eq_true_iff.mpr (Or.inl h)

/-- A foreign key grows by the items that are added, if it has one that settles its table. -/
theorem growsTo_foreignKeyOf (name : String) {items : List ForeignItem} (more : List ForeignItem)
    (h : items ≠ []) : (foreignKeyOf name items).GrowsTo (foreignKeyOf name (items ++ more)) where
  name := rfl
  toTable := by
    unfold foreignKeyOf
    rw [List.head?_append_of_ne_nil items h]
  many := by
    unfold foreignKeyOf
    rw [List.head?_append_of_ne_nil items h]
  fromColumns := by
    rw [fromColumns_foreignKeyOf, fromColumns_foreignKeyOf]
    exact (List.prefix_append items more).map _
  toColumns := by
    rw [toColumns_foreignKeyOf, toColumns_foreignKeyOf]
    exact (List.prefix_append items more).map _
  fromFields := by
    rw [fromFields_foreignKeyOf, fromFields_foreignKeyOf]
    exact (List.prefix_append items more).map _
  pairs := by
    rw [pairs_foreignKeyOf, pairs_foreignKeyOf]
    exact (List.prefix_append items more).map _

/-! ### More leaves -/

/-- What stands before a leaf does not depend on what comes after it. -/
theorem prefix_withEarlier_append (ls more : List Leaf) :
    withEarlier ls <+: withEarlier (ls ++ more) := by
  induction more generalizing ls with
  | nil => simp
  | cons l more ih =>
    have hstep : withEarlier ls <+: withEarlier (ls ++ [l]) := by
      rw [withEarlier_concat]
      exact List.prefix_append _ _
    rw [List.append_cons]
    exact hstep.trans (ih (ls ++ [l]))

/-- So the first leaves of the columns stay at their places. -/
theorem prefix_firstOfColumn_append (ls more : List Leaf) :
    firstOfColumn ls <+: firstOfColumn (ls ++ more) :=
  ((prefix_withEarlier_append ls more).filter _).map _

/-- So do the issues. -/
theorem prefix_leafIssues_append (ls more : List Leaf) :
    leafIssues ls <+: leafIssues (ls ++ more) :=
  (prefix_withEarlier_append ls more).flatMap _

variable {t t' : Tree} {more : List Leaf}

/-- A table grows by leaves at the end that do not ask for a name. -/
theorem load_growsTo (hroot : t'.root.typeName = t.root.typeName)
    (hleaves : leavesOf t' = leavesOf t ++ more) (hmore : ∀ l ∈ more, l.tableName? = none) :
    (load t).GrowsTo (load t') := by
  have hnames : (leavesOf t').filterMap (·.tableName?) = (leavesOf t).filterMap (·.tableName?) := by
    rw [hleaves, List.filterMap_append, List.filterMap_eq_nil_iff.mpr hmore, List.append_nil]
  have hname : (load t').table.name = (load t).table.name := by
    rw [name_load, name_load, hnames, hroot]
  have hfirst : firstOfColumn (leavesOf t) <+: firstOfColumn (leavesOf t') :=
    hleaves ▸ prefix_firstOfColumn_append (leavesOf t) more
  have hfields : (load t).table.fields <+: (load t').table.fields := by
    rw [fields_load, fields_load]
    exact hfirst.map _
  constructor
  · exact hname
  · exact hfields
  · rw [primary_load, primary_load]
    exact hfields.filter _
  · have hstream : indexStream t <+: indexStream t' := hfirst.flatMap _
    rw [indexes_load, indexes_load]
    exact entriesGrow_groupedBy name_indexOf (fun name items more _ =>
      growsTo_indexOf name items more) hstream
  · -- The default names of foreign keys contain the name of the table, which stays.
    have hstream : foreignStream t <+: foreignStream t' := by
      unfold foreignStream
      rw [hname]
      exact hfirst.flatMap _
    rw [foreignKeys_load, foreignKeys_load]
    exact entriesGrow_groupedBy name_foreignKeyOf (fun name items more hitems =>
      growsTo_foreignKeyOf name more hitems) hstream
  · -- The issues of the name come first, and these are the same, so nothing is put between.
    have hconflicts : chooseName (leavesOf t') = chooseName (leavesOf t) := by
      unfold chooseName
      rw [hnames]
    rw [issues_load, issues_load, hconflicts, hleaves, List.prefix_append_right_inj]
    exact prefix_leafIssues_append (leavesOf t) more

end Table

/-! ### A new field -/

namespace Record.Tree

variable {t : Tree} {id p : NodeId}

/-- A push does not change the type of the record. -/
theorem typeName_root_push (hp : p < t.size) (n : Node) :
    (t.push p n).root.typeName = t.root.typeName := by
  have hbare := (get?_push_bare hp n t.nonempty).1
  rw [get?_zero, get?_zero, Option.map_some, Option.map_some, Option.some.injEq] at hbare
  have htype := congrArg Node.typeName hbare
  exact htype

/-- Nor does it change the segments on the way to an old node. -/
theorem Linked.map_segment_path_push (h : t.Linked) (hp : p < t.size) (n : Node)
    (hid : id < t.size) :
    ((t.push p n).path id).map (·.segment) = (t.path id).map (·.segment) := by
  obtain ⟨-, -, -, -, -, hbare, -⟩ := h.exists_isPath_push hp n hid
  have hsegment := congrArg (List.map Node.segment) hbare
  rw [List.map_map, List.map_map] at hsegment
  exact hsegment

end Record.Tree

namespace Table

open RecordSql.Record (Node NodeId Tree)

variable {t : Tree} {id p : NodeId}

/-- An old node other than the parent is the same leaf as before. -/
theorem leaf?_push (h : t.Linked) (hp : p < t.size) (n : Node) (hid : id < t.size) (hne : id ≠ p) :
    leaf? (t.push p n) id = leaf? t id := by
  unfold leaf?
  rw [(Tree.get?_push_bare hp n hid).2 hne, h.map_segment_path_push hp n hid]

/-- A field of the record comes after all other leaves. -/
theorem leavesOf_push_zero (h : t.Linked) (n : Node) :
    leavesOf (t.push 0 n) = leavesOf t ++ (leaf? (t.push 0 n) t.size).toList := by
  -- The root is no leaf, so the list of its children is not looked at.
  have hold : t.leaves.filterMap (leaf? (t.push 0 n)) = t.leaves.filterMap (leaf? t) := by
    refine List.filterMap_congr fun id hid => ?_
    obtain ⟨hne, m, hm, -⟩ := h.mem_leaves_iff.mp hid
    exact leaf?_push h t.nonempty n (Tree.lt_size_of_get? hm) hne
  unfold leavesOf
  rw [h.leaves_push_zero, List.filterMap_append, hold]
  cases hnew : leaf? (t.push 0 n) t.size with
  | none => rw [List.filterMap_cons_none hnew, List.filterMap_nil, Option.toList_none]
  | some l => rw [List.filterMap_cons_some hnew, List.filterMap_nil, Option.toList_some]

/-- A field that is appended to a record leaves the schema as it was, if it has no `tableName` tag.

The table has the same name. Its columns, its primary key and its issues are the old ones, with what
is new after them. Each index is at its place, with the same name and its old columns before any new
ones, and it is unique if it was. Each foreign key is at its place, with the same name, the same
table and the same `many`, and its old pairs before any new ones. Indexes and foreign keys with new
names come after the old ones. -/
theorem load_push_zero (h : t.Reachable) (n : Node) (hn : n.tags.bind (·.tableName) = none) :
    t.tryPush 0 n = .ok (t.push 0 n) ∧ (load t).GrowsTo (load (t.push 0 n)) := by
  have hlinked := Tree.linked_of_reachable h
  refine ⟨Tree.tryPush_of_lt t.nonempty n, ?_⟩
  refine load_growsTo (Tree.typeName_root_push t.nonempty n) (leavesOf_push_zero hlinked n) ?_
  intro l hl
  -- The new leaf has the tags of the node, whatever links it has got.
  have hnode := (leaf?_eq_some (Option.mem_toList.mp hl)).2.1
  rw [Tree.get?_push t.nonempty, if_pos rfl, Option.some.injEq] at hnode
  have htag : l.tags.tableName = none := by
    rw [Leaf.tags, ← hnode]
    cases htags : n.tags with
    | none => rfl
    | some tags =>
      rw [htags] at hn
      exact hn
  rw [Leaf.tableName?, htag]
  rfl

/-- An article whose author is in an index and refers to a user. -/
def article : Tree :=
  (Tree.new "Article" "Article").push 0
    { name := "Author", kind := .int64, typeName := "int64"
      tags := some { index := some "by_author", foreign := some "ID@users@people", many := true } }

/-- An editor, who asks for the same index and the same foreign key, and for another index. -/
def editor : Node :=
  { name := "Editor", kind := .int64, typeName := "int64"
    tags := some { unique := some "by_editor;by_author", foreign := some "ID@editors@people" } }

/-- The editor joins the index and the foreign key, and the other index comes after the first. -/
theorem load_push_zero_article :
    article.tryPush 0 editor = .ok (article.push 0 editor) ∧
      (load article).GrowsTo (load (article.push 0 editor)) ∧
      (load (article.push 0 editor)).table.indexes.map (fun ix => (ix.name, ix.columnNames))
        = [("by_author", ["f_author", "f_editor"]), ("by_editor", ["f_editor"])] ∧
      (load (article.push 0 editor)).table.foreignKeys.map (fun k => (k.toTable, k.pairs))
        = [("users", [("f_author", "f_id"), ("f_editor", "f_id")])] := by
  have hreachable : article.Reachable := .push (.new _ _) (Tree.tryPush_of_lt (by decide) _)
  obtain ⟨hpush, hgrows⟩ := load_push_zero hreachable editor rfl
  exact ⟨hpush, hgrows, by decide +kernel, by decide +kernel⟩

end Table

end RecordSql
