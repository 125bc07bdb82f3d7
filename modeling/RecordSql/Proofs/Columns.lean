import Mathlib.Data.List.Forall2
import RecordSql.Proofs.Builder

/-!
# `RecordSql.Proofs.Columns`: the columns of a loaded table

`load_columns` settles the columns, the primary key and the name of the table of every
record. The columns are those of the leaves that are not skipped and whose column no
earlier such leaf has, in the order of the leaves. `Leaf.Makes` lists what a column takes
from its leaf.

The other side of the statement does not go through the builder: `Leaf.Read` says what a
leaf is in terms of the tree, and `firstOfColumn` drops the repeated columns by looking at
all earlier leaves, not at the columns taken so far.
-/

set_option autoImplicit false

namespace RecordSql.Table

open RecordSql.Record (Tree Kind)

/-- The leaf is one of the leaves of a tree and is not to be skipped. Its column is named
by the whole path from the root, where every segment may have a name of its own. -/
structure Leaf.Read (t : Tree) (l : Leaf) : Prop where
  isLeaf : l.id ∈ t.leaves
  node : t.get? l.id = some l.node
  notSkipped : l.node.isSkipped = false
  column : l.column = Identifier.column ((t.path l.id).map (·.segment))

/-- What a column takes from its leaf:

- `node`, `source`: its node is a node of the tree, that of the leaf;
- `name`: the name of the leaf's column;
- `typeOfTag`, `typeOfKind`: the type that a `type` tag asks for which is not blank and is
  known, and in all other cases the type of the kind;
- `size`, `auto`, `primary`: what the tags say, where a 64-bit integer named `ID` is a
  generated primary key by itself;
- `operator`, `valueFirst`: a plain comparison. -/
structure Leaf.Makes (t : Tree) (l : Leaf) (f : Field) : Prop where
  node : f.node = l.id
  source : t.get? f.node = some l.node
  name : f.name = l.column
  typeOfTag : ∀ s ty, l.tags.type = some s → Text.trimmed s ≠ "" →
    SqlType.ofTag? (Text.trimmed s) = some ty → f.type = ty
  typeOfKind : (∀ s, l.tags.type = some s → Text.trimmed s ≠ "" →
    SqlType.ofTag? (Text.trimmed s) = none) → f.type = SqlType.ofKind l.node.kind
  size : f.size = l.tags.size
  auto : f.auto = true ↔ l.tags.auto = true ∨ l.node.name = "ID" ∧ l.node.kind = Kind.int64
  primary : f.primary = true ↔
    l.tags.primary = true ∨ l.node.name = "ID" ∧ l.node.kind = Kind.int64
  operator : f.operator = .equal
  valueFirst : f.valueFirst = false

/-- The table is one that loading a tree gives, whatever the settings. -/
def IsLoaded (tree : Tree) (t : Table) : Prop :=
  t = (load tree).table ∨
    ∃ options loaded, loadWith options tree = .ok loaded ∧ t = loaded.table

/-- Strict validation either fails or changes nothing, so all loaded tables are the same. -/
theorem IsLoaded.eq_load {tree : Tree} {t : Table} (h : IsLoaded tree t) :
    t = (load tree).table := by
  rcases h with h | ⟨options, loaded, hloaded, rfl⟩
  · exact h
  · unfold loadWith at hloaded
    dsimp only at hloaded
    split at hloaded
    · cases hloaded
    · cases hloaded
      rfl

/-! ### Leaves -/

/-- A leaf that is read from a number is the leaf of that number. -/
theorem leaf?_eq_some {t : Tree} {id : Record.NodeId} {l : Leaf} (h : leaf? t id = some l) :
    l.id = id ∧ t.get? id = some l.node ∧ l.node.isSkipped = false
      ∧ l.column = Identifier.column ((t.path id).map (·.segment)) := by
  unfold leaf? at h
  split at h
  · rename_i n hn
    split at h
    · cases h
    · rename_i hskip
      cases h
      exact ⟨rfl, hn, eq_false_of_ne_true hskip, rfl⟩
  · cases h

/-- A number gives a leaf exactly if its node is there and not skipped. -/
theorem isSome_leaf? (t : Tree) (id : Record.NodeId) :
    (leaf? t id).isSome = (t.get? id).any (!·.isSkipped) := by
  unfold leaf?
  cases t.get? id with
  | none => rfl
  | some n => cases h : n.isSkipped <;> simp [h]

/-- The leaves that are not skipped are read from the tree. -/
theorem read_of_mem_leavesOf {t : Tree} {l : Leaf} (h : l ∈ leavesOf t) : l.Read t := by
  obtain ⟨id, hid, hl⟩ := List.mem_filterMap.mp h
  obtain ⟨rfl, hnode, hskip, hcolumn⟩ := leaf?_eq_some hl
  exact ⟨hid, hnode, hskip, hcolumn⟩

/-- Reading leaves keeps the numbers of those that are not skipped, in order. -/
theorem map_id_filterMap_leaf? (t : Tree) (ids : List Record.NodeId) :
    (ids.filterMap (leaf? t)).map (·.id) = ids.filter fun id => (t.get? id).any (!·.isSkipped) := by
  induction ids with
  | nil => rfl
  | cons id ids ih =>
    have hsome := isSome_leaf? t id
    cases hl : leaf? t id with
    | none =>
      rw [hl, Option.isSome_none] at hsome
      rw [List.filterMap_cons_none hl, ih, List.filter_cons_of_neg (by simp [← hsome])]
    | some l =>
      rw [hl, Option.isSome_some] at hsome
      rw [List.filterMap_cons_some hl, List.map_cons, ih, (leaf?_eq_some hl).1,
        List.filter_cons_of_pos (by rw [← hsome])]

/-- A first leaf of a column is one of the leaves. -/
theorem mem_of_mem_firstOfColumn {ls : List Leaf} {l : Leaf} (h : l ∈ firstOfColumn ls) :
    l ∈ ls := by
  obtain ⟨⟨earlier, m⟩, hm, rfl⟩ := List.mem_map.mp h
  obtain ⟨⟨n, i⟩, hn, heq⟩ := List.mem_map.mp (List.mem_filter.mp hm).1
  cases heq
  exact List.fst_mem_of_mem_zipIdx hn

/-- The columns of the first leaves are the distinct columns. -/
theorem map_column_firstOfColumn (ls : List Leaf) :
    (firstOfColumn ls).map (·.column) = (ls.map (·.column)).eraseDups := by
  -- From the back: whether a leaf is a first one depends on those before it only.
  rw [← ls.reverse_reverse]
  induction ls.reverse with
  | nil => rfl
  | cons l ms ih =>
    rw [List.reverse_cons, List.map_append, List.map_singleton, eraseDups_concat]
    by_cases h : l.column ∈ ms.reverse.map (·.column)
    · rw [firstOfColumn_concat_of_mem h, if_pos h, ih]
    · rw [firstOfColumn_concat_of_not_mem h, if_neg h, List.map_append, ih, List.map_singleton]

/-- The first leaves of the columns have distinct columns. -/
theorem nodup_column_firstOfColumn (ls : List Leaf) :
    ((firstOfColumn ls).map (·.column)).Nodup := by
  rw [map_column_firstOfColumn]
  exact nodup_eraseDups _

/-! ### Columns -/

/-- A 64-bit integer named `ID` is what `isId` looks for. -/
theorem isId_iff (l : Leaf) : l.isId = true ↔ l.node.name = "ID" ∧ l.node.kind = Kind.int64 := by
  simp [Leaf.isId, Leaf.idName]

/-- A tag without the white space around it is a text exactly if the tag is that text but for
white space, and not blank. -/
theorem filter_trimmed_eq_some_iff (tag : Option String) (text : String) :
    (tag.map Text.trimmed).filter (!·.isEmpty) = some text ↔
      ∃ s, tag = some s ∧ Text.trimmed s = text ∧ text ≠ "" := by
  rw [Option.filter_eq_some_iff, Option.map_eq_some_iff]
  constructor
  · rintro ⟨⟨s, hs, htrim⟩, hblank⟩
    exact ⟨s, hs, htrim, by simpa using hblank⟩
  · rintro ⟨s, hs, htrim, hblank⟩
    exact ⟨⟨s, hs, htrim⟩, by simpa using hblank⟩

/-- The type that a tag asks for which is not blank. -/
theorem typeTag?_eq_some_iff (l : Leaf) (name : String) :
    l.typeTag? = some name ↔ ∃ s, l.tags.type = some s ∧ Text.trimmed s = name ∧ name ≠ "" :=
  filter_trimmed_eq_some_iff l.tags.type name

/-- The column of a leaf has what a column takes from its leaf. -/
theorem makes_field {t : Tree} {l : Leaf} (h : l.Read t) : l.Makes t l.field where
  node := rfl
  source := h.node
  name := rfl
  typeOfTag s ty hs hblank hty := by
    have htag : l.typeTag? = some (Text.trimmed s) :=
      (typeTag?_eq_some_iff l _).mpr ⟨s, hs, rfl, hblank⟩
    show l.sqlType = ty
    rw [Leaf.sqlType, htag, Option.bind_some, hty, Option.getD_some]
  typeOfKind hunknown := by
    -- There is no tag, or it is blank, or its type is unknown.
    have hnone : l.typeTag?.bind SqlType.ofTag? = none := by
      cases htag : l.typeTag? with
      | none => rfl
      | some name =>
        obtain ⟨s, hs, rfl, hblank⟩ := (typeTag?_eq_some_iff l name).mp htag
        rw [Option.bind_some]
        exact hunknown s hs hblank
    show l.sqlType = _
    rw [Leaf.sqlType, hnone, Option.getD_none]
  size := rfl
  auto := by
    show (l.tags.auto || l.isId) = true ↔ _
    rw [Bool.or_eq_true, isId_iff]
  primary := by
    show (l.tags.primary || l.isId) = true ↔ _
    rw [Bool.or_eq_true, isId_iff]
  operator := rfl
  valueFirst := rfl

/-- The columns of a loaded table are those of the first leaves. -/
theorem fields_load (t : Tree) :
    (load t).table.fields = (firstOfColumn (leavesOf t)).map (·.field) :=
  (Builder.built_ofTree t).fields

/-- The name of a loaded table is the first that a leaf asks for. -/
theorem name_load (t : Tree) :
    (load t).table.name
      = ((leavesOf t).filterMap (·.tableName?)).head?.getD (Identifier.table t.root.typeName) := by
  have hname := (Builder.built_ofTree t).name
  rw [← chooseName_chosen]
  exact hname

/-- The columns, the primary key and the name of the table of a record.

The leaves that count are the leaves of the tree without the skipped ones. The first of
each column become columns, in order, so column names are distinct. The primary key holds
the columns that are marked as primary, with everything they have. The table has the first
name that is not blank among the `tableName` tags of all these leaves, also of those whose
column is taken, and else that of the record type. -/
theorem load_columns (t : Tree) :
    let ls := leavesOf t
    let table := (load t).table
    ls.map (·.id) = t.leaves.filter (fun id => (t.get? id).any (!·.isSkipped)) ∧
    (∀ l ∈ ls, l.Read t) ∧
    List.Forall₂ (Leaf.Makes t) (firstOfColumn ls) table.fields ∧
    (table.fields.map (·.name)).Nodup ∧
    table.primary = table.fields.filter (·.primary) ∧
    table.name = (ls.filterMap fun l => (l.tags.tableName.map Text.trimmed).filter
      (!·.isEmpty)).head?.getD (Identifier.table t.root.typeName) := by
  intro ls table
  refine ⟨map_id_filterMap_leaf? t t.leaves, fun l hl => read_of_mem_leavesOf hl, ?_, ?_,
    (Builder.built_ofTree t).primary, name_load t⟩
  · rw [show table.fields = _ from fields_load t]
    refine List.forall₂_map_right_iff.mpr (List.forall₂_same.mpr ?_)
    intro l hl
    exact makes_field (read_of_mem_leavesOf (mem_of_mem_firstOfColumn hl))
  · rw [show table.fields = _ from fields_load t, List.map_map]
    exact nodup_column_firstOfColumn ls

end RecordSql.Table
