import RecordSql.Proofs.Registry
import RecordSql.Table.Load

/-!
# `RecordSql.Proofs.Builder`: what the builder has made after some leaves

The builder walks over the leaves once and changes seven things on the way. Here each of
them is said without the walk, from the leaves alone:

* `firstOfColumn` are the leaves that become columns, `Leaf.indexItems` and
  `Leaf.foreignItems` what the tags of one of them ask for, and `leafIssues` what is
  reported;
* `Builder.Built` says that a builder holds just that. `built_addLeaf` is the step: one
  more leaf keeps it, whether its column is new or taken. `built_ofTree` is the run: it
  holds of the finished builder of every record.

The name of the table is settled before the walk. `chooseName_chosen` and
`chooseName_conflicts` say how.
-/

set_option autoImplicit false

namespace RecordSql.Table

open RecordSql.Record (Tree)

/-! ### What the leaves ask for -/

/-- The leaves, each with those before it. -/
def withEarlier (ls : List Leaf) : List (List Leaf × Leaf) :=
  ls.zipIdx.map fun (l, i) => (ls.take i, l)

/-- The leaves whose column no earlier leaf has. -/
def firstOfColumn (ls : List Leaf) : List Leaf :=
  ((withEarlier ls).filter fun (earlier, l) => l.column ∉ earlier.map (·.column)).map (·.2)

/-- A column in an index: the name of the index, whether a unique tag asks for it, and the
column with its comparison. -/
structure IndexItem where
  name : String
  unique : Bool
  field : Field
deriving DecidableEq, Repr

/-- The index that an item opens. -/
def IndexItem.fresh (i : IndexItem) : Index :=
  { name := i.name }

/-- Puts an item into an index. -/
def IndexItem.put (i : IndexItem) (ix : Index) : Index :=
  ix.push i.unique i.field

/-- A reference of a column: the name of the foreign key, the table, whether many rows may
refer to one, and the two columns. -/
structure ForeignItem where
  name : String
  target : String
  many : Bool
  field : Field
  toColumn : String
deriving DecidableEq, Repr

/-- The foreign key that an item opens. -/
def ForeignItem.fresh (i : ForeignItem) : ForeignKey :=
  { name := i.name, toTable := i.target, many := i.many }

/-- Puts an item into a foreign key. -/
def ForeignItem.put (i : ForeignItem) (k : ForeignKey) : ForeignKey :=
  k.push i.field i.toColumn

namespace Leaf

/-- The place of the leaf's column in the index that an entry names. -/
def indexItem (l : Leaf) (unique : Bool) (e : Tag.IndexEntry) : IndexItem :=
  ⟨e.name, unique, l.field.withOperator e.operator e.valueFirst⟩

/-- The places of the leaf's column in indexes: of the index tag, then of the unique tag. -/
def indexItems (l : Leaf) : List IndexItem :=
  l.indexTag.entries.map (l.indexItem false) ++ l.uniqueTag.entries.map (l.indexItem true)

/-- The reference of an entry. -/
def foreignItem (l : Leaf) (tableName : String) (e : Tag.ForeignEntry) : ForeignItem :=
  ⟨l.foreignName tableName e, e.targetTable, l.tags.many, l.field, e.targetColumn⟩

/-- The references of the leaf's column. -/
def foreignItems (l : Leaf) (tableName : String) : List ForeignItem :=
  l.foreignTag.entries.map (l.foreignItem tableName)

/-- The issues of the leaf when it becomes a column. -/
def issues (l : Leaf) : List Issue :=
  l.typeIssues ++ l.rejections .index l.indexTag.rejected
    ++ l.rejections .unique l.uniqueTag.rejected ++ l.rejections .foreign l.foreignTag.rejected

end Leaf

/-- The issues of the leaves. Of one whose column is taken, nothing else is looked at. -/
def leafIssues (ls : List Leaf) : List Issue :=
  (withEarlier ls).flatMap fun (earlier, l) =>
    if l.column ∈ earlier.map (·.column) then [.duplicateColumn l.column l.node.name]
    else l.issues

/-! ### One more leaf -/

/-- One more leaf has all the others before it. -/
theorem withEarlier_concat (ls : List Leaf) (l : Leaf) :
    withEarlier (ls ++ [l]) = withEarlier ls ++ [(ls, l)] := by
  unfold withEarlier
  rw [List.zipIdx_append, List.map_append]
  congr 1
  · refine List.map_congr_left ?_
    intro (m, i) hm
    have hi : i ≤ ls.length := by
      have := List.snd_lt_of_mem_zipIdx hm
      omega
    show ((ls ++ [l]).take i, m) = (ls.take i, m)
    rw [List.take_append_of_le_length hi]
  · simp

/-- A leaf whose column is taken is not among the first ones. -/
theorem firstOfColumn_concat_of_mem {ls : List Leaf} {l : Leaf}
    (h : l.column ∈ ls.map (·.column)) : firstOfColumn (ls ++ [l]) = firstOfColumn ls := by
  unfold firstOfColumn
  rw [withEarlier_concat, List.filter_append, List.filter_cons_of_neg (by simpa using h),
    List.filter_nil, List.append_nil]

/-- A leaf whose column is new is the last of the first ones. -/
theorem firstOfColumn_concat_of_not_mem {ls : List Leaf} {l : Leaf}
    (h : l.column ∉ ls.map (·.column)) : firstOfColumn (ls ++ [l]) = firstOfColumn ls ++ [l] := by
  unfold firstOfColumn
  rw [withEarlier_concat, List.filter_append, List.filter_cons_of_pos (by simpa using h),
    List.filter_nil, List.map_append, List.map_singleton]

/-- One more leaf has its own issues, or only that its column is taken. -/
theorem leafIssues_concat (ls : List Leaf) (l : Leaf) :
    leafIssues (ls ++ [l]) = leafIssues ls
      ++ if l.column ∈ ls.map (·.column) then [.duplicateColumn l.column l.node.name]
        else l.issues := by
  unfold leafIssues
  rw [withEarlier_concat, List.flatMap_append, List.flatMap_singleton]

/-! ### The name of the table -/

/-- Once a name is chosen it stays, and every later name that differs is reported. -/
theorem foldl_consider (names : List String) (first : String) (conflicts : List Issue) :
    names.foldl NameChoice.consider ⟨some first, conflicts⟩
      = ⟨some first, conflicts
          ++ (names.filter (· ≠ first)).map (.conflictingTableName first ·)⟩ := by
  induction names generalizing conflicts with
  | nil => simp
  | cons name names ih =>
    rw [List.foldl_cons]
    by_cases h : first = name
    · have hstep : NameChoice.consider ⟨some first, conflicts⟩ name = ⟨some first, conflicts⟩ := by
        simp [NameChoice.consider, h]
      rw [hstep, ih]
      simp [h]
    · have hstep : NameChoice.consider ⟨some first, conflicts⟩ name
          = ⟨some first, conflicts ++ [.conflictingTableName first name]⟩ := by
        simp [NameChoice.consider, h]
      rw [hstep, ih]
      simp [Ne.symm h]

/-- The first name that a leaf asks for is chosen. -/
theorem chooseName_chosen (ls : List Leaf) :
    (chooseName ls).chosen = (ls.filterMap (·.tableName?)).head? := by
  unfold chooseName
  cases ls.filterMap (·.tableName?) with
  | nil => rfl
  | cons first names =>
    rw [List.foldl_cons]
    show (names.foldl NameChoice.consider ⟨some first, []⟩).chosen = some first
    rw [foldl_consider]

namespace Builder

/-! ### What a builder holds -/

/-- What a builder holds after some leaves, when it started under a name and with some
issues:

- `columns`: the columns of all these leaves are taken;
- `fields`, `primary`: the columns of the first leaves of each column, and those of them
  that are marked as primary;
- `indexes`, `foreignKeys`: what these leaves ask for, grouped by name;
- `issues`: what these leaves have wrong with them. -/
structure Built (tableName : String) (conflicts : List Issue) (ls : List Leaf) (b : Builder) :
    Prop where
  name : b.name = tableName
  columns : ∀ c, c ∈ b.columns ↔ c ∈ ls.map (·.column)
  fields : b.fields = (firstOfColumn ls).map (·.field)
  primary : b.primary = b.fields.filter (·.primary)
  indexes : Registry.Groups (·.name) IndexItem.fresh IndexItem.put
    ((firstOfColumn ls).flatMap (·.indexItems)) b.indexes
  foreignKeys : Registry.Groups (·.name) ForeignItem.fresh ForeignItem.put
    ((firstOfColumn ls).flatMap (·.foreignItems tableName)) b.foreignKeys
  issues : b.issues = conflicts ++ leafIssues ls

/-- The places that a tag asks for are put into the indexes one after the other. Nothing
else changes but for the issues. -/
theorem joinIndexes_eq (b : Builder) (l : Leaf) (tag : EntryTag) (unique : Bool)
    (p : Tag.Parsed Tag.IndexEntry) :
    b.joinIndexes l tag unique p = { b with
      indexes := (p.entries.map (l.indexItem unique)).foldl
        (fun r i => r.update i.name i.fresh i.put) b.indexes
      issues := b.issues ++ l.rejections tag p.rejected } := by
  unfold joinIndexes report
  -- The issues are reported before the first entry is put in, so they stay as they are.
  generalize b.issues ++ l.rejections tag p.rejected = issues
  induction p.entries generalizing b with
  | nil => rfl
  | cons e es ih =>
    rw [List.foldl_cons, List.map_cons, List.foldl_cons]
    exact ih { b with indexes := b.indexes.update e.name { name := e.name } _ }

/-- The references that a tag asks for are put into the foreign keys one after the other.
Nothing else changes but for the issues. -/
theorem joinForeignKeys_eq (b : Builder) (l : Leaf) (p : Tag.Parsed Tag.ForeignEntry) :
    b.joinForeignKeys l p = { b with
      foreignKeys := (p.entries.map (l.foreignItem b.name)).foldl
        (fun r i => r.update i.name i.fresh i.put) b.foreignKeys
      issues := b.issues ++ l.rejections .foreign p.rejected } := by
  unfold joinForeignKeys report
  generalize b.issues ++ l.rejections .foreign p.rejected = issues
  induction p.entries generalizing b with
  | nil => rfl
  | cons e es ih =>
    rw [List.foldl_cons, List.map_cons, List.foldl_cons]
    -- The name of the table stays, so the default names of all entries are the same.
    exact ih { b with foreignKeys := b.foreignKeys.update (l.foreignName b.name e) _ _ }

/-- A leaf whose column is taken leaves one issue and nothing else. -/
theorem addLeaf_of_mem {b : Builder} {l : Leaf} (h : l.column ∈ b.columns) :
    b.addLeaf l = { b with issues := b.issues ++ [.duplicateColumn l.column l.node.name] } := by
  unfold addLeaf
  rw [if_pos h]
  rfl

/-- A leaf whose column is new becomes a column, with all that its tags ask for. -/
theorem addLeaf_of_not_mem {b : Builder} {l : Leaf} (h : l.column ∉ b.columns) :
    b.addLeaf l = {
      name := b.name
      columns := l.column :: b.columns
      fields := b.fields ++ [l.field]
      primary := if l.field.primary then b.primary ++ [l.field] else b.primary
      indexes := l.indexItems.foldl (fun r i => r.update i.name i.fresh i.put) b.indexes
      foreignKeys := (l.foreignItems b.name).foldl
        (fun r i => r.update i.name i.fresh i.put) b.foreignKeys
      issues := b.issues ++ l.issues } := by
  unfold addLeaf
  -- From the last call to the first; what each of them leaves alone is read off the others.
  rw [if_neg h, joinForeignKeys_eq, joinIndexes_eq, joinIndexes_eq]
  simp only [takeColumn, report, addPrimary, addField, Leaf.indexItems, Leaf.foreignItems,
    Leaf.issues, List.foldl_append, List.append_assoc]

/-- One more leaf keeps the builder right. -/
theorem built_addLeaf {tableName : String} {conflicts : List Issue} {ls : List Leaf}
    {b : Builder} (h : Built tableName conflicts ls b) (l : Leaf) :
    Built tableName conflicts (ls ++ [l]) (b.addLeaf l) := by
  by_cases hl : l.column ∈ ls.map (·.column)
  · -- The column is taken: the first leaves are the same, so only the issues grow.
    rw [addLeaf_of_mem ((h.columns _).mpr hl)]
    have hfirst := firstOfColumn_concat_of_mem hl
    constructor
    · exact h.name
    · intro c
      rw [h.columns, List.map_append, List.mem_append, List.map_singleton, List.mem_singleton]
      constructor
      · exact Or.inl
      · rintro (hc | rfl)
        · exact hc
        · exact hl
    · rw [hfirst]
      exact h.fields
    · exact h.primary
    · rw [hfirst]
      exact h.indexes
    · rw [hfirst]
      exact h.foreignKeys
    · show b.issues ++ _ = _
      rw [leafIssues_concat, if_pos hl, h.issues, List.append_assoc]
  · -- The column is new: the leaf joins the first ones with all that it asks for.
    rw [addLeaf_of_not_mem fun hc => hl ((h.columns _).mp hc)]
    have hfirst := firstOfColumn_concat_of_not_mem hl
    constructor
    · exact h.name
    · intro c
      rw [List.mem_cons, h.columns, List.map_append, List.mem_append, List.map_singleton,
        List.mem_singleton, or_comm]
    · rw [hfirst, List.map_append, List.map_singleton, ← h.fields]
    · show (if l.field.primary then b.primary ++ [l.field] else b.primary)
        = (b.fields ++ [l.field]).filter (·.primary)
      rw [List.filter_append, ← h.primary]
      by_cases hp : l.field.primary <;> simp [hp]
    · rw [hfirst, List.flatMap_append, List.flatMap_singleton]
      exact Registry.groups_foldl h.indexes l.indexItems
    · rw [hfirst, List.flatMap_append, List.flatMap_singleton, h.name]
      exact Registry.groups_foldl h.foreignKeys (l.foreignItems tableName)
    · show b.issues ++ l.issues = _
      rw [leafIssues_concat, if_neg hl, h.issues, List.append_assoc]

/-- Any number of leaves keep the builder right. -/
theorem built_foldl {tableName : String} {conflicts : List Issue} {ls : List Leaf}
    {b : Builder} (h : Built tableName conflicts ls b) (ms : List Leaf) :
    Built tableName conflicts (ls ++ ms) (ms.foldl addLeaf b) := by
  induction ms generalizing ls b with
  | nil => rwa [List.append_nil]
  | cons m ms ih =>
    rw [List.append_cons, List.foldl_cons]
    exact ih (built_addLeaf h m)

/-- A builder that has just started has seen no leaves. -/
theorem built_start (t : Tree) (ls : List Leaf) :
    Built (start t ls).name (chooseName ls).conflicts [] (start t ls) where
  name := rfl
  columns := by simp [start]
  fields := rfl
  primary := rfl
  indexes := Registry.groups_nil
  foreignKeys := Registry.groups_nil
  issues := by simp [start, leafIssues, withEarlier]

/-- The finished builder of a record holds what all leaves of the record ask for. -/
theorem built_ofTree (t : Tree) :
    Built (start t (leavesOf t)).name (chooseName (leavesOf t)).conflicts (leavesOf t)
      (ofTree t) := by
  have h := built_foldl (built_start t (leavesOf t)) (leavesOf t)
  rwa [List.nil_append] at h

end Builder

end RecordSql.Table
