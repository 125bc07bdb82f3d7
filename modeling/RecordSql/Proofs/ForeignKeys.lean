import RecordSql.Proofs.Columns

/-!
# `RecordSql.Proofs.ForeignKeys`: the foreign keys of a loaded table

The foreign tags of the columns are read as one stream of references, column after column.
Each reference belongs to a foreign key: the one that its entry names, else that of the
column's `foreignGroup` tag, else the default one for the two tables. The default name
contains the name of the table, which is settled before the first reference is read, so a
`tableName` tag counts for the columns before it as well.

`load_foreignKeys` says that the foreign keys of a loaded table are this stream grouped by
name, and that the three lists of a foreign key are the same references side by side.
-/

set_option autoImplicit false

namespace RecordSql.Table

open RecordSql.Record (Tree)

/-- How the foreign key of a reference is named:

- `ofEntry`: by the group of the entry;
- `ofTag`: else by the `foreignGroup` tag, as it is written, unless that is blank;
- `ofTables`: else by the two tables. -/
structure Leaf.Names (l : Leaf) (tableName : String) (e : Tag.ForeignEntry) (name : String) :
    Prop where
  ofEntry : ∀ g, e.group = some g → name = g
  ofTag : ∀ g, e.group = none → l.tags.foreignGroup = some g → Text.trimmed g ≠ "" → name = g
  ofTables : e.group = none → (∀ g, l.tags.foreignGroup = some g → Text.trimmed g = "") →
    name = "fk_" ++ tableName ++ "_to_" ++ e.targetTable

/-- A reference has the name of a foreign key that it is to have. -/
theorem names_foreignName (l : Leaf) (tableName : String) (e : Tag.ForeignEntry) :
    l.Names tableName e (l.foreignName tableName e) := by
  unfold Leaf.foreignName
  cases hgroup : e.group with
  | some group =>
    refine ⟨?_, ?_, ?_⟩
    · intro g hg
      exact Option.some.inj (hgroup ▸ hg)
    · intro g hg
      rw [hgroup] at hg
      cases hg
    · intro hg
      rw [hgroup] at hg
      cases hg
  | none =>
    refine ⟨?_, ?_, ?_⟩
    · intro g hg
      rw [hgroup] at hg
      cases hg
    · intro g _ htag hblank
      have hfilter : (!(Text.trimmed g).isEmpty) = true := by simpa using hblank
      rw [htag, Option.filter_some, if_pos hfilter, Option.getD_some]
    · intro _ hblank
      cases htag : l.tags.foreignGroup with
      | none => rfl
      | some g =>
        have hfilter : ¬(!(Text.trimmed g).isEmpty) = true := by simp [hblank g htag]
        rw [Option.filter_some, if_neg hfilter]
        rfl

/-! ### Grouping references -/

/-- Putting items into a foreign key appends to its three lists alike. -/
theorem foldl_put_foreignKey (items : List ForeignItem) (k : ForeignKey) :
    items.foldl (fun k i => i.put k) k
      = { k with
          fromColumns := k.fromColumns ++ items.map (·.field.name)
          toColumns := k.toColumns ++ items.map (·.toColumn)
          fromFields := k.fromFields ++ items.map (·.field) } := by
  induction items generalizing k with
  | nil => simp
  | cons i items ih =>
    rw [List.foldl_cons, ih]
    simp [ForeignItem.put, ForeignKey.push]

/-- The foreign key of the items of one name. The first of them settles the table and
whether many rows may refer to one. -/
def foreignKeyOf (name : String) (items : List ForeignItem) : ForeignKey where
  name := name
  toTable := (items.head?.map (·.target)).getD ""
  fromColumns := items.map (·.field.name)
  toColumns := items.map (·.toColumn)
  fromFields := items.map (·.field)
  many := (items.head?.map (·.many)).getD false

section

variable (name : String) (items : List ForeignItem)

@[simp] theorem name_foreignKeyOf : (foreignKeyOf name items).name = name :=
  rfl

@[simp] theorem fromColumns_foreignKeyOf :
    (foreignKeyOf name items).fromColumns = items.map (·.field.name) :=
  rfl

@[simp] theorem toColumns_foreignKeyOf :
    (foreignKeyOf name items).toColumns = items.map (·.toColumn) :=
  rfl

@[simp] theorem fromFields_foreignKeyOf :
    (foreignKeyOf name items).fromFields = items.map (·.field) :=
  rfl

/-- The pairs of the foreign key of some items are those of the items. -/
theorem pairs_foreignKeyOf :
    (foreignKeyOf name items).pairs = items.map fun i => (i.field.name, i.toColumn) := by
  rw [ForeignKey.pairs, fromColumns_foreignKeyOf, toColumns_foreignKeyOf, List.zip_map']

end

/-! ### The foreign keys of a record -/

/-- The references of the columns of a record, under the name of its table. -/
def foreignStream (t : Tree) : List ForeignItem :=
  (firstOfColumn (leavesOf t)).flatMap (·.foreignItems (load t).table.name)

/-- The stream in terms of the columns of the loaded table. -/
theorem foreignStream_eq (t : Tree) :
    foreignStream t
      = ((firstOfColumn (leavesOf t)).zip (load t).table.fields).flatMap fun (l, f) =>
          l.foreignTag.entries.map fun e =>
            ForeignItem.mk (l.foreignName (load t).table.name e) e.targetTable l.tags.many f
              (Identifier.targetColumn e.sourceColumn) := by
  rw [fields_load, ← List.map_prod_left_eq_zip, List.flatMap_map]
  rfl

/-- The foreign keys of a loaded table are the stream grouped by name. -/
theorem foreignKeys_load (t : Tree) :
    (load t).table.foreignKeys = groupedBy (·.name) foreignKeyOf (foreignStream t) := by
  -- The walk does not change the name that it starts with.
  have hname : (Builder.start t (leavesOf t)).name = (load t).table.name :=
    (Builder.built_ofTree t).name.symm
  have hgroups := (Builder.built_ofTree t).foreignKeys
  rw [hname] at hgroups
  refine hgroups.entries_eq ?_
  intro i items
  rw [foldl_put_foreignKey]
  simp [ForeignItem.fresh, foreignKeyOf]

/-- A foreign key of a loaded table is that of the items of its name, and there is one. -/
theorem eq_foreignKeyOf_of_mem {t : Tree} {k : ForeignKey} (h : k ∈ (load t).table.foreignKeys) :
    k = foreignKeyOf k.name ((foreignStream t).filter (·.name = k.name)) ∧
      (foreignStream t).filter (·.name = k.name) ≠ [] := by
  rw [foreignKeys_load] at h
  exact eq_make_of_mem_groupedBy name_foreignKeyOf h

/-- The referring columns of a foreign key are the names of its fields. -/
theorem fromColumns_eq_map {t : Tree} {k : ForeignKey} (hk : k ∈ (load t).table.foreignKeys) :
    k.fromColumns = k.fromFields.map (·.name) := by
  rw [(eq_foreignKeyOf_of_mem hk).1, fromColumns_foreignKeyOf, fromFields_foreignKeyOf,
    List.map_map]
  rfl

/-- A column that is referred to comes from the entry of a foreign tag. -/
theorem exists_source_of_mem_toColumns {t : Tree} {k : ForeignKey}
    (hk : k ∈ (load t).table.foreignKeys) {column : String} (hcolumn : column ∈ k.toColumns) :
    ∃ source, column = Identifier.targetColumn source := by
  rw [(eq_foreignKeyOf_of_mem hk).1, toColumns_foreignKeyOf] at hcolumn
  obtain ⟨i, hi, rfl⟩ := List.mem_map.mp hcolumn
  obtain ⟨l, -, hil⟩ := List.mem_flatMap.mp (List.mem_of_mem_filter hi)
  obtain ⟨e, -, rfl⟩ := List.mem_map.mp hil
  exact ⟨e.sourceColumn, rfl⟩

/-- The columns of a foreign key are columns of the table, unchanged. -/
theorem mem_fields_of_mem_foreignKey {t : Tree} {k : ForeignKey}
    (hk : k ∈ (load t).table.foreignKeys) {f : Field} (hf : f ∈ k.fromFields) :
    f ∈ (load t).table.fields := by
  rw [(eq_foreignKeyOf_of_mem hk).1, fromFields_foreignKeyOf] at hf
  obtain ⟨i, hi, rfl⟩ := List.mem_map.mp hf
  obtain ⟨l, hl, hil⟩ := List.mem_flatMap.mp (List.mem_of_mem_filter hi)
  obtain ⟨e, -, rfl⟩ := List.mem_map.mp hil
  rw [fields_load]
  exact List.mem_map_of_mem hl

/-- The foreign keys of the table of a record. The stream has the columns in order, and for
each of them the entries of its foreign tag, as the table's own column with the column that
the entry refers to. An item is named by the group of its entry, else by the `foreignGroup`
tag of the column, else by the final name of the table and the table it refers to.

Each distinct name in the stream has one foreign key, in the order of first occurrence. Its
three lists are the columns' names, the columns they refer to and the columns themselves,
of all items of its name in the order of the stream. So they have the same length, which
is not zero. Over all foreign keys every pair of the stream is there once. -/
theorem load_foreignKeys (t : Tree) :
    let table := (load t).table
    let columns := (firstOfColumn (leavesOf t)).zip table.fields
    let stream := columns.flatMap fun (l, f) => l.foreignTag.entries.map fun e =>
      ForeignItem.mk (l.foreignName table.name e) e.targetTable l.tags.many f
        (Identifier.targetColumn e.sourceColumn)
    let itemsOf := fun (name : String) => stream.filter (·.name = name)
    (∀ l ∈ firstOfColumn (leavesOf t), ∀ e ∈ l.foreignTag.entries,
      l.Names table.name e (l.foreignName table.name e)) ∧
    table.foreignKeys.map (·.name) = (stream.map (·.name)).eraseDups ∧
    (table.foreignKeys.map (·.name)).Nodup ∧
    (∀ k ∈ table.foreignKeys,
      k.fromColumns = (itemsOf k.name).map (·.field.name) ∧
      k.toColumns = (itemsOf k.name).map (·.toColumn) ∧
      k.fromFields = (itemsOf k.name).map (·.field) ∧
      (∀ f ∈ k.fromFields, f ∈ table.fields) ∧
      k.fromColumns.length = k.toColumns.length ∧
      k.fromFields.length = k.toColumns.length ∧
      k.toColumns.length ≠ 0) ∧
    (table.foreignKeys.flatMap fun k => k.pairs.map fun p => (k.name, p)).Perm
      (stream.map fun i => (i.name, (i.field.name, i.toColumn))) := by
  intro table columns stream itemsOf
  -- The statement spells out the stream that `foreignStream` names.
  have hstream : stream = foreignStream t := (foreignStream_eq t).symm
  clear_value stream
  subst hstream
  have hnames : table.foreignKeys.map (·.name) = ((foreignStream t).map (·.name)).eraseDups := by
    rw [show table.foreignKeys = _ from foreignKeys_load t]
    exact map_nameOf_groupedBy name_foreignKeyOf _
  refine ⟨fun l _ e _ => names_foreignName l table.name e, hnames, ?_, ?_, ?_⟩
  · rw [hnames]
    exact nodup_eraseDups _
  · intro k hk
    obtain ⟨heq, hitems⟩ := eq_foreignKeyOf_of_mem hk
    have hfrom : k.fromColumns = (itemsOf k.name).map (·.field.name) := by
      rw [← fromColumns_foreignKeyOf k.name, ← heq]
    have hto : k.toColumns = (itemsOf k.name).map (·.toColumn) := by
      rw [← toColumns_foreignKeyOf k.name, ← heq]
    have hfields : k.fromFields = (itemsOf k.name).map (·.field) := by
      rw [← fromFields_foreignKeyOf k.name, ← heq]
    refine ⟨hfrom, hto, hfields, fun f hf => mem_fields_of_mem_foreignKey hk hf, ?_, ?_, ?_⟩
    · rw [hfrom, hto, List.length_map, List.length_map]
    · rw [hfields, hto, List.length_map, List.length_map]
    · rw [hto, List.length_map]
      intro hlength
      exact hitems (List.length_eq_zero_iff.mp hlength)
  · rw [show table.foreignKeys = _ from foreignKeys_load t]
    exact flatMap_groupedBy_perm name_foreignKeyOf pairs_foreignKeyOf (foreignStream t)

/-- The table gets its name from the second column, and the default foreign key of the first
column has that name already. The second column names the same foreign key by its group. -/
example :
    let t := ((Tree.new "Post" "Post").push 0
        { name := "Author", kind := .int64, typeName := "int64"
          tags := some { foreign := some "ID@users" } }).push 0
        { name := "Org", kind := .int64, typeName := "int64"
          tags := some {
            foreign := some "Org@users@fk_notes_to_users", tableName := some " notes " } }
    ((load t).table.foreignKeys.map fun k => (k.name, k.toTable, k.pairs))
      = [("fk_notes_to_users", "users", [("f_author", "f_id"), ("f_org", "f_org")])] := by
  decide +kernel

end RecordSql.Table
