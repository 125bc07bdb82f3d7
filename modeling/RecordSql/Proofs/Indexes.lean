import RecordSql.Proofs.Columns

/-!
# `RecordSql.Proofs.Indexes`: the indexes of a loaded table

The index and unique tags of the columns are read as one stream: column after column, the
entries of the index tag before those of the unique tag. `load_indexes` says that the
indexes of a loaded table are this stream grouped by the names of the indexes. An index has
all items of its name and no others, in the order of the stream, and is unique if and only
if one of them comes from a unique tag, wherever that stands among them.
-/

set_option autoImplicit false

namespace RecordSql.Table

open RecordSql.Record (Tree)

/-- Putting items into an index appends their columns and keeps it unique once it is. -/
theorem foldl_put_index (items : List IndexItem) (ix : Index) :
    items.foldl (fun ix i => i.put ix) ix
      = { ix with
          unique := ix.unique || items.any (·.unique)
          fields := ix.fields ++ items.map (·.field) } := by
  induction items generalizing ix with
  | nil => simp
  | cons i items ih =>
    rw [List.foldl_cons, ih]
    simp [IndexItem.put, Index.push, Bool.or_assoc]

/-- The index of the items of one name. -/
def indexOf (name : String) (items : List IndexItem) : Index where
  name := name
  unique := items.any (·.unique)
  fields := items.map (·.field)

section

variable (name : String) (items : List IndexItem)

@[simp] theorem name_indexOf : (indexOf name items).name = name :=
  rfl

@[simp] theorem unique_indexOf : (indexOf name items).unique = items.any (·.unique) :=
  rfl

@[simp] theorem fields_indexOf : (indexOf name items).fields = items.map (·.field) :=
  rfl

end

/-- What the columns of a record ask for in their index and unique tags. -/
def indexStream (t : Tree) : List IndexItem :=
  (firstOfColumn (leavesOf t)).flatMap (·.indexItems)

/-- The indexes of a loaded table are the stream grouped by name. -/
theorem indexes_load (t : Tree) :
    (load t).table.indexes = groupedBy (·.name) indexOf (indexStream t) := by
  refine (Builder.built_ofTree t).indexes.entries_eq ?_
  intro i items
  rw [foldl_put_index]
  simp [IndexItem.fresh, indexOf]

/-- An index of a loaded table is that of the items of its name, and there is one. -/
theorem eq_indexOf_of_mem {t : Tree} {ix : Index} (h : ix ∈ (load t).table.indexes) :
    ix = indexOf ix.name ((indexStream t).filter (·.name = ix.name)) ∧
      (indexStream t).filter (·.name = ix.name) ≠ [] := by
  rw [indexes_load] at h
  exact eq_make_of_mem_groupedBy name_indexOf h

/-- A loaded table has no index without columns. -/
theorem fields_ne_nil_of_mem_indexes {t : Tree} {ix : Index} (h : ix ∈ (load t).table.indexes) :
    ix.fields ≠ [] := by
  obtain ⟨heq, hitems⟩ := eq_indexOf_of_mem h
  rw [heq, fields_indexOf]
  intro hnil
  exact hitems (List.map_eq_nil_iff.mp hnil)

/-- The column of an item is that of its leaf with a comparison of its own. -/
theorem field_of_mem_indexItems {l : Leaf} {i : IndexItem} (h : i ∈ l.indexItems) :
    i.field = l.field.withOperator i.field.operator i.field.valueFirst := by
  rcases List.mem_append.mp h with h | h
  · obtain ⟨e, -, rfl⟩ := List.mem_map.mp h
    rfl
  · obtain ⟨e, -, rfl⟩ := List.mem_map.mp h
    rfl

/-- The columns of an index are columns of the table, each with a comparison of its own. -/
theorem exists_field_of_mem_index {t : Tree} {ix : Index} (hix : ix ∈ (load t).table.indexes)
    {f : Field} (hf : f ∈ ix.fields) :
    ∃ g ∈ (load t).table.fields, f = g.withOperator f.operator f.valueFirst := by
  rw [(eq_indexOf_of_mem hix).1, fields_indexOf] at hf
  obtain ⟨i, hi, rfl⟩ := List.mem_map.mp hf
  obtain ⟨l, hl, hil⟩ := List.mem_flatMap.mp (List.mem_of_mem_filter hi)
  refine ⟨l.field, ?_, field_of_mem_indexItems hil⟩
  rw [fields_load]
  exact List.mem_map_of_mem hl

/-- Two columns that share two indexes. Each asks in another of its tags for an index to be
unique, one before and one after the other column joins it. -/
example :
    let tags (index unique : String) : Option Record.Tags :=
      some { index := some index, unique := some unique }
    let t := ((Tree.new "Entry" "Entry").push 0
        { name := "Key", kind := .string, typeName := "string", tags := tags "a;b" "c" }).push 0
        { name := "Day", kind := .string, typeName := "string", tags := tags "c@LIKE" "a" }
    ((load t).table.indexes.map fun ix => (ix.name, ix.unique, ix.columnNames))
      = [("a", true, ["f_key", "f_day"]), ("b", false, ["f_key"]),
        ("c", true, ["f_key", "f_day"])] := by
  decide +kernel

end RecordSql.Table
