import RecordSql.Proofs.ForeignKeys

/-!
# `RecordSql.Proofs.References`: which table a foreign key references

A foreign key references one table, and it consists of the references of one name. The entry of
a reference names a table as well, but only the default name of a foreign key contains it. A
group or a `foreignGroup` tag can bring references to different tables together. The first of
them then settles the table, and the others refer to columns of a table that their entries do
not name, as `shared_group_mixes_tables` shows.

`load_referencedTables` says when this does not happen: exactly if references that share a name
also share their table. References without a group never stand in the way.
-/

set_option autoImplicit false

namespace RecordSql.Table

open RecordSql.Record (Tree)

/-- Neither the entry nor its leaf names a foreign key, so the name is that for the two
tables. -/
def Leaf.Ungrouped (l : Leaf) (e : Tag.ForeignEntry) : Prop :=
  e.group = none ∧ ∀ g, l.tags.foreignGroup = some g → Text.trimmed g = ""

/-- The default names of foreign keys of one table tell the referenced tables apart. -/
theorem targetTable_eq_of_foreignName_eq {l m : Leaf} {e f : Tag.ForeignEntry}
    {tableName : String} (hl : l.Ungrouped e) (hm : m.Ungrouped f)
    (h : l.foreignName tableName e = m.foreignName tableName f) :
    e.targetTable = f.targetTable := by
  rw [(names_foreignName l tableName e).ofTables hl.1 hl.2,
    (names_foreignName m tableName f).ofTables hm.1 hm.2] at h
  exact (String.append_right_inj _).mp h

/-- The first item of its name settles the table of a foreign key. -/
theorem head?_target_of_mem_foreignKeys {t : Tree} {k : ForeignKey}
    (h : k ∈ (load t).table.foreignKeys) :
    ((foreignStream t).filter (·.name = k.name)).head?.map (·.target) = some k.toTable := by
  obtain ⟨heq, hitems⟩ := eq_foreignKeyOf_of_mem h
  have htable := congrArg ForeignKey.toTable heq
  obtain ⟨first, rest, hfirst⟩ := List.exists_cons_of_ne_nil hitems
  rw [hfirst] at htable ⊢
  rw [htable]
  rfl

/-- Every reference has a foreign key of its name. -/
theorem exists_foreignKey_of_mem_stream {t : Tree} {i : ForeignItem} (h : i ∈ foreignStream t) :
    ∃ k ∈ (load t).table.foreignKeys, k.name = i.name := by
  have hname : i.name ∈ (load t).table.foreignKeys.map (·.name) := by
    rw [foreignKeys_load, map_nameOf_groupedBy name_foreignKeyOf, List.mem_eraseDups]
    exact List.mem_map_of_mem h
  exact List.mem_map.mp hname

/-- All references of every foreign key name its table exactly if references of one name name
one table. -/
theorem targets_eq_toTable_iff (t : Tree) :
    (∀ k ∈ (load t).table.foreignKeys, ∀ i ∈ (foreignStream t).filter (·.name = k.name),
      i.target = k.toTable) ↔
    ∀ i ∈ foreignStream t, ∀ j ∈ foreignStream t, i.name = j.name → i.target = j.target := by
  constructor
  · intro h i hi j hj hij
    obtain ⟨k, hk, hname⟩ := exists_foreignKey_of_mem_stream hi
    have hi' := h k hk i (List.mem_filter.mpr ⟨hi, decide_eq_true hname.symm⟩)
    have hj' := h k hk j (List.mem_filter.mpr ⟨hj, decide_eq_true (hname.trans hij).symm⟩)
    exact hi'.trans hj'.symm
  · intro h k hk i hi
    -- The item that settles the table has the same name.
    obtain ⟨first, hfirst, htarget⟩ :=
      Option.map_eq_some_iff.mp (head?_target_of_mem_foreignKeys hk)
    obtain ⟨hmem, hname⟩ := List.mem_filter.mp (List.mem_of_head? hfirst)
    obtain ⟨himem, hiname⟩ := List.mem_filter.mp hi
    rw [← htarget]
    exact h i himem first hmem ((of_decide_eq_true hiname).trans (of_decide_eq_true hname).symm)

/-- Which table the foreign keys of a record reference. The stream has the references of the
columns in order, and the pairs of a foreign key are those of the items of its name, one by
one. The table that it references is the one that the first of these items names.

So each pair of each foreign key comes from an entry that names the table of the foreign key
exactly if items of one name always name one table. Items that no group names agree in this:
if they share a name, they share the table. Therefore a foreign key refers to columns of
another table than an entry names only where a group, of the entry or of the column, gives
that name to references to different tables. -/
theorem load_referencedTables (t : Tree) :
    let table := (load t).table
    let columns := (firstOfColumn (leavesOf t)).zip table.fields
    let stream := columns.flatMap fun (l, f) => l.foreignTag.entries.map fun e =>
      ForeignItem.mk (l.foreignName table.name e) e.targetTable l.tags.many f
        (Identifier.targetColumn e.sourceColumn)
    let itemsOf := fun (name : String) => stream.filter (·.name = name)
    (∀ k ∈ table.foreignKeys,
      k.pairs = (itemsOf k.name).map (fun i => (i.field.name, i.toColumn)) ∧
      (itemsOf k.name).head?.map (·.target) = some k.toTable) ∧
    ((∀ k ∈ table.foreignKeys, ∀ i ∈ itemsOf k.name, i.target = k.toTable) ↔
      ∀ i ∈ stream, ∀ j ∈ stream, i.name = j.name → i.target = j.target) ∧
    ∀ l ∈ leavesOf t, ∀ e ∈ l.foreignTag.entries, ∀ m ∈ leavesOf t, ∀ f ∈ m.foreignTag.entries,
      l.Ungrouped e → m.Ungrouped f →
      l.foreignName table.name e = m.foreignName table.name f → e.targetTable = f.targetTable := by
  intro table columns stream itemsOf
  -- The statement spells out the stream that `foreignStream` names.
  have hstream : stream = foreignStream t := (foreignStream_eq t).symm
  clear_value stream
  subst hstream
  refine ⟨?_, targets_eq_toTable_iff t, ?_⟩
  · intro k hk
    refine ⟨?_, head?_target_of_mem_foreignKeys hk⟩
    rw [← pairs_foreignKeyOf k.name, ← (eq_foreignKeyOf_of_mem hk).1]
  · intro l _ e _ m _ f _ hl hm hname
    exact targetTable_eq_of_foreignName_eq hl hm hname

/-- A record whose two fields share a foreign key by its name, but refer to different tables. -/
def membership : Tree :=
  let field (name foreign : String) : Record.Node :=
    { name, kind := .int64, typeName := "int64", tags := some { foreign := some foreign } }
  ((Tree.new "Membership" "Membership").push 0 (field "User" "ID@users@member")).push 0
    (field "Team" "ID@teams@member")

/-- The foreign key of such a record makes the second field refer to the table of the first. -/
theorem shared_group_mixes_tables :
    ∃ k ∈ (load membership).table.foreignKeys,
      k.pairs = [("f_user", "f_id"), ("f_team", "f_id")] ∧ k.toTable = "users" ∧
      ∃ i ∈ (foreignStream membership).filter (·.name = k.name),
        i.field.name = "f_team" ∧ i.target = "teams" := by
  decide +kernel

end RecordSql.Table
