import RecordSql.Proofs.Retagging

/-!
# `RecordSql.Proofs.Skipping`: what a skip tag leaves out

A skip tag leaves its own leaf out of the table, and it is not looked at anywhere else: the skip tag
of a record that stands in the record leaves nothing out.

```text
User                    columns f_name and f_secret_key
├─ Name
└─ Secret (skip)
   └─ Key
```

`LeavesOut` says that nothing in a table comes from certain leaves: no column in any of the places
where a table has columns (`Table.allFields`), and not the name of the table. What is in a table
comes from its `contributors`, and these are leaves without a skip tag of their own
(`leavesOut_iff`).

So `load_skipped`: own skip tags are respected, other ones make no difference, and a table is free
of everything in skipped records exactly if no contributor stands in one.
-/

set_option autoImplicit false

namespace RecordSql

/-- All places in which a table has columns: the columns themselves, the primary key, the indexes
and the referring ends of foreign keys. -/
def Table.allFields (t : Table) : List Field :=
  t.fields ++ t.primary ++ t.indexes.flatMap (·.fields) ++ t.foreignKeys.flatMap (·.fromFields)

namespace Record.Tree

/-- The node is to be left out itself. -/
def Skipped (t : Tree) (id : NodeId) : Prop :=
  ∃ n, t.get? id = some n ∧ n.isSkipped = true

/-- The node is to be left out itself, or stands in a record that is. -/
def Hidden (t : Tree) (id : NodeId) : Prop :=
  ∃ n ∈ t.path id, n.isSkipped = true

end Record.Tree

namespace Table

open RecordSql.Record (Tree NodeId Tags)

/-- The leaf from which a table has its name, unless this is that of the record type. -/
def namer? (t : Tree) : Option Leaf :=
  (leavesOf t).find? (·.tableName?.isSome)

/-- The leaves from which there is something in a table. -/
def contributors (t : Tree) : List Leaf :=
  firstOfColumn (leavesOf t) ++ (namer? t).toList

/-- Nothing in the table of a record comes from certain leaves: no column in any place, and not its
name. -/
structure LeavesOut (t : Tree) (out : NodeId → Prop) : Prop where
  fields : ∀ f ∈ (load t).table.allFields, ¬out f.node
  name : ∀ l, namer? t = some l → ¬out l.id

/-- The first result of a list is that of the first member that has one. -/
theorem head?_filterMap_eq_bind_find? {α β : Type} (f : α → Option β) (as : List α) :
    (as.filterMap f).head? = (as.find? (f · |>.isSome)).bind f := by
  induction as with
  | nil => rfl
  | cons a as ih =>
    cases ha : f a with
    | none =>
      rw [List.filterMap_cons_none ha, List.find?_cons, ha, ih]
      rfl
    | some b =>
      rw [List.filterMap_cons_some ha, List.find?_cons, ha]
      exact ha.symm

variable {t : Tree} {l : Leaf} {f : Field}

/-- A table has its name from this leaf, or it is that of the record type. -/
theorem name_load_eq_namer (t : Tree) :
    (load t).table.name
      = ((namer? t).bind (·.tableName?)).getD (Identifier.table t.root.typeName) := by
  rw [name_load, head?_filterMap_eq_bind_find?, namer?]

/-- Whatever is in a table comes from leaves that are read. -/
theorem mem_leavesOf_of_mem_contributors (h : l ∈ contributors t) : l ∈ leavesOf t := by
  rcases List.mem_append.mp h with h | h
  · exact mem_of_mem_firstOfColumn h
  · exact List.mem_of_find?_eq_some (Option.mem_toList.mp h)

/-- A column in any place is one of the columns, by its node and its name. -/
theorem exists_field_of_mem_allFields (h : f ∈ (load t).table.allFields) :
    ∃ g ∈ (load t).table.fields, f.node = g.node ∧ f.name = g.name := by
  simp only [allFields, List.mem_append, List.mem_flatMap] at h
  -- Indexes have columns with another comparison, and the other places the columns themselves.
  rcases h with ((h | h) | ⟨ix, hix, h⟩) | ⟨k, hk, h⟩
  · exact ⟨f, h, rfl, rfl⟩
  · rw [primary_load] at h
    exact ⟨f, List.mem_of_mem_filter h, rfl, rfl⟩
  · obtain ⟨g, hg, hfg⟩ := exists_field_of_mem_index hix h
    refine ⟨g, hg, ?_⟩
    rw [hfg]
    exact ⟨rfl, rfl⟩
  · exact ⟨f, mem_fields_of_mem_foreignKey hk h, rfl, rfl⟩

/-- A column in any place is that of a first leaf. -/
theorem exists_leaf_of_mem_allFields (h : f ∈ (load t).table.allFields) :
    ∃ l ∈ firstOfColumn (leavesOf t), f.node = l.id := by
  obtain ⟨g, hg, hnode, -⟩ := exists_field_of_mem_allFields h
  rw [fields_load] at hg
  obtain ⟨l, hl, rfl⟩ := List.mem_map.mp hg
  exact ⟨l, hl, hnode⟩

/-- Nothing comes from certain leaves exactly if they contribute nothing. -/
theorem leavesOut_iff (t : Tree) (out : NodeId → Prop) :
    LeavesOut t out ↔ ∀ l ∈ contributors t, ¬out l.id := by
  constructor
  · intro h l hl
    rcases List.mem_append.mp hl with hl | hl
    · have hfield : l.field ∈ (load t).table.fields := by
        rw [fields_load]
        exact List.mem_map_of_mem hl
      have hall : l.field ∈ (load t).table.allFields := by
        simp only [allFields, List.mem_append]
        exact Or.inl (Or.inl (Or.inl hfield))
      exact h.fields l.field hall
    · exact h.name l (Option.mem_toList.mp hl)
  · intro h
    refine ⟨?_, ?_⟩
    · intro f hf
      obtain ⟨l, hl, hnode⟩ := exists_leaf_of_mem_allFields hf
      rw [hnode]
      exact h l (List.mem_append_left _ hl)
    · intro l hl
      exact h l (List.mem_append_right _ (Option.mem_toList.mpr hl))

/-- Nothing comes from leaves that have the skip tag themselves. -/
theorem leavesOut_skipped (t : Tree) : LeavesOut t t.Skipped := by
  rw [leavesOut_iff]
  -- All contributors are read, and no leaf is read that is skipped.
  rintro l hl ⟨n, hn, hskip⟩
  have hread := read_of_mem_leavesOf (mem_leavesOf_of_mem_contributors hl)
  obtain rfl : l.node = n := Option.some.inj (hread.node.symm.trans hn)
  rw [hread.notSkipped] at hskip
  cases hskip

/-- What a skip tag leaves out of the table of a record.

A leaf that has the tag itself is left out: no column, no member of the primary key, no column of an
index, no referring column of a foreign key and not the name of the table comes from it. As long as
a node keeps its segment of column names, other tags make no difference to the table and its issues
where the node is no leaf, or is a leaf that is skipped before and after. So skip tags of records
that stand in the record are not looked at.

Therefore nothing in the table comes from leaves that stand in a skipped record exactly if none of
the leaves that contribute to the table does, which are the first ones of the columns and the first
one that names the table. -/
theorem load_skipped (t : Tree) :
    LeavesOut t t.Skipped ∧
    (∀ id tags, t.KeepsSegment id tags →
      (id ∉ t.leaves ∨
        ∀ n, t.get? id = some n → n.isSkipped = true ∧ (n.withTags tags).isSkipped = true) →
      load (t.retag id tags) = load t) ∧
    (load t).table.name
      = ((namer? t).bind (·.tableName?)).getD (Identifier.table t.root.typeName) ∧
    (LeavesOut t t.Hidden ↔
      ∀ l ∈ contributors t, ∀ n ∈ t.path l.id, n.isSkipped = false) := by
  refine ⟨leavesOut_skipped t, fun id tags hkeeps hunread => load_retag hkeeps hunread,
    name_load_eq_namer t, ?_⟩
  rw [leavesOut_iff]
  refine forall₂_congr fun l _ => ?_
  simp only [Tree.Hidden, not_exists, not_and, Bool.not_eq_true]

/-- A record with a skipped record in it, whose only field asks for everything. -/
def secretive : Tree :=
  ((Tree.new "User" "User").push 0
    { name := "Secret", kind := .struct, typeName := "Secret", tags := some { skip := true } }).push 1
    { name := "Key", kind := .int64, typeName := "int64"
      tags := some {
        primary := true, index := some "by_key", foreign := some "ID@keys"
        tableName := some "secrets" } }

/-- The field is in every place of the table, and the table has its name from it. -/
theorem skipped_record_contributes :
    secretive.leaves = [2] ∧ secretive.Hidden 2 ∧
      (load secretive).table.name = "secrets" ∧
      (load secretive).table.fields.map (·.node) = [2] ∧
      (load secretive).table.primary.map (·.node) = [2] ∧
      ((load secretive).table.indexes.flatMap (·.fields)).map (·.node) = [2] ∧
      ((load secretive).table.foreignKeys.flatMap (·.fromFields)).map (·.node) = [2] := by
  have hhidden : secretive.Hidden 2 := by
    unfold Tree.Hidden
    decide +kernel
  exact ⟨by decide +kernel, hhidden, by decide +kernel, by decide +kernel, by decide +kernel,
    by decide +kernel, by decide +kernel⟩

end Table

end RecordSql
