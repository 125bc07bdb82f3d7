import Mathlib.Data.List.Nodup
import RecordSql.Proofs.Indexes
import RecordSql.Sql.Render

/-!
# `RecordSql.Proofs.IndexColumns`: how often an index lists a column

The entries of the index and unique tags of a column are put into their indexes without a look at
what is there already. So a column is in an index as often as its two tags name that index
(`count_columnNames`), and an index can list a column twice:

```text
index: "by_mail"  unique: "by_mail"      by_mail lists the column twice
index: "by_mail;by_mail@LIKE"            so it does
```

Columns do not get in each other's way here, as all of them have different names
(`filter_flatMap_of_nodup`). Hence `load_indexColumns`: no index repeats a column exactly if no
column names an index twice. What an index lists is what its statements say: the column list of its
`CREATE INDEX` and the comparisons of its queries are these columns one by one.
-/

set_option autoImplicit false

namespace RecordSql

/-- A comparison is about the column that it names. -/
theorem Sql.name_isInfix_predicate (d : Dialect) (f : Field) (position : Nat) :
    f.name.toList <:+: (predicate d f position).toList := by
  have hinfix : ∀ front back : String, f.name.toList <:+: (front ++ f.name ++ back).toList := by
    intro front back
    rw [String.toList_append, String.toList_append]
    exact List.infix_append _ _ _
  unfold predicate
  cases f.operator with
  | equal => simpa [String.append_assoc] using hinfix "" ("=" ++ d.placeholder position)
  | like => simpa [String.append_assoc] using hinfix "" (" LIKE " ++ d.placeholder position)
  | call function =>
    dsimp only
    split
    · exact hinfix (function ++ "(" ++ d.placeholder position ++ ",") ")"
    · simpa [String.append_assoc] using
        hinfix (function ++ "(") ("," ++ d.placeholder position ++ ")")

/-- A condition compares its columns one by one. -/
theorem Sql.forall₂_predicates (d : Dialect) (fs : List Field) (offset : Nat) :
    List.Forall₂ (fun name text => name.toList <:+: text.toList) (fs.map (·.name))
      (predicates d fs offset) := by
  have hnames : fs.map (·.name) = fs.zipIdx.map (·.1.name) := by
    conv_lhs => rw [← List.zipIdx_map_fst 0 fs, List.map_map]
    rfl
  rw [hnames, predicates, List.forall₂_map_left_iff, List.forall₂_map_right_iff,
    List.forall₂_same]
  rintro ⟨f, i⟩ -
  exact name_isInfix_predicate d f (offset + i)

namespace Table

open RecordSql.Record (Tree)

/-! ### One column among many -/

/-- Of things that come from several sources and show from which of them, those that show one source
are all that come from it. -/
theorem filter_flatMap_of_nodup {α β γ : Type} [DecidableEq γ] {key : α → γ} {view : β → γ}
    {f : α → List β} {as : List α} (hnodup : (as.map key).Nodup)
    (hview : ∀ a ∈ as, ∀ b ∈ f a, view b = key a) {a : α} (ha : a ∈ as) :
    (as.flatMap f).filter (view · = key a) = f a := by
  induction as with
  | nil => cases ha
  | cons first as ih =>
    obtain ⟨hfirst, hrest⟩ := List.nodup_cons.mp hnodup
    obtain ⟨hviewFirst, hviewRest⟩ := List.forall_mem_cons.mp hview
    rw [List.flatMap_cons, List.filter_append]
    -- What comes from the others shows another source, either behind or before.
    rcases List.mem_cons.mp ha with rfl | ha
    · have hall : (f a).filter (view · = key a) = f a :=
        List.filter_eq_self.mpr fun b hb => decide_eq_true (hviewFirst b hb)
      have hnone : (as.flatMap f).filter (view · = key a) = [] := by
        rw [List.filter_eq_nil_iff]
        intro b hb heq
        obtain ⟨a', ha', hb'⟩ := List.mem_flatMap.mp hb
        rw [hviewRest a' ha' b hb', decide_eq_true_eq] at heq
        exact hfirst (List.mem_map.mpr ⟨a', ha', heq⟩)
      rw [hall, hnone, List.append_nil]
    · have hnone : (f first).filter (view · = key a) = [] := by
        rw [List.filter_eq_nil_iff]
        intro b hb heq
        rw [hviewFirst b hb, decide_eq_true_eq] at heq
        exact hfirst (List.mem_map.mpr ⟨a, ha, heq.symm⟩)
      rw [hnone, List.nil_append, ih hrest hviewRest ha]

/-- The names of the indexes that the two tags of a leaf ask for. -/
def Leaf.indexNames (l : Leaf) : List String :=
  (l.indexTag.entries ++ l.uniqueTag.entries).map (·.name)

/-- They are the names of its items. -/
theorem map_name_indexItems (l : Leaf) : l.indexItems.map (·.name) = l.indexNames := by
  rw [Leaf.indexItems, Leaf.indexNames, List.map_append, List.map_append, List.map_map, List.map_map]
  rfl

variable {t : Tree} {l : Leaf} {ix : Index}

/-- The items of a column are those of its leaf. -/
theorem filter_indexStream (hl : l ∈ firstOfColumn (leavesOf t)) :
    (indexStream t).filter (·.field.name = l.column) = l.indexItems := by
  refine filter_flatMap_of_nodup (nodup_column_firstOfColumn (leavesOf t)) ?_ hl
  intro m _ i hi
  rw [field_of_mem_indexItems hi]
  rfl

/-- An index lists the columns of the items of its name. -/
theorem columnNames_eq (h : ix ∈ (load t).table.indexes) :
    ix.columnNames = ((indexStream t).filter (·.name = ix.name)).map (·.field.name) := by
  have hfields := congrArg Index.columnNames (eq_indexOf_of_mem h).1
  rw [hfields, Index.columnNames, fields_indexOf, List.map_map]
  rfl

/-- A column is in an index as often as the tags of its leaf name the index. -/
theorem count_columnNames (hix : ix ∈ (load t).table.indexes)
    (hl : l ∈ firstOfColumn (leavesOf t)) :
    ix.columnNames.count l.column = l.indexNames.count ix.name := by
  -- The items of the index about the column are the items of the column in the index.
  calc ix.columnNames.count l.column
      = (indexStream t).countP
          (fun i => decide (i.field.name = l.column) && decide (i.name = ix.name)) := by
        rw [columnNames_eq hix, List.count, List.countP_map, List.countP_filter]
        rfl
    _ = ((indexStream t).filter (·.field.name = l.column)).countP (·.name = ix.name) := by
        rw [List.countP_filter]
        exact List.countP_congr fun i _ => by simp [and_comm]
    _ = l.indexNames.count ix.name := by
        rw [filter_indexStream hl, ← map_name_indexItems, List.count, List.countP_map]
        rfl

/-- The columns of an index are columns of first leaves. -/
theorem exists_leaf_of_mem_columnNames (hix : ix ∈ (load t).table.indexes) {c : String}
    (hc : c ∈ ix.columnNames) : ∃ l ∈ firstOfColumn (leavesOf t), l.column = c := by
  obtain ⟨f, hf, rfl⟩ := List.mem_map.mp hc
  obtain ⟨g, hg, hfg⟩ := exists_field_of_mem_index hix hf
  rw [fields_load] at hg
  obtain ⟨l, hl, rfl⟩ := List.mem_map.mp hg
  refine ⟨l, hl, ?_⟩
  rw [hfg]
  rfl

/-- Every index that a leaf names is there. -/
theorem exists_index_of_mem_indexNames (hl : l ∈ firstOfColumn (leavesOf t)) {name : String}
    (hname : name ∈ l.indexNames) : ∃ ix ∈ (load t).table.indexes, ix.name = name := by
  rw [← map_name_indexItems] at hname
  obtain ⟨i, hi, rfl⟩ := List.mem_map.mp hname
  have hmem : i.name ∈ (load t).table.indexes.map (·.name) := by
    rw [indexes_load, map_nameOf_groupedBy name_indexOf, List.mem_eraseDups]
    exact List.mem_map_of_mem (List.mem_flatMap.mpr ⟨l, hl, hi⟩)
  exact List.mem_map.mp hmem

/-- No index repeats a column exactly if no leaf names an index twice. -/
theorem nodup_columnNames_iff (t : Tree) :
    (∀ ix ∈ (load t).table.indexes, ix.columnNames.Nodup) ↔
      ∀ l ∈ firstOfColumn (leavesOf t), l.indexNames.Nodup := by
  constructor
  · intro h l hl
    rw [List.nodup_iff_count_le_one]
    intro name
    -- A name that the leaf has is that of an index, and then the count is one of columns.
    by_cases hname : name ∈ l.indexNames
    · obtain ⟨ix, hix, rfl⟩ := exists_index_of_mem_indexNames hl hname
      rw [← count_columnNames hix hl]
      exact List.nodup_iff_count_le_one.mp (h ix hix) l.column
    · rw [List.count_eq_zero_of_not_mem hname]
      exact Nat.zero_le 1
  · intro h ix hix
    rw [List.nodup_iff_count_le_one]
    intro c
    by_cases hc : c ∈ ix.columnNames
    · obtain ⟨l, hl, rfl⟩ := exists_leaf_of_mem_columnNames hix hc
      rw [count_columnNames hix hl]
      exact List.nodup_iff_count_le_one.mp (h l hl) ix.name
    · rw [List.count_eq_zero_of_not_mem hc]
      exact Nat.zero_le 1

/-- How often the indexes of the table of a record list their columns.

All columns of an index are those of first leaves. The column of such a leaf is in an index as often
as accepted entries of its index tag and of its unique tag name the index, in both tags together. So
no index lists a column twice exactly if in the two tags of each of these leaves no name of an index
comes twice.

The statements of an index say what it lists: `CREATE INDEX` has these columns in its list, and a
condition by the index has one comparison for each of them, in every dialect and from any position
on. So a column that is listed twice is twice in the list and is bound twice. -/
theorem load_indexColumns (t : Tree) :
    let ls := firstOfColumn (leavesOf t)
    let table := (load t).table
    let names := fun (l : Leaf) => (l.indexTag.entries ++ l.uniqueTag.entries).map (·.name)
    (∀ ix ∈ table.indexes, ∀ c ∈ ix.columnNames, ∃ l ∈ ls, l.column = c) ∧
    (∀ ix ∈ table.indexes, ∀ l ∈ ls, ix.columnNames.count l.column = (names l).count ix.name) ∧
    ((∀ ix ∈ table.indexes, ix.columnNames.Nodup) ↔ ∀ l ∈ ls, (names l).Nodup) ∧
    ∀ d : Sql.Dialect, ∀ ix ∈ table.indexes,
      (∃ front, Sql.createIndex d table ix
        = front ++ " (" ++ ",".intercalate ix.columnNames ++ ")" ++ d.indexEnd) ∧
      ∀ offset, List.Forall₂ (fun name text => name.toList <:+: text.toList) ix.columnNames
        (Sql.predicates d ix.fields offset) := by
  refine ⟨fun ix hix c hc => exists_leaf_of_mem_columnNames hix hc,
    fun ix hix l hl => count_columnNames hix hl, nodup_columnNames_iff t, ?_⟩
  intro d ix _
  exact ⟨⟨_, rfl⟩, Sql.forall₂_predicates d ix.fields⟩

/-- A record whose field asks for an index in its index tag and, to make it unique, in its unique
tag. -/
def mailbox : Tree :=
  (Tree.new "Mailbox" "Mailbox").push 0
    { name := "Mail", kind := .string, typeName := "string"
      tags := some { index := some "by_mail", unique := some "by_mail" } }

/-- The index lists the column twice, and so do its statements. -/
theorem shared_index_repeats_column :
    ∃ ix ∈ (load mailbox).table.indexes, ix.name = "by_mail" ∧ ix.unique = true ∧
      ix.columnNames = ["f_mail", "f_mail"] ∧
      Sql.createIndex .mysql (load mailbox).table ix
        = "CREATE UNIQUE INDEX by_mail ON mailboxes (f_mail,f_mail);" ∧
      Sql.clause .mysql ix.fields 0 = "WHERE f_mail=? AND f_mail=?" := by
  decide +kernel

end Table

end RecordSql
