import RecordSql.Proofs.References
import RecordSql.Proofs.SnakeCase

/-!
# `RecordSql.Proofs.TargetColumns`: the column that a reference means

A foreign tag names a field of another record, and the reference gets the name of a column from this
text alone. The other record gets the name of its column from the path of the field. The two ways
are not the same: one puts the whole path in snake case, with the column root before it, and the
other puts the column root before the text in snake case.

```text
Customer                 column f_address_zip_code
└─ Address
   └─ ZipCode            Address.ZipCode@customers   refers to f_address_zip_code
                         address / zip_code@customers    to the same column
                         ???@customers                   to f_, which no field has
```

They meet because words do not go over a separator, whatever it is (`toList_column`,
`toList_targetColumn`), and with one exception (`targetColumn_intercalate_eq_column_iff`): a path
without a letter and a number has no words, and then the underscore after the column root is there
on one side only. `load_targetColumns` says what this means for records.
-/

set_option autoImplicit false

namespace RecordSql

namespace Identifier

open RecordSql.Text (AllSeparators snakeWords words words_eq_nil_iff words_intercalate)

/-- White space around the source makes no difference. -/
theorem targetColumn_trimmed (source : String) :
    targetColumn (Text.trimmed source) = targetColumn source := by
  unfold targetColumn Text.trimmed
  rw [String.toList_ofList, Text.trim_trim]

/-- There are words in some segment exactly if there is a letter or number. -/
theorem flatMap_snakeWords_ne_nil_iff (segments : List String) :
    segments.flatMap (fun s => snakeWords s.toList) ≠ [] ↔
      ∃ s ∈ segments, ∃ c ∈ s.toList, Letter.isAlphanumeric c = true := by
  simp only [ne_eq, List.flatMap_eq_nil_iff, snakeWords, List.map_eq_nil_iff, words_eq_nil_iff,
    AllSeparators, not_forall, exists_prop, Bool.not_eq_false]

/-- The column of a referenced field, by its path with any separators, is the column of the path,
whatever the record is called, exactly if there is a letter or number in the path. -/
theorem targetColumn_intercalate_eq_column_iff {sep : String} (hne : sep ≠ "")
    (hsep : ∀ c ∈ sep.toList, Letter.isAlphanumeric c = false) (root : String)
    (segments : List String) :
    targetColumn (sep.intercalate segments) = column (root :: segments) ↔
      ∃ s ∈ segments, ∃ c ∈ s.toList, Letter.isAlphanumeric c = true := by
  have hwords : snakeWords (sep.intercalate segments).toList
      = segments.flatMap fun s => snakeWords s.toList := by
    have hne' : sep.toList ≠ [] := by simpa using hne
    rw [String.toList_intercalate, snakeWords, words_intercalate hne' hsep, List.flatMap_map,
      List.map_flatMap]
    rfl
  rw [← flatMap_snakeWords_ne_nil_iff, ← String.toList_inj, toList_targetColumn, toList_column,
    hwords]
  cases segments.flatMap fun s => snakeWords s.toList with
  | nil =>
    -- One side is `f_` and the other one `f`.
    simp
  | cons w ws =>
    rw [List.intercalate_cons_cons]
    simp

end Identifier

namespace Record.Tree

/-- The path to a node that is there has this node at least. -/
theorem path_ne_nil {t : Tree} {id : NodeId} {n : Node} (h : t.get? id = some n) :
    t.path id ≠ [] := by
  unfold path ancestors
  rw [h]
  dsimp only
  split <;> simp

end Record.Tree

namespace Table

open RecordSql.Record (Tree)

/-- The column of a leaf is named by the path to the leaf, which is not empty. -/
theorem Leaf.Read.exists_path {t : Tree} {l : Leaf} (h : l.Read t) :
    ∃ root segments, (t.path l.id).map (·.segment) = root :: segments ∧
      l.column = Identifier.column (root :: segments) := by
  obtain ⟨root, segments, hpath⟩ := List.exists_cons_of_ne_nil
    (mt List.map_eq_nil_iff.mp (Tree.path_ne_nil h.node) : (t.path l.id).map (·.segment) ≠ [])
  exact ⟨root, segments, hpath, hpath ▸ h.column⟩

/-- The column of every leaf is a column of the table, from this leaf or an earlier one. -/
theorem exists_field_of_mem_leavesOf {t : Tree} {l : Leaf} (h : l ∈ leavesOf t) :
    ∃ f ∈ (load t).table.fields, f.name = l.column := by
  have hcolumn : l.column ∈ (firstOfColumn (leavesOf t)).map (·.column) := by
    rw [map_column_firstOfColumn, List.mem_eraseDups]
    exact List.mem_map_of_mem h
  -- It need not be the leaf itself: an earlier one can have the column.
  obtain ⟨m, hm, heq⟩ := List.mem_map.mp hcolumn
  refine ⟨m.field, ?_, heq⟩
  rw [fields_load]
  exact List.mem_map_of_mem hm

/-- Every reference of a column is a pair of a foreign key. -/
theorem exists_pair_of_mem_entries {t : Tree} {l : Leaf} (hl : l ∈ firstOfColumn (leavesOf t))
    {e : Tag.ForeignEntry} (he : e ∈ l.foreignTag.entries) :
    ∃ k ∈ (load t).table.foreignKeys, (l.column, e.targetColumn) ∈ k.pairs := by
  have hitem : l.foreignItem (load t).table.name e ∈ foreignStream t :=
    List.mem_flatMap.mpr ⟨l, hl, List.mem_map_of_mem he⟩
  obtain ⟨k, hk, hname⟩ := exists_foreignKey_of_mem_stream hitem
  refine ⟨k, hk, ?_⟩
  rw [(eq_foreignKeyOf_of_mem hk).1, pairs_foreignKeyOf]
  exact List.mem_map.mpr ⟨_, List.mem_filter.mpr ⟨hitem, decide_eq_true hname.symm⟩, rfl⟩

/-- What references and columns have to do with each other, when fields are named by their path with
one and the same separator between its segments, which is any text without letters and numbers.

The column that the path of a field means in a reference is the column of the path, whatever the
record is called, exactly if there is a letter or a number in the path.

So each field of a record that is not skipped has a column in its table which is named by the path
of the field, from the record on. A reference in another record that names the field by the path
behind the record refers to this column, exactly if there is a letter or a number in the path. The
reference is a pair of a foreign key there. -/
theorem load_targetColumns {sep : String} (hne : sep ≠ "")
    (hsep : ∀ c ∈ sep.toList, Letter.isAlphanumeric c = false) :
    (∀ root segments,
      Identifier.targetColumn (sep.intercalate segments) = Identifier.column (root :: segments) ↔
        ∃ s ∈ segments, ∃ c ∈ s.toList, Letter.isAlphanumeric c = true) ∧
    ∀ target : Tree, ∀ m ∈ leavesOf target,
      ∃ root segments, (target.path m.id).map (·.segment) = root :: segments ∧
        ∃ f ∈ (load target).table.fields, f.name = Identifier.column (root :: segments) ∧
          ∀ source : Tree, ∀ l ∈ firstOfColumn (leavesOf source), ∀ e ∈ l.foreignTag.entries,
            e.sourceColumn = Text.trimmed (sep.intercalate segments) →
            (e.targetColumn = f.name ↔
              ∃ s ∈ segments, ∃ c ∈ s.toList, Letter.isAlphanumeric c = true) ∧
            ∃ k ∈ (load source).table.foreignKeys, (l.column, e.targetColumn) ∈ k.pairs := by
  have hmeets := Identifier.targetColumn_intercalate_eq_column_iff hne hsep
  refine ⟨hmeets, ?_⟩
  intro target m hm
  obtain ⟨root, segments, hpath, hcolumn⟩ := (read_of_mem_leavesOf hm).exists_path
  obtain ⟨f, hf, hname⟩ := exists_field_of_mem_leavesOf hm
  rw [hcolumn] at hname
  refine ⟨root, segments, hpath, f, hf, hname, ?_⟩
  intro source l hl e he hsource
  refine ⟨?_, exists_pair_of_mem_entries hl he⟩
  rw [Tag.ForeignEntry.targetColumn, hsource, Identifier.targetColumn_trimmed, hname]
  exact hmeets root segments

/-- A customer with an address. -/
def customer : Tree :=
  ((Tree.new "Customer" "Customer").push 0
    { name := "Address", kind := .struct, typeName := "Address" }).push 1
    { name := "ZipCode", kind := .string, typeName := "string" }

/-- A parcel that refers to the code in the address, with spaces around the separator. -/
def parcel : Tree :=
  (Tree.new "Parcel" "Parcel").push 0
    { name := "Zip", kind := .string, typeName := "string"
      tags := some { foreign := some "Address / ZipCode @ customers" } }

/-- The parcel refers to the column of the code, which the customer names by its path. -/
theorem load_targetColumns_parcel :
    Identifier.targetColumn "Address / ZipCode"
        = Identifier.column ["Customer", "Address", "ZipCode"] ∧
      ∃ f ∈ (load customer).table.fields,
        f.name = Identifier.column ["Customer", "Address", "ZipCode"] ∧
        ∃ k ∈ (load parcel).table.foreignKeys, ("f_zip", f.name) ∈ k.pairs := by
  have hsep : ∀ c ∈ " / ".toList, Letter.isAlphanumeric c = false := by
    intro c hc
    have hmem : c = ' ' ∨ c = '/' ∨ c = ' ' := by simpa using hc
    rcases hmem with rfl | rfl | rfl <;> rfl
  obtain ⟨hmeets, hload⟩ := load_targetColumns (by decide) hsep
  have hletter : ∃ s ∈ ["Address", "ZipCode"], ∃ c ∈ s.toList, Letter.isAlphanumeric c = true :=
    ⟨"Address", by simp, 'A', by decide, by decide +kernel⟩
  have hjoined : "Address / ZipCode" = " / ".intercalate ["Address", "ZipCode"] := by decide +kernel
  refine ⟨hjoined ▸ (hmeets "Customer" ["Address", "ZipCode"]).mpr hletter, ?_⟩
  obtain ⟨m, hm, hpath⟩ : ∃ m ∈ leavesOf customer,
      (customer.path m.id).map (·.segment) = ["Customer", "Address", "ZipCode"] := by
    decide +kernel
  obtain ⟨l, hl, e, he, hcolumn, hsource⟩ : ∃ l ∈ firstOfColumn (leavesOf parcel),
      ∃ e ∈ l.foreignTag.entries, l.column = "f_zip" ∧ e.sourceColumn = "Address / ZipCode" := by
    decide +kernel
  obtain ⟨root, segments, hsegments, f, hf, hname, hrefers⟩ := hload customer m hm
  rw [hpath] at hsegments
  cases hsegments
  obtain ⟨hiff, k, hk, hpair⟩ := hrefers parcel l hl e he (hsource.trans (by decide +kernel))
  rw [hcolumn, hiff.mpr hletter] at hpair
  exact ⟨f, hf, hname, k, hk, hpair⟩

end Table

end RecordSql
