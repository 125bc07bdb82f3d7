import RecordSql.Proofs.Conditions
import RecordSql.Proofs.ForeignTags
import RecordSql.Proofs.PrimaryKey

/-!
# `RecordSql.Proofs.Breaks`: where lines and statements end

An end of a line and a semicolon have a meaning in the output, where statements are written one
after the other. Nothing in a statement is quoted, so a name that contained one of them could be
taken for the end of a line or of a statement.

Of the names in the statements of a loaded table (`Table.Unbroken`), those of columns are in snake
case, also where they are columns of another table, and those of indexes come from a tag that is
cut at semicolons and cleaned of white space. Only the name of the table itself and that of a table
that it references can contain any text: `unbroken_load` says what is left to ask of them. The
name of a referenced table comes from a tag as well and has no semicolon.
-/

set_option autoImplicit false

namespace RecordSql

open RecordSql.Sql (Defines Dialect columnList definitionLines properties)

/-- A character that ends a line or a statement. -/
def IsBreak (c : Char) : Prop :=
  c = '\n' ∨ c = ';'

variable {c : Char}

/-- It does not stand in names of columns. -/
theorem IsBreak.not_isNameChar (hc : IsBreak c) : ¬Text.IsNameChar c := by
  rcases hc with rfl | rfl <;> decide

/-- It is no digit. -/
theorem IsBreak.isDigit_eq_false (hc : IsBreak c) : c.isDigit = false := by
  rcases hc with rfl | rfl <;> rfl

/-- It does not stand in placeholders. -/
theorem IsBreak.not_mem_placeholder (hc : IsBreak c) (d : Dialect) (position : Nat) :
    c ∉ (d.placeholder position).toList := by
  refine Sql.not_mem_placeholder hc.isDigit_eq_false ?_ ?_ d position <;>
    rcases hc with rfl | rfl <;> decide

/-! ### Parts of statements -/

namespace Sql

/-- No column type has a break. -/
theorem not_mem_columnType (hc : IsBreak c) (d : Dialect) (f : Field) :
    c ∉ (d.columnType f).toList := by
  rcases columnType_mem_or_eq d f with h | ⟨n, h⟩
  · have hnames : ∀ type ∈ typeNames, '\n' ∉ type.toList ∧ ';' ∉ type.toList := by decide
    rcases hc with rfl | rfl
    · exact (hnames _ h).1
    · exact (hnames _ h).2
  · have hdigits : c ∉ Nat.toDigits 10 n := Text.not_mem_toDigits hc.isDigit_eq_false n
    rw [h]
    rcases hc with rfl | rfl <;> simp [hdigits]

/-- What stands after the name of a column has none. -/
theorem not_mem_properties (hc : IsBreak c) (d : Dialect) (f : Field) :
    c ∉ (properties d f).toList := by
  have htype := not_mem_columnType hc d f
  rw [properties_eq, String.toList_append, List.mem_append, not_or]
  refine ⟨htype, ?_⟩
  unfold keywords
  rcases hc with rfl | rfl <;> cases f.primary <;> cases f.auto <;> cases d <;> decide

/-- The lines of columns have none if the names of the columns have none. -/
theorem not_mem_definitionLines (hc : IsBreak c) (d : Dialect) {fs : List Field}
    (h : ∀ f ∈ fs, c ∉ f.name.toList) : ∀ line ∈ definitionLines d fs, c ∉ line.toList := by
  have hline : ∀ {line f}, f ∈ fs → Defines line f.name (properties d f) → c ∉ line.toList := by
    rintro line f hf ⟨first, hfirst, width, heq⟩
    have hspace : c ≠ ' ' := by rcases hc with rfl | rfl <;> decide
    have hne : c ≠ first := by
      rw [List.mem_pair] at hfirst
      rcases hfirst with rfl | rfl
      · exact hspace
      · rcases hc with rfl | rfl <;> decide
    rw [heq]
    simp [hne, hspace, h f hf, not_mem_properties hc d f]
  intro line hmem
  obtain ⟨i, hi, rfl⟩ := List.getElem_of_mem hmem
  have hlines := definitionLines_define d fs
  have hi' : i < fs.length := hlines.length_eq ▸ hi
  exact hline (List.getElem_mem hi') (hlines.get hi hi')

end Sql

/-! ### Names -/

namespace Tag

/-- Names in index tags have no break. -/
theorem not_mem_name_of_mem_entries (hbreak : IsBreak c) {tag : String} {e : IndexEntry}
    (he : e ∈ (readIndexTag tag).entries) : c ∉ e.name.toList := by
  have hname := (IndexEntry.printable_of_mem_entries he).name
  rcases hbreak with rfl | rfl
  · intro hc
    cases (Text.removeBlanks_eq_self_iff _).mp hname.clean_eq _ hc
  · exact hname.not_mem_semicolon

/-- The tables in foreign tags have no semicolon. -/
theorem not_mem_targetTable_of_mem_entries {tag : String} {e : ForeignEntry}
    (he : e ∈ (readForeignTag tag).entries) : ';' ∉ e.targetTable.toList :=
  (isPart_of_mem_entries he (List.mem_cons_of_mem _ List.mem_cons_self)).1.not_mem_semicolon

end Tag

/-! ### Loaded tables -/

/-- The character is in none of the names that the statements of the table contain. -/
structure Table.Unbroken (c : Char) (t : Table) : Prop where
  name : c ∉ t.name.toList
  fields : ∀ f ∈ t.fields, c ∉ f.name.toList
  indexNames : ∀ ix ∈ t.indexes, c ∉ ix.name.toList
  indexFields : ∀ ix ∈ t.indexes, ∀ f ∈ ix.fields, c ∉ f.name.toList
  fromColumns : ∀ k ∈ t.foreignKeys, ∀ column ∈ k.fromColumns, c ∉ column.toList
  toTables : ∀ k ∈ t.foreignKeys, c ∉ k.toTable.toList
  toColumns : ∀ k ∈ t.foreignKeys, ∀ column ∈ k.toColumns, c ∉ column.toList

namespace Table

open RecordSql.Record (Tree)

/-- Nor is it in the list of the columns of an index. -/
theorem Unbroken.not_mem_indexColumns {t : Table} (ht : t.Unbroken c) (hc : c ≠ ',') {ix : Index}
    (hix : ix ∈ t.indexes) : c ∉ (columnList ix.fields).toList :=
  Sql.not_mem_columnList hc (ht.indexFields ix hix)

/-- Nor is it in the lists of columns of a foreign key. -/
theorem Unbroken.not_mem_keyColumns {t : Table} (ht : t.Unbroken c) (hc : c ≠ ',')
    {k : ForeignKey} (hk : k ∈ t.foreignKeys) :
    c ∉ (",".intercalate k.fromColumns).toList ∧ c ∉ (",".intercalate k.toColumns).toList := by
  have hsep : c ∉ ",".toList := by simpa using hc
  exact ⟨Text.not_mem_intercalate hsep (ht.fromColumns k hk),
    Text.not_mem_intercalate hsep (ht.toColumns k hk)⟩

/-- The name of a column has no break. -/
theorem not_mem_columnName (hc : IsBreak c) {t : Tree} {f : Field}
    (hf : f ∈ (load t).table.fields) : c ∉ f.name.toList :=
  fun h => hc.not_isNameChar (isNameChar_of_mem_fields hf h)

/-- The name of an index has no break. -/
theorem not_mem_name_of_mem_indexes (hc : IsBreak c) {t : Tree} {ix : Index}
    (hix : ix ∈ (load t).table.indexes) : c ∉ ix.name.toList := by
  obtain ⟨i, hi⟩ := List.exists_mem_of_ne_nil _ (eq_indexOf_of_mem hix).2
  obtain ⟨hstream, hname⟩ := List.mem_filter.mp hi
  obtain ⟨l, -, hil⟩ := List.mem_flatMap.mp hstream
  obtain ⟨tag, e, he, hie, -⟩ := exists_entry_of_mem_indexItems hil
  rw [← of_decide_eq_true hname, hie]
  exact Tag.not_mem_name_of_mem_entries hc he

/-- The table that a foreign key references has no semicolon in its name. -/
theorem not_mem_toTable_of_mem_foreignKeys {t : Tree} {k : ForeignKey}
    (hk : k ∈ (load t).table.foreignKeys) : ';' ∉ k.toTable.toList := by
  obtain ⟨heq, hitems⟩ := eq_foreignKeyOf_of_mem hk
  obtain ⟨i, items, hcons⟩ := List.exists_cons_of_ne_nil hitems
  have hi : i ∈ foreignStream t :=
    List.mem_of_mem_filter (hcons ▸ List.mem_cons_self)
  obtain ⟨l, -, hil⟩ := List.mem_flatMap.mp hi
  obtain ⟨e, he, rfl⟩ := List.mem_map.mp hil
  have htable : k.toTable = e.targetTable := by
    rw [heq, hcons]
    rfl
  rw [htable]
  unfold Leaf.foreignTag at he
  cases htag : l.tags.foreign with
  | none =>
    rw [htag] at he
    cases he
  | some tag =>
    rw [htag] at he
    exact Tag.not_mem_targetTable_of_mem_entries he

/-- The columns that a foreign key refers to have no break. -/
theorem not_mem_toColumns_of_mem_foreignKeys (hc : IsBreak c) {t : Tree} {k : ForeignKey}
    (hk : k ∈ (load t).table.foreignKeys) : ∀ column ∈ k.toColumns, c ∉ column.toList := by
  intro column hcolumn hmem
  obtain ⟨source, rfl⟩ := exists_source_of_mem_toColumns hk hcolumn
  exact hc.not_isNameChar (Identifier.isNameChar_of_mem_targetColumn hmem)

/-- The columns that refer to others have none either. -/
theorem not_mem_fromColumns_of_mem_foreignKeys (hc : IsBreak c) {t : Tree} {k : ForeignKey}
    (hk : k ∈ (load t).table.foreignKeys) : ∀ column ∈ k.fromColumns, c ∉ column.toList := by
  rw [fromColumns_eq_map hk]
  refine List.forall_mem_map.mpr fun f hf => ?_
  exact not_mem_columnName hc (mem_fields_of_mem_foreignKey hk hf)

/-- No name in the statements of a loaded table has the break if the name of the table has it not,
and the names of the tables that it references have no end of a line. -/
theorem unbroken_load (hc : IsBreak c) {t : Tree} (hname : c ∉ (load t).table.name.toList)
    (htargets : c = '\n' → ∀ k ∈ (load t).table.foreignKeys, c ∉ k.toTable.toList) :
    (load t).table.Unbroken c where
  name := hname
  fields _ hf := not_mem_columnName hc hf
  indexNames _ hix := not_mem_name_of_mem_indexes hc hix
  indexFields _ hix _ hf := by
    obtain ⟨g, hg, hname⟩ := exists_name_of_mem_index hix hf
    rw [hname]
    exact not_mem_columnName hc hg
  fromColumns _ hk := not_mem_fromColumns_of_mem_foreignKeys hc hk
  toTables k hk := by
    rcases hc with rfl | rfl
    · exact htargets rfl k hk
    · exact not_mem_toTable_of_mem_foreignKeys hk
  toColumns _ hk := not_mem_toColumns_of_mem_foreignKeys hc hk

end Table

end RecordSql
