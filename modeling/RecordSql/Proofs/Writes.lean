import RecordSql.Proofs.Accounts
import RecordSql.Proofs.Indexes
import RecordSql.Proofs.Openings

/-!
# `RecordSql.Proofs.Writes`: rows are changed and deleted by a key only

An `UPDATE` or a `DELETE` without a condition would touch every row of a table, and one whose
condition compares the columns of an ordinary index may touch many. `writes_have_key` says
that no catalog of a loaded table has either: each statement that begins in one of these
ways is the update or the delete of the table by its primary key or by a unique index, the
key has a column at least, and the condition has one comparison for each column.

Three parts meet here. What a statement begins with tells the renderer it comes from
(`Begins`). The offers decide by which keys rows are written (`writes_of_mem_primaryOffers`,
`writes_of_mem_indexOffers`). That a unique index has a column comes from loading
(`fields_ne_nil_of_mem_indexes`). A table made by hand may have a unique index that has none,
and the example below shows what its statement would be.
-/

set_option autoImplicit false

namespace RecordSql

open RecordSql.Record (Tree)
open RecordSql.Sql (Dialect)

/-- A statement that changes or deletes rows. -/
def Writes (sql : String) : Prop :=
  "UPDATE".toList <+: sql.toList ∨ "DELETE".toList <+: sql.toList

namespace Begins

variable {c : Char} {s : String}

/-- A statement that begins neither like `UPDATE` nor like `DELETE` writes nothing. -/
theorem not_writes (h : Begins c s) (hupdate : c ≠ 'U') (hdelete : c ≠ 'D') : ¬Writes s := by
  unfold Begins at h
  rintro (⟨r, hr⟩ | ⟨r, hr⟩)
  · rw [← hr, List.head?_append] at h
    cases h
    exact hupdate rfl
  · rw [← hr, List.head?_append] at h
    cases h
    exact hdelete rfl

end Begins

namespace Sql

variable (d : Dialect) (t : Table)

/-! ### Conditions -/

/-- Every comparison has the position of its value. -/
theorem predicates_eq (keys : List Field) (offset : Nat) :
    predicates d keys offset = (keys.zipIdx offset).map fun (k, i) => predicate d k i := by
  rw [predicates, List.zipIdx_eq_map_add (i := offset), List.map_map]
  rfl

/-- There is one comparison for each key. -/
theorem length_predicates (keys : List Field) (offset : Nat) :
    (predicates d keys offset).length = keys.length := by
  unfold predicates
  rw [List.length_map, List.length_zipIdx]

/-- A statement with keys is the statement without them and a condition that compares all
keys. -/
theorem filtered_clause (head : String) {keys : List Field} (h : keys ≠ []) (offset : Nat) :
    filtered head (clause d keys offset)
      = head ++ "\nWHERE " ++ " AND ".intercalate (predicates d keys offset) := by
  have hclause : clause d keys offset
      = "WHERE " ++ " AND ".intercalate (predicates d keys offset) := by
    unfold clause
    rw [if_neg (by simpa using h)]
  have hnonempty : (clause d keys offset).isEmpty = false := by
    rw [hclause]
    simp
  have hwhere : "\nWHERE " = "\n" ++ "WHERE " := rfl
  unfold filtered
  rw [hnonempty, if_neg Bool.false_ne_true, hclause, hwhere]
  simp only [String.append_assoc]

/-- Without keys there is no condition. -/
theorem filtered_clause_nil (head : String) (offset : Nat) :
    filtered head (clause d [] offset) = head := by
  simp [filtered, clause]

/-- An update by keys is the update of all rows with a condition. -/
theorem update_eq {keys : List Field} (h : keys ≠ []) :
    update d t keys = update d t []
      ++ "\nWHERE " ++ " AND ".intercalate (predicates d keys t.fields.length) := by
  unfold update
  rw [filtered_clause d _ h, filtered_clause_nil]

/-- A delete by keys is the delete of all rows with a condition. -/
theorem delete_eq {keys : List Field} (h : keys ≠ []) :
    delete d t keys = delete d t []
      ++ "\nWHERE " ++ " AND ".intercalate (predicates d keys 0) := by
  unfold delete
  rw [filtered_clause d _ h, filtered_clause_nil]

/-- A text with a condition after it is another text. -/
theorem append_where_ne (s r : String) : s ++ "\nWHERE " ++ r ≠ s := by
  intro h
  have hlength := congrArg String.length h
  rw [String.length_append, String.length_append] at hlength
  have hwhere : "\nWHERE ".length = 7 := rfl
  omega

end Sql

namespace Catalog

variable {d : Dialect} {t : Table} {entity : String} {o : Offer}

/-! ### Which offers write -/

/-- What every table calls for writes nothing by itself. -/
theorem not_writes_of_mem_baseOffers (h : o ∈ baseOffers d t entity) : ¬Writes o.sql := by
  unfold baseOffers at h
  simp only [List.mem_cons, List.not_mem_nil, or_false] at h
  rcases h with rfl | rfl | rfl | rfl | rfl
  · exact (Sql.begins_createTable d t).not_writes (by decide) (by decide)
  · exact (Sql.begins_insert d t).not_writes (by decide) (by decide)
  · exact (Sql.begins_select d t []).not_writes (by decide) (by decide)
  · exact (Sql.begins_selectRange d t []).not_writes (by decide) (by decide)
  · exact (Sql.begins_selectCount d t []).not_writes (by decide) (by decide)

/-- A primary key calls for an update and a delete by its columns, of which there is one at
least. -/
theorem writes_of_mem_primaryOffers (h : o ∈ primaryOffers d t entity) (hw : Writes o.sql) :
    t.primary ≠ [] ∧ (o.sql = Sql.update d t t.primary ∨ o.sql = Sql.delete d t t.primary) := by
  unfold primaryOffers at h
  split at h
  · cases h
  · rename_i hprimary
    refine ⟨by simpa using hprimary, ?_⟩
    simp only [List.mem_cons, List.not_mem_nil, or_false] at h
    rcases h with rfl | rfl | rfl
    · exact absurd hw ((Sql.begins_select d t t.primary).not_writes (by decide) (by decide))
    · exact Or.inl rfl
    · exact Or.inr rfl

/-- A unique index calls for an update and a delete by its columns, any other index for
neither. -/
theorem writes_of_mem_indexOffers {ix : Index} (h : o ∈ indexOffers d t entity ix)
    (hw : Writes o.sql) :
    ix.unique = true ∧ (o.sql = Sql.update d t ix.fields ∨ o.sql = Sql.delete d t ix.fields) := by
  unfold indexOffers at h
  rcases List.mem_append.mp h with h | h
  · simp only [List.mem_cons, List.not_mem_nil, or_false] at h
    -- These are called for by every index, unique or not.
    exfalso
    rcases h with rfl | rfl | rfl
    · exact (Sql.begins_createIndex d t ix).not_writes (by decide) (by decide) hw
    · exact (Sql.begins_select d t ix.fields).not_writes (by decide) (by decide) hw
    · exact (Sql.begins_selectCount d t ix.fields).not_writes (by decide) (by decide) hw
  · split at h
    · rename_i hunique
      refine ⟨hunique, ?_⟩
      simp only [List.mem_cons, List.not_mem_nil, or_false] at h
      rcases h with rfl | rfl
      · exact Or.inl rfl
      · exact Or.inr rfl
    · rw [List.mem_singleton] at h
      subst h
      exact absurd hw
        ((Sql.begins_selectRange d t ix.fields).not_writes (by decide) (by decide))

/-- A foreign key calls for nothing that writes. -/
theorem not_writes_of_mem_foreignKeyOffers {k : ForeignKey} {target own : String}
    (h : o ∈ foreignKeyOffers d t entity k target own) : ¬Writes o.sql := by
  unfold foreignKeyOffers at h
  rcases List.mem_append.mp h with h | h
  · simp only [List.mem_cons, List.not_mem_nil, or_false] at h
    rcases h with rfl | rfl
    · exact (Sql.begins_addForeignKey t k).not_writes (by decide) (by decide)
    · exact (Sql.begins_select d t k.fromFields).not_writes (by decide) (by decide)
  · split at h
    · rw [List.mem_singleton] at h
      subst h
      exact (Sql.begins_selectRange d t k.fromFields).not_writes (by decide) (by decide)
    · cases h

/-- A unique index without columns would call for the delete of all rows. -/
example : ∃ o ∈ indexOffers .sqlite { name := "users" } "user" { name := "by_id", unique := true },
    o.sql = "DELETE FROM users" := by
  decide +kernel

/-- The columns by which rows of a table may be changed or deleted: the primary key, or a
unique index. -/
def IsKey (t : Table) (keys : List Field) : Prop :=
  keys = t.primary ∨ ∃ ix ∈ t.indexes, ix.unique = true ∧ keys = ix.fields

/-- A statement of a catalog that writes is the update or the delete by a key, and the key
has a column if no index of the table is without columns. -/
theorem exists_key_of_writes {c : Catalog} (hc : build d t = .ok c)
    (hindexes : ∀ ix ∈ t.indexes, ix.fields ≠ []) {s : Statement} (hs : s ∈ c.statements)
    (hw : Writes s.sql) :
    ∃ keys, keys ≠ [] ∧ IsKey t keys ∧
      (s.sql = Sql.update d t keys ∨ s.sql = Sql.delete d t keys) := by
  obtain ⟨o, ho, hgives⟩ := exists_offer_of_mem_build hc hs
  rw [hgives.sql] at hw ⊢
  -- Only the primary key and the indexes call for statements that write.
  rcases mem_allOffers.mp ho with ho | ho | ⟨ix, hix, ho⟩ | ⟨k, -, ho⟩
  · exact absurd hw (not_writes_of_mem_baseOffers ho)
  · obtain ⟨hprimary, ho⟩ := writes_of_mem_primaryOffers ho hw
    exact ⟨t.primary, hprimary, Or.inl rfl, ho⟩
  · obtain ⟨hunique, ho⟩ := writes_of_mem_indexOffers ho hw
    exact ⟨ix.fields, hindexes ix hix, Or.inr ⟨ix, hix, hunique, rfl⟩, ho⟩
  · exact absurd hw (not_writes_of_mem_foreignKeyOffers ho)

/-- In a catalog of a loaded table, whatever the settings of loading and the dialect, every
statement that begins with `UPDATE` or `DELETE` is the update or the delete of the table by
the columns of the primary key or of a unique index. There is one column at least. The text
is the statement for all rows and a condition with one comparison for each column, so it is
never the statement for all rows itself. -/
theorem writes_have_key {tree : Tree} {t : Table} (ht : Table.IsLoaded tree t) (d : Dialect)
    {c : Catalog} (hc : build d t = .ok c) {s : Statement} (hs : s ∈ c.statements)
    (hw : Writes s.sql) :
    ∃ keys, keys ≠ [] ∧ IsKey t keys ∧
      (∀ offset, (Sql.predicates d keys offset).length = keys.length) ∧
      (s.sql = Sql.update d t keys ∧ s.sql = Sql.update d t []
          ++ "\nWHERE " ++ " AND ".intercalate (Sql.predicates d keys t.fields.length) ∨
        s.sql = Sql.delete d t keys ∧ s.sql = Sql.delete d t []
          ++ "\nWHERE " ++ " AND ".intercalate (Sql.predicates d keys 0)) ∧
      s.sql ≠ Sql.update d t [] ∧ s.sql ≠ Sql.delete d t [] := by
  have hindexes : ∀ ix ∈ t.indexes, ix.fields ≠ [] := by
    intro ix hix
    rw [ht.eq_load] at hix
    exact Table.fields_ne_nil_of_mem_indexes hix
  -- The first letter tells an update from a delete.
  have hne : ∀ keys keys', Sql.update d t keys ≠ Sql.delete d t keys' := by
    intro keys keys' h
    have hupdate := Sql.begins_update d t keys
    rw [h] at hupdate
    exact absurd (hupdate.symm.trans (Sql.begins_delete d t keys')) (by decide)
  obtain ⟨keys, hkeys, hkey, h | h⟩ := exists_key_of_writes hc hindexes hs hw
  · have hwhere := Sql.update_eq d t hkeys
    refine ⟨keys, hkeys, hkey, Sql.length_predicates d keys, Or.inl ⟨h, h.trans hwhere⟩, ?_, ?_⟩
    · rw [h, hwhere]
      exact Sql.append_where_ne _ _
    · rw [h]
      exact hne keys []
  · have hwhere := Sql.delete_eq d t hkeys
    refine ⟨keys, hkeys, hkey, Sql.length_predicates d keys, Or.inr ⟨h, h.trans hwhere⟩, ?_, ?_⟩
    · rw [h]
      exact (hne [] keys).symm
    · rw [h, hwhere]
      exact Sql.append_where_ne _ _

/-- A record that is known by its two fields together. -/
def pin : Tree :=
  let coordinate (name operator : String) : Record.Node :=
    { name, kind := .string, typeName := "string"
      tags := some { unique := some ("at" ++ operator) } }
  ((Tree.new "Pin" "Pin").push 0 (coordinate "X" "@LIKE")).push 0 (coordinate "Y" "")

/-- The delete of pins compares both fields. -/
theorem delete_pin_has_key :
    ∃ c s, build .postgres (Table.load pin).table = .ok c ∧ s ∈ c.statements ∧
      s.sql = "DELETE FROM pins\nWHERE f_x LIKE $1 AND f_y=$2" ∧ Writes s.sql ∧
      ∃ keys, keys ≠ [] ∧ IsKey (Table.load pin).table keys ∧
        s.sql ≠ Sql.delete .postgres (Table.load pin).table [] := by
  have hsql : (build .postgres (Table.load pin).table).toOption.bind
      (fun c => (c.statements[9]?).map (·.sql))
        = some "DELETE FROM pins\nWHERE f_x LIKE $1 AND f_y=$2" := by
    decide +kernel
  cases hc : build .postgres (Table.load pin).table with
  | error clash =>
    rw [hc] at hsql
    cases hsql
  | ok c =>
    rw [hc] at hsql
    obtain ⟨s, hs, hsql⟩ := Option.map_eq_some_iff.mp hsql
    have hmem : s ∈ c.statements := List.mem_of_getElem? hs
    have hw : Writes s.sql := by
      rw [hsql]
      exact Or.inr (by decide)
    obtain ⟨keys, hkeys, hkey, -, -, -, hne⟩ := writes_have_key (Or.inl rfl) .postgres hc hmem hw
    exact ⟨c, s, rfl, hmem, hsql, hw, keys, hkeys, hkey, hne⟩

end Catalog

end RecordSql
