import Mathlib.Data.List.Nodup
import RecordSql.Proofs.PrimaryKey

/-!
# `RecordSql.Proofs.GeneratedColumns`: columns whose values the database generates

An insert leaves out the columns that are marked as generated, by an `auto` tag or because they
are 64-bit integers named `ID`. The database then has to know from `CREATE TABLE` that it
generates their values. SQLite does so for an `INTEGER PRIMARY KEY AUTOINCREMENT` only,
PostgreSQL for the types `SERIAL` and `BIGSERIAL`.

The mark, the type and the primary key come from different tags, and `CREATE TABLE` does not
compare them. An `auto` tag on a field that is not the primary key, or not an integer, makes a
column that an insert leaves out and that the database does not generate
(`auto_without_primary_key`). `load_generatedColumns` says when the two statements agree:
exactly if every field with the mark is an integer and, for SQLite, part of the primary key.
-/

set_option autoImplicit false

namespace RecordSql.Sql

open RecordSql.Table (SqlType)
open RecordSql.Text (occurrences)

/-! ### The definition of one column -/

/-- The keyword by which SQLite generates the values of a column. -/
def autoIncrementWord : List Char := "AUTOINCREMENT".toList

/-- The first of these letters tells where the keyword can begin. -/
theorem autoIncrementWord_eq : autoIncrementWord = 'A' :: "UTOINCREMENT".toList := by
  decide

/-- A column type that databases can generate the values of. -/
def IsInteger (type : SqlType) : Prop :=
  type = .integer ∨ type = .long

variable (f : Field)

/-- The keyword stands in the definition of a column exactly if the column is marked. -/
theorem occurrences_autoIncrement_properties :
    occurrences autoIncrementWord (properties .sqlite f).toList = if f.auto then 1 else 0 := by
  rw [properties_eq]
  unfold keywords Dialect.columnType Dialect.sqliteType
  dsimp only
  cases f.type <;> cases f.primary <;> cases f.auto <;> decide

/-- The one definition of a marked column by which SQLite generates its values. -/
theorem properties_sqlite_eq_iff (hauto : f.auto = true) :
    properties .sqlite f = "INTEGER PRIMARY KEY AUTOINCREMENT" ↔
      IsInteger f.type ∧ f.primary = true := by
  rw [properties_eq]
  unfold keywords Dialect.columnType Dialect.sqliteType IsInteger
  simp only [hauto, if_true]
  cases f.type <;> cases f.primary <;> decide

/-- The types of a marked column by which PostgreSQL generates its values. -/
theorem columnType_postgres_mem_iff (hauto : f.auto = true) :
    Dialect.columnType .postgres f ∈ ["SERIAL", "BIGSERIAL"] ↔ IsInteger f.type := by
  unfold Dialect.columnType Dialect.postgresType IsInteger
  simp only [hauto, if_true]
  cases f.type with
  | varchar =>
    dsimp only
    split <;> simp [String.ext_iff]
  | _ => simp

end RecordSql.Sql

namespace RecordSql.Table

open RecordSql.Record (Tree Kind)
open RecordSql.Sql (Defines Dialect IsInteger autoIncrementWord createTable definitionLines insert
  keywords properties)
open RecordSql.Text (occurrences)

/-! ### The columns of a table -/

/-- The columns of a loaded table have distinct names. -/
theorem nodup_name_fields (tree : Tree) : ((load tree).table.fields.map (·.name)).Nodup := by
  rw [fields_load, List.map_map]
  exact nodup_column_firstOfColumn (leavesOf tree)

/-- An insert leaves out the marked columns: no other column has the name of one of them. -/
theorem not_mem_insertable_iff {tree : Tree} {f : Field} (hf : f ∈ (load tree).table.fields) :
    f.name ∉ (load tree).table.insertable.map (·.name) ↔ f.auto = true := by
  constructor
  · intro hout
    by_contra hauto
    have hmem : f ∈ (load tree).table.insertable :=
      List.mem_filter.mpr ⟨hf, by simpa using hauto⟩
    exact hout (List.mem_map_of_mem hmem)
  · intro hauto hin
    obtain ⟨g, hg, hname⟩ := List.mem_map.mp hin
    obtain ⟨hgf, hgauto⟩ := List.mem_filter.mp hg
    have hgf : g = f := List.inj_on_of_nodup_map (nodup_name_fields tree) hgf hf hname
    rw [hgf, hauto] at hgauto
    cases hgauto

/-- A leaf makes a marked column by its tag or by its name. -/
theorem auto_field_iff (l : Leaf) :
    l.field.auto = true ↔ l.tags.auto = true ∨ l.node.name = "ID" ∧ l.node.kind = Kind.int64 := by
  show (l.tags.auto || l.isId) = true ↔ _
  rw [Bool.or_eq_true, isId_iff]

/-- A leaf makes a column of the primary key by its tag or by its name. -/
theorem primary_field_iff (l : Leaf) :
    l.field.primary = true ↔
      l.tags.primary = true ∨ l.node.name = "ID" ∧ l.node.kind = Kind.int64 := by
  show (l.tags.primary || l.isId) = true ↔ _
  rw [Bool.or_eq_true, isId_iff]

/-- What is said of the columns that an insert leaves out is said of the first leaves that make
marked columns. -/
theorem forall_not_insertable_iff (tree : Tree) (p : Field → Prop) :
    (∀ f ∈ (load tree).table.fields,
      f.name ∉ (load tree).table.insertable.map (·.name) → p f) ↔
    ∀ l ∈ firstOfColumn (leavesOf tree), l.field.auto = true → p l.field := by
  constructor
  · intro h l hl hauto
    have hf : l.field ∈ (load tree).table.fields := fields_load tree ▸ List.mem_map_of_mem hl
    exact h l.field hf ((not_mem_insertable_iff hf).mpr hauto)
  · intro h f hf hout
    have hauto := (not_mem_insertable_iff hf).mp hout
    rw [fields_load] at hf
    obtain ⟨l, hl, rfl⟩ := List.mem_map.mp hf
    exact h l hl hauto

/-- The line of a column has the keyword of SQLite exactly if the column is marked. The name of a
column cannot have the keyword, as it has no capitals. -/
theorem occurrences_sqliteLines (tree : Tree) :
    (definitionLines .sqlite (load tree).table.fields).map
        (occurrences autoIncrementWord ·.toList)
      = (load tree).table.fields.map fun f => if f.auto then 1 else 0 := by
  have hnames : ∀ f ∈ (load tree).table.fields, 'A' ∉ f.name.toList := by
    intro f hf hmem
    have hchar : Text.IsNameChar 'A' := isNameChar_of_mem_fields hf hmem
    exact absurd hchar (by decide)
  rw [Sql.map_occurrences_definitionLines .sqlite Sql.autoIncrementWord_eq hnames (by decide)
    (by decide)]
  exact List.map_congr_left fun f _ => Sql.occurrences_autoIncrement_properties f

/-- How `CREATE TABLE` declares the columns that `INSERT` leaves out.

An insert lists all columns but the marked ones. `CREATE TABLE` has a line for each column with
its name and its definition, which is its type and the keywords after it. In SQLite the line has
the keyword `AUTOINCREMENT` exactly if the column is marked.

Of a marked column, the SQLite definition is `INTEGER PRIMARY KEY AUTOINCREMENT` exactly if the
column is an integer and part of the primary key, and the PostgreSQL type is `SERIAL` or
`BIGSERIAL` exactly if the column is an integer. So the two statements agree on all columns that
the insert leaves out exactly for those records in which every marked field is an integer and,
for SQLite, part of the primary key. As the keyword stands in the lines of these columns only,
those are also the records in which no other definition of SQLite has it. -/
theorem load_generatedColumns (tree : Tree) :
    let t := (load tree).table
    let inserted := t.insertable.map (·.name)
    let marked := (firstOfColumn (leavesOf tree)).filter fun l =>
      l.tags.auto ∨ l.node.name = "ID" ∧ l.node.kind = Kind.int64
    (∀ d, (∃ values, insert d t = "INSERT INTO " ++ t.name ++ " (" ++ ",".intercalate inserted
        ++ "\n) VALUES (" ++ values ++ ")") ∧
      List.Forall₂ (fun line f => Defines line f.name (properties d f) ∧
        properties d f = d.columnType f ++ keywords d f) (definitionLines d t.fields) t.fields) ∧
    (∀ f ∈ t.fields, f.name ∉ inserted ↔ f.auto = true) ∧
    (definitionLines .sqlite t.fields).map (fun line => occurrences autoIncrementWord line.toList)
      = t.fields.map (fun f => if f.auto then 1 else 0) ∧
    (∀ f ∈ t.fields, f.name ∉ inserted →
      (properties .sqlite f = "INTEGER PRIMARY KEY AUTOINCREMENT" ↔
        IsInteger f.type ∧ f.primary = true) ∧
      (Dialect.columnType .postgres f ∈ ["SERIAL", "BIGSERIAL"] ↔ IsInteger f.type)) ∧
    ((∀ f ∈ t.fields, f.name ∉ inserted →
        properties .sqlite f = "INTEGER PRIMARY KEY AUTOINCREMENT") ↔
      ∀ l ∈ marked, IsInteger l.sqlType ∧
        (l.tags.primary = true ∨ l.node.name = "ID" ∧ l.node.kind = Kind.int64)) ∧
    ((∀ f ∈ t.fields, f.name ∉ inserted →
        Dialect.columnType .postgres f ∈ ["SERIAL", "BIGSERIAL"]) ↔
      ∀ l ∈ marked, IsInteger l.sqlType) := by
  intro t inserted marked
  have hmarked : ∀ l, l ∈ marked ↔ l ∈ firstOfColumn (leavesOf tree) ∧ l.field.auto = true := by
    intro l
    rw [List.mem_filter, decide_eq_true_iff, auto_field_iff]
  refine ⟨fun d => ⟨⟨_, rfl⟩, ?_⟩, fun f hf => not_mem_insertable_iff hf,
    occurrences_sqliteLines tree, ?_, ?_, ?_⟩
  · exact (Sql.definitionLines_define d t.fields).imp
      fun line f hline => ⟨hline, Sql.properties_eq d f⟩
  · intro f hf hout
    have hauto := (not_mem_insertable_iff hf).mp hout
    exact ⟨Sql.properties_sqlite_eq_iff f hauto, Sql.columnType_postgres_mem_iff f hauto⟩
  · rw [forall_not_insertable_iff]
    simp only [hmarked, and_imp]
    refine forall₃_congr fun l _ hauto => ?_
    rw [Sql.properties_sqlite_eq_iff _ hauto, primary_field_iff]
    rfl
  · rw [forall_not_insertable_iff]
    simp only [hmarked, and_imp]
    refine forall₃_congr fun l _ hauto => ?_
    rw [Sql.columnType_postgres_mem_iff _ hauto]
    rfl

/-- A record with a generated number that is not the primary key. -/
def invoice : Tree :=
  let field (name typeName : String) (kind : Kind) (auto : Bool) : Record.Node :=
    { name, kind, typeName, tags := some { auto } }
  ((Tree.new "Invoice" "Invoice").push 0 (field "Number" "int" .int true)).push 0
    (field "Total" "float64" .float64 false)

/-- An insert leaves the number out, and SQLite gets the keyword without the primary key that it
needs. -/
theorem auto_without_primary_key :
    createTable .sqlite (load invoice).table
      = "CREATE TABLE IF NOT EXISTS invoices (\n f_number INTEGER AUTOINCREMENT"
        ++ "\n,f_total  REAL\n);" ∧
    insert .sqlite (load invoice).table = "INSERT INTO invoices (f_total\n) VALUES (?)" := by
  decide +kernel

end RecordSql.Table
