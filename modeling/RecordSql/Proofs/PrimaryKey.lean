import Mathlib.Algebra.GroupWithZero.Nat
import RecordSql.Proofs.ColumnNames
import RecordSql.Sql.Render

/-!
# `RecordSql.Proofs.PrimaryKey`: how often a table declares its primary key

`CREATE TABLE` marks each column of the primary key on the line of the column. Databases allow
one such mark in a table, so the statement is accepted for a primary key of one column and
rejected for one of several columns (`composite_key_declared_twice`).

`load_primaryKeys` counts the declarations in the statement of any loaded table: there are as
many as columns in the primary key, one on the line of each of them. Names cannot change the
count, because column names have no capitals (`isNameChar_of_mem_fields`). The name of the table
can have any text in it, so the count begins after it.
-/

set_option autoImplicit false

namespace RecordSql.Text

/-! ### Counting a word in a text -/

/-- How often a text contains a word. -/
def occurrences (word : List Char) : List Char → Nat
  | [] => 0
  | c :: cs => (if word.isPrefixOf (c :: cs) then 1 else 0) + occurrences word cs

variable {word : List Char}

/-- A text in which the word cannot begin does not count. -/
theorem occurrences_append_of_not_mem {c : Char} {rest : List Char} (hword : word = c :: rest)
    {as : List Char} (h : c ∉ as) (bs : List Char) :
    occurrences word (as ++ bs) = occurrences word bs := by
  induction as with
  | nil => rfl
  | cons a as ih =>
    have hne : c ≠ a := fun hca => h (hca ▸ List.mem_cons_self)
    rw [List.cons_append, occurrences, ih fun hc => h (List.mem_cons_of_mem a hc), hword,
      List.isPrefixOf, beq_false_of_ne hne]
    simp

/-- A word is not cut by a character that it does not contain. -/
theorem isPrefixOf_append_cons {c : Char} (h : c ∉ word) (as bs : List Char) :
    word.isPrefixOf (as ++ c :: bs) = word.isPrefixOf as := by
  rw [Bool.eq_iff_iff, List.isPrefixOf_iff_prefix, List.isPrefixOf_iff_prefix]
  constructor
  · intro hpre
    rcases List.prefix_or_prefix_of_prefix hpre (List.prefix_append as (c :: bs)) with hle | hge
    · exact hle
    · -- The word would go on into the character.
      obtain ⟨more, rfl⟩ := hge
      rw [List.prefix_append_right_inj] at hpre
      cases more with
      | nil => exact ⟨[], by simp⟩
      | cons m more =>
        obtain ⟨rfl, -⟩ := List.cons_prefix_cons.mp hpre
        exact absurd (List.mem_append_right as List.mem_cons_self) h
  · intro hpre
    exact hpre.trans (List.prefix_append as (c :: bs))

/-- A character that the word does not contain separates what is counted. -/
theorem occurrences_append_cons {c : Char} (h : c ∉ word) (as bs : List Char) :
    occurrences word (as ++ c :: bs) = occurrences word as + occurrences word (c :: bs) := by
  induction as with
  | nil => simp [occurrences]
  | cons a as ih =>
    have hpre := isPrefixOf_append_cons h (a :: as) bs
    rw [List.cons_append] at hpre ⊢
    rw [occurrences, occurrences, ih, hpre, Nat.add_assoc]

/-- Lines that begin with a character which the word does not contain are counted one by one. -/
theorem occurrences_flatMap_cons {c : Char} (h : c ∉ word) (hword : word ≠ [])
    (lines : List (List Char)) (bs : List Char) :
    occurrences word (lines.flatMap (c :: ·) ++ c :: bs)
      = (lines.map (occurrences word)).sum + occurrences word bs := by
  obtain ⟨w, rest, rfl⟩ := List.exists_cons_of_ne_nil hword
  have hskip : ∀ cs, occurrences (w :: rest) (c :: cs) = occurrences (w :: rest) cs := by
    intro cs
    have hw : w ∉ [c] := by
      intro hmem
      rw [List.mem_singleton] at hmem
      exact h (hmem ▸ List.mem_cons_self)
    exact occurrences_append_of_not_mem rfl hw cs
  induction lines with
  | nil => simp [hskip]
  | cons line lines ih =>
    -- The next line begins with the character, and so does the end.
    obtain ⟨next, hnext⟩ : ∃ next, lines.flatMap (c :: ·) ++ c :: bs = c :: next := by
      cases lines with
      | nil => exact ⟨_, rfl⟩
      | cons next lines => exact ⟨_, rfl⟩
    rw [List.flatMap_cons, List.append_assoc, List.cons_append, hskip, hnext,
      occurrences_append_cons h, ← hnext, ih, List.map_cons, List.sum_cons, Nat.add_assoc]

end RecordSql.Text

namespace RecordSql.Sql

open RecordSql.Text (occurrences)

/-! ### The declarations of one column -/

/-- The words that declare a primary key. -/
def primaryKeyWords : List Char := "PRIMARY KEY".toList

/-- The first of these letters tells where a declaration can begin. -/
theorem primaryKeyWords_eq : primaryKeyWords = 'P' :: "RIMARY KEY".toList := by
  decide

/-- The types without a size. -/
def typeNames : List String :=
  ["INTEGER", "BIGINT", "SERIAL", "BIGSERIAL", "BOOLEAN", "REAL", "FLOAT", "DOUBLE",
    "DOUBLE PRECISION", "TEXT", "MEDIUMTEXT", "LONGTEXT", "BLOB", "MEDIUMBLOB", "BYTEA"]

/-- Every column has one of these types, or a type with a size. -/
theorem columnType_mem_or_eq (d : Dialect) (f : Field) :
    d.columnType f ∈ typeNames ∨ ∃ n : Nat, d.columnType f = "VARCHAR(" ++ toString n ++ ")" := by
  obtain ⟨node, name, type, primary, auto, size, operator, valueFirst⟩ := f
  cases d with
  | sqlite =>
    left
    cases type <;> cases auto <;> simp [Dialect.columnType, Dialect.sqliteType, typeNames]
  | postgres =>
    cases type with
    | varchar =>
      simp only [Dialect.columnType, Dialect.postgresType]
      split
      · exact Or.inr ⟨size, rfl⟩
      · exact Or.inl (by simp [typeNames])
    | _ => cases auto <;> simp [Dialect.columnType, Dialect.postgresType, typeNames]
  | mysql =>
    cases type with
    | varchar => exact Or.inr ⟨_, rfl⟩
    | _ => simp [Dialect.columnType, Dialect.mysqlType, typeNames]

/-- Every column has a type, and no declaration begins within it, but for one type of PostgreSQL
that contains the letter. -/
theorem columnType_shape (d : Dialect) (f : Field) :
    d.columnType f ≠ "" ∧
      ('P' ∉ (d.columnType f).toList ∨ d.columnType f = "DOUBLE PRECISION") := by
  rcases columnType_mem_or_eq d f with h | ⟨n, h⟩
  · exact (by decide : ∀ type ∈ typeNames,
      type ≠ "" ∧ ('P' ∉ type.toList ∨ type = "DOUBLE PRECISION")) _ h
  · have hdigits : 'P' ∉ Nat.toDigits 10 n := Text.not_mem_toDigits rfl n
    rw [h]
    simp [hdigits]

/-- What follows the type of a column. -/
def keywords (d : Dialect) (f : Field) : String :=
  (if f.primary then " PRIMARY KEY" else "")
    ++ if f.auto then (match d with
      | .sqlite => " AUTOINCREMENT"
      | .postgres => ""
      | .mysql => " AUTO_INCREMENT") else ""

/-- The properties of a column are its type and the keywords after it. -/
theorem properties_eq (d : Dialect) (f : Field) :
    properties d f = d.columnType f ++ keywords d f := by
  have htype : (d.columnType f).isEmpty = false := by
    simpa using (columnType_shape d f).1
  unfold properties keywords
  rw [← String.toList_inj, String.toList_intercalate]
  cases f.primary <;> cases f.auto <;> cases d <;>
    simp [htype, Dialect.primaryKey, Dialect.autoIncrement, List.intercalate]

/-- The properties of a column declare a primary key exactly if it is part of it. -/
theorem occurrences_properties (d : Dialect) (f : Field) :
    occurrences primaryKeyWords (properties d f).toList = if f.primary then 1 else 0 := by
  rw [properties_eq, String.toList_append]
  unfold keywords
  rcases (columnType_shape d f).2 with h | h
  · rw [Text.occurrences_append_of_not_mem primaryKeyWords_eq h]
    cases f.primary <;> cases f.auto <;> cases d <;> decide
  · rw [h]
    cases f.primary <;> cases f.auto <;> cases d <;> decide

/-! ### The lines of a table -/

/-- The line has the definition of a column: after a space or a comma its name, then at least
one space, then the definition. -/
def Defines (line name definition : String) : Prop :=
  ∃ first ∈ [' ', ','], ∃ width,
    line.toList = first :: name.toList ++ ' ' :: List.replicate width ' ' ++ definition.toList

/-- The start of all column types is past every cell. -/
theorem length_lt_typeColumn {cells : List String} {c : String} (h : c ∈ cells) :
    c.length < typeColumn cells := by
  have hfold : ∀ (ns : List Nat) (start n : Nat), n ∈ ns ∨ n ≤ start → n ≤ ns.foldl max start := by
    intro ns
    induction ns with
    | nil => simp
    | cons m ns ih =>
      intro start n hn
      refine ih (max start m) n ?_
      rw [List.mem_cons] at hn
      rcases hn with (rfl | hn) | hn
      · exact Or.inr (Nat.le_max_right start n)
      · exact Or.inl hn
      · exact Or.inr (Nat.le_trans hn (Nat.le_max_left start m))
  exact Nat.lt_succ_of_le (hfold _ 0 _ (Or.inl (List.mem_map_of_mem h)))

/-- A cell that is padded past its end begins the line of its column. -/
theorem defines_padded_cell (f : Field) {position width : Nat}
    (h : (cell position f).length < width) (definition : String) :
    Defines (padded width (cell position f) ++ definition) f.name definition := by
  obtain ⟨more, hmore⟩ : ∃ more, width - (cell position f).length = more + 1 :=
    Nat.exists_eq_add_one.mpr (Nat.sub_pos_of_lt h)
  refine ⟨if position = 0 then ' ' else ',', by split <;> simp, more, ?_⟩
  rw [padded, hmore]
  unfold cell
  split <;> simp [List.replicate_succ]

/-- The line of a column is its cell, padded up to the start of all column types, and then its
properties. -/
theorem definitionLines_eq (d : Dialect) (fs : List Field) :
    definitionLines d fs = fs.zipIdx.map fun (f, i) =>
      padded (typeColumn (fs.zipIdx.map fun (f, i) => cell i f)) (cell i f) ++ properties d f := by
  unfold definitionLines
  dsimp only
  generalize hcells : List.map _ fs.zipIdx = cells
  -- Each cell is paired with its column again.
  have hpairs : cells.zip fs = fs.zipIdx.map fun p => (cell p.2 p.1, p.1) :=
    calc cells.zip fs
        = (fs.zipIdx.map fun p => cell p.2 p.1).zip (fs.zipIdx.map Prod.fst) := by
          rw [hcells, List.zipIdx_map_fst]
      _ = fs.zipIdx.map fun p => (cell p.2 p.1, p.1) := List.zip_map'
  rw [hpairs, List.map_map]
  rfl

/-- Each column has a line, with its properties. -/
theorem definitionLines_define (d : Dialect) (fs : List Field) :
    List.Forall₂ (fun line f => Defines line f.name (properties d f)) (definitionLines d fs)
      fs := by
  rw [definitionLines_eq]
  conv => rhs; rw [← List.zipIdx_map_fst 0 fs]
  rw [List.forall₂_map_left_iff, List.forall₂_map_right_iff, List.forall₂_same]
  rintro ⟨f, i⟩ hf
  have hcell : cell i f ∈ fs.zipIdx.map fun (f, i) => cell i f :=
    List.mem_map_of_mem (f := fun (f, i) => cell i f) hf
  exact defines_padded_cell f (length_lt_typeColumn hcell) _

/-- A word that begins with a letter which the name does not have is counted in the definition
only. -/
theorem occurrences_of_defines {line name definition : String} (h : Defines line name definition)
    {word rest : List Char} {c : Char} (hword : word = c :: rest) (hname : c ∉ name.toList)
    (hspace : c ≠ ' ') (hcomma : c ≠ ',') :
    occurrences word line.toList = occurrences word definition.toList := by
  obtain ⟨first, hfirst, width, hline⟩ := h
  rw [hline]
  refine Text.occurrences_append_of_not_mem hword ?_ _
  rw [List.mem_pair] at hfirst
  rcases hfirst with rfl | rfl <;> simp [hname, hspace, hcomma]

/-- What is counted in the lines of columns is counted in their properties, if no name has the
letter with which the word begins. -/
theorem map_occurrences_definitionLines (d : Dialect) {fs : List Field} {word rest : List Char}
    {c : Char} (hword : word = c :: rest) (hnames : ∀ f ∈ fs, c ∉ f.name.toList) (hspace : c ≠ ' ')
    (hcomma : c ≠ ',') :
    (definitionLines d fs).map (occurrences word ·.toList)
      = fs.map fun f => occurrences word (properties d f).toList := by
  rw [← List.forall₂_eq_eq_eq, List.forall₂_map_left_iff, List.forall₂_map_right_iff]
  obtain ⟨hlength, hlines⟩ := List.forall₂_iff_zip.mp (definitionLines_define d fs)
  refine List.forall₂_iff_zip.mpr ⟨hlength, ?_⟩
  intro line f hlf
  exact occurrences_of_defines (hlines hlf) hword (hnames f (List.of_mem_zip hlf).2) hspace hcomma

/-- The line of a column declares a primary key exactly if the column is part of it. -/
theorem occurrences_definitionLines (d : Dialect) {fs : List Field}
    (h : ∀ f ∈ fs, 'P' ∉ f.name.toList) :
    (definitionLines d fs).map (occurrences primaryKeyWords ·.toList)
      = fs.map fun f => if f.primary then 1 else 0 := by
  rw [map_occurrences_definitionLines d primaryKeyWords_eq h (by decide) (by decide)]
  exact List.map_congr_left fun f _ => occurrences_properties d f

/-! ### The declarations of a table -/

/-- The part of `CREATE TABLE` after the name of the table. -/
def tableBody (d : Dialect) (fs : List Field) : String :=
  String.join ((definitionLines d fs).map ("\n" ++ ·)) ++ "\n);"

/-- `CREATE TABLE` has this part at its end. -/
theorem createTable_eq (d : Dialect) (t : Table) :
    createTable d t = "CREATE TABLE IF NOT EXISTS " ++ t.name ++ " (" ++ tableBody d t.fields := by
  unfold createTable tableBody
  rw [String.append_assoc]

/-- There is one declaration for each column of the primary key. -/
theorem occurrences_tableBody (d : Dialect) {fs : List Field}
    (h : ∀ f ∈ fs, 'P' ∉ f.name.toList) :
    occurrences primaryKeyWords (tableBody d fs).toList = fs.countP (·.primary) := by
  have htext : (tableBody d fs).toList
      = ((definitionLines d fs).map String.toList).flatMap ('\n' :: ·) ++ '\n' :: [')', ';'] := by
    simp [tableBody, List.flatMap_map]
  have hline : '\n' ∉ primaryKeyWords := by decide
  have hend : occurrences primaryKeyWords [')', ';'] = 0 := by decide
  rw [htext, Text.occurrences_flatMap_cons hline (by decide), hend, List.map_map, Nat.add_zero]
  show ((definitionLines d fs).map (occurrences primaryKeyWords ·.toList)).sum = _
  rw [occurrences_definitionLines d h]
  clear h htext
  induction fs with
  | nil => rfl
  | cons f fs ih =>
    rw [List.map_cons, List.sum_cons, ih, List.countP_cons]
    omega

end RecordSql.Sql

namespace RecordSql.Table

open RecordSql.Record (Tree Kind)
open RecordSql.Sql (Dialect createTable definitionLines primaryKeyWords)
open RecordSql.Text (occurrences)

/-- No declaration begins in the name of a column. -/
theorem not_mem_name_of_mem_fields (tree : Tree) :
    ∀ f ∈ (load tree).table.fields, 'P' ∉ f.name.toList := by
  intro f hf hmem
  have hchar : Text.IsNameChar 'P' := isNameChar_of_mem_fields hf hmem
  exact absurd hchar (by decide)

/-- The primary key has as many columns as first leaves of a column are marked as primary. -/
theorem countP_primary_fields (tree : Tree) :
    (load tree).table.fields.countP (·.primary)
      = (firstOfColumn (leavesOf tree)).countP fun l =>
          l.tags.primary ∨ l.node.name = "ID" ∧ l.node.kind = Kind.int64 := by
  rw [fields_load, List.countP_map]
  refine List.countP_congr ?_
  intro l _
  show (l.tags.primary || l.isId) = true ↔ _
  rw [Bool.or_eq_true, isId_iff, decide_eq_true_iff]

/-- How often the `CREATE TABLE` of a record declares the primary key. After the name of the
table there is a line for each column, and the line declares a primary key exactly if the
column is part of it. So the declarations are as many as the columns of the primary key: the
columns whose leaf has a `primary` tag or is a 64-bit integer named `ID`, in whatever nested
record it is.

The database gets at most one declaration, and one if there is a primary key, exactly for
those records whose primary key has at most one column. -/
theorem load_primaryKeys (tree : Tree) (d : Dialect) :
    let t := (load tree).table
    ∃ body, createTable d t = "CREATE TABLE IF NOT EXISTS " ++ t.name ++ " (" ++ body ∧
      (definitionLines d t.fields).map (fun line => occurrences primaryKeyWords line.toList)
        = t.fields.map (fun f => if f.primary then 1 else 0) ∧
      occurrences primaryKeyWords body.toList = t.primary.length ∧
      t.primary.length = (firstOfColumn (leavesOf tree)).countP (fun l =>
        l.tags.primary ∨ l.node.name = "ID" ∧ l.node.kind = Kind.int64) ∧
      (occurrences primaryKeyWords body.toList = (if t.primary = [] then 0 else 1) ↔
        t.primary.length ≤ 1) := by
  intro t
  have hprimary : t.primary = t.fields.filter (·.primary) := (Builder.built_ofTree tree).primary
  have hcount : t.fields.countP (·.primary) = t.primary.length := by
    rw [hprimary, List.countP_eq_length_filter]
  have hnames : ∀ f ∈ t.fields, 'P' ∉ f.name.toList := not_mem_name_of_mem_fields tree
  have hbody : occurrences primaryKeyWords (Sql.tableBody d t.fields).toList
      = t.primary.length := by
    rw [Sql.occurrences_tableBody d hnames, hcount]
  refine ⟨Sql.tableBody d t.fields, Sql.createTable_eq d t,
    Sql.occurrences_definitionLines d hnames, hbody, ?_, ?_⟩
  · rw [← hcount]
    exact countP_primary_fields tree
  · rw [hbody]
    cases t.primary with
    | nil => simp
    | cons f fs => simp

/-- A record whose two fields are its primary key together. -/
def enrolment : Tree :=
  let field (name : String) : Record.Node :=
    { name, kind := .int, typeName := "int", tags := some { primary := true } }
  ((Tree.new "Membership" "Membership").push 0 (field "User")).push 0 (field "Team")

/-- The statement for such a record declares two primary keys. -/
theorem composite_key_declared_twice :
    createTable .sqlite (load enrolment).table
      = "CREATE TABLE IF NOT EXISTS memberships (\n f_user INTEGER PRIMARY KEY"
        ++ "\n,f_team INTEGER PRIMARY KEY\n);" ∧
    (load enrolment).table.primary.length = 2 := by
  decide +kernel

end RecordSql.Table
