import RecordSql.Proofs.Lines

/-!
# `RecordSql.Proofs.Layout`: how `CREATE TABLE` is laid out

`CREATE TABLE` has a line for the table, a line for each of its columns and a line that closes the
statement. The types of all columns start at the same place, one past the longest cell, where the
cell of a column is its name with the space or comma before it:

```text
CREATE TABLE IF NOT EXISTS shelves (
 f_id    BIGINT PRIMARY KEY AUTO_INCREMENT
,f_größe VARCHAR(512)
);
```

The place is a maximum over all columns, counted in characters (`length_lt_typeColumn`,
`exists_length_eq_typeColumn`). So there is a space after every name, and whatever the dialect and
the column are, the line of a column ends in a letter or a parenthesis (`tight_properties`). The
lines are those of the text as long as no name goes over the end of a line (`lines_createTable`).
-/

set_option autoImplicit false

namespace RecordSql

namespace Text

/-! ### Ends of texts -/

/-- The text is not empty and has no white space at its end. -/
def Tight (text : String) : Prop :=
  (text.toList.getLast?.any fun c => !isBlank c) = true

instance (text : String) : Decidable (Tight text) :=
  inferInstanceAs (Decidable (_ = true))

variable {a b text : String}

/-- The end of a text is that of what is added. -/
theorem Tight.append (h : Tight b) : Tight (a ++ b) := by
  unfold Tight at h ⊢
  rw [String.toList_append, List.getLast?_append]
  cases hlast : b.toList.getLast? with
  | none =>
    rw [hlast] at h
    cases h
  | some c =>
    rw [hlast] at h
    exact h

/-- Such a text is trimmed already. -/
theorem Tight.trimEnd_eq (h : Tight text) : trimEnd text.toList = text.toList := by
  obtain ⟨c, hlast, hc⟩ := (Option.any_eq_true _ _).mp h
  obtain ⟨cs, hcs⟩ := List.getLast?_eq_some_iff.mp hlast
  rw [hcs]
  exact trimEnd_concat (by simpa using hc) cs

end Text

namespace Sql

open RecordSql.Text (Tight lines)

/-! ### The definition of a column -/

/-- What is said of a column: its type, whether it is the primary key, and the keyword of generated
values if the dialect has one. -/
def definitionWords (d : Dialect) (f : Field) : List String :=
  [d.columnType f] ++ (if f.primary then ["PRIMARY KEY"] else [])
    ++ if f.auto ∧ d.autoIncrement ≠ "" then [d.autoIncrement] else []

/-- These are the properties of the column, with one space between them. -/
theorem properties_eq_intercalate (d : Dialect) (f : Field) :
    properties d f = " ".intercalate (definitionWords d f) := by
  have htype : (d.columnType f).isEmpty = false := by
    simpa using (columnType_shape d f).1
  unfold properties definitionWords
  cases f.primary <;> cases f.auto <;> cases d <;>
    simp [htype, Dialect.primaryKey, Dialect.autoIncrement]

/-- No type has white space at its end. -/
theorem tight_columnType (d : Dialect) (f : Field) : Tight (d.columnType f) := by
  rcases columnType_mem_or_eq d f with h | ⟨n, h⟩
  · exact (by decide : ∀ type ∈ typeNames, Tight type) _ h
  · rw [h]
    exact Tight.append (by decide)

/-- Nor has the definition of a column. -/
theorem tight_properties (d : Dialect) (f : Field) : Tight (properties d f) := by
  have hkeywords : keywords d f = "" ∨ Tight (keywords d f) := by
    unfold keywords
    cases f.primary <;> cases f.auto <;> cases d <;> decide
  rw [properties_eq]
  rcases hkeywords with h | h
  · rw [h, String.append_empty]
    exact tight_columnType d f
  · exact h.append

/-! ### The line of a column -/

/-- The line of the column at a position, when all types start at the same place:

- `parts`: a space before the first column and a comma before any other, the name, one space or more
  up to this place, and the definition;
- `type`: so the type starts at this place;
- `trimmed`: there is no white space at the end. -/
structure IsColumnLine (d : Dialect) (width position : Nat) (f : Field) (line : String) : Prop where
  parts : ∃ gap, 0 < gap ∧ 1 + f.name.length + gap = width ∧
    line = (if position = 0 then " " else ",") ++ f.name ++ String.ofList (List.replicate gap ' ')
      ++ " ".intercalate (definitionWords d f)
  type : (d.columnType f).toList <+: line.toList.drop width
  trimmed : Text.trimEnd line.toList = line.toList

/-- The cell of a column has one character more than its name. -/
theorem length_cell (position : Nat) (f : Field) :
    (cell position f).length = 1 + f.name.length := by
  unfold cell
  split <;> rw [String.length_append] <;> rfl

/-- A padded cell has the width up to which it is padded. -/
theorem length_padded {width : Nat} {s : String} (h : s.length ≤ width) :
    (padded width s).length = width := by
  simp [padded]
  omega

/-- A cell that is padded past its end begins the line of its column. -/
theorem isColumnLine_padded_cell (d : Dialect) {width position : Nat} {f : Field}
    (h : (cell position f).length < width) :
    IsColumnLine d width position f (padded width (cell position f) ++ properties d f) where
  parts := by
    rw [length_cell] at h
    refine ⟨width - (1 + f.name.length), by omega, by omega, ?_⟩
    rw [← properties_eq_intercalate, padded, length_cell]
    rfl
  type := by
    have hwidth : (padded width (cell position f)).toList.length = width := length_padded h.le
    rw [String.toList_append, List.drop_left' hwidth, properties_eq, String.toList_append]
    exact List.prefix_append _ _
  trimmed := (Tight.append (tight_properties d f)).trimEnd_eq

/-- One of several numbers is their maximum, unless it is the number to start with. -/
theorem foldl_max_eq_or_mem (ns : List Nat) (start : Nat) :
    ns.foldl max start = start ∨ ns.foldl max start ∈ ns := by
  induction ns generalizing start with
  | nil => exact Or.inl rfl
  | cons n ns ih =>
    rw [List.foldl_cons, List.mem_cons]
    rcases ih (max start n) with h | h
    · rw [h]
      omega
    · exact Or.inr (Or.inr h)

/-- The start of all column types is one past some cell. -/
theorem exists_length_eq_typeColumn {cells : List String} (h : cells ≠ []) :
    ∃ c ∈ cells, c.length + 1 = typeColumn cells := by
  rcases foldl_max_eq_or_mem (cells.map (·.length)) 0 with hzero | hmem
  · -- Then all cells are empty, so any of them will do.
    obtain ⟨c, rest, rfl⟩ := List.exists_cons_of_ne_nil h
    refine ⟨c, List.mem_cons_self, ?_⟩
    have hlt : c.length < typeColumn (c :: rest) := length_lt_typeColumn List.mem_cons_self
    rw [typeColumn, hzero] at hlt ⊢
    omega
  · obtain ⟨c, hc, hlength⟩ := List.mem_map.mp hmem
    exact ⟨c, hc, by rw [typeColumn, hlength]⟩

/-- How `CREATE TABLE` is laid out, for every dialect and every table whose name and whose columns'
names do not go over the end of a line.

There is a line for the table, then exactly one line for each column, in order, and then a line that
closes the statement. The line of a column consists of a space, or a comma if the column is not the
first, of its name, one space or more, its type, `PRIMARY KEY` if the column is primary, and the
keyword of generated values if the column has them and the dialect has a keyword, with single spaces
between these and no white space at the end. The types start at the same place in all lines. This is
one past the longest name with its space or comma, counted in characters. -/
theorem lines_createTable (d : Dialect) {t : Table} (hname : '\n' ∉ t.name.toList)
    (hfields : ∀ f ∈ t.fields, '\n' ∉ f.name.toList) :
    ∃ width body,
      lines (createTable d t)
        = ["CREATE TABLE IF NOT EXISTS " ++ t.name ++ " ("] ++ body ++ [");"] ∧
      List.Forall₂ (fun line (f, position) => IsColumnLine d width position f line) body
        t.fields.zipIdx ∧
      (∀ f ∈ t.fields, 1 + f.name.length < width) ∧
      (t.fields ≠ [] → ∃ f ∈ t.fields, 1 + f.name.length + 1 = width) := by
  let cells := t.fields.zipIdx.map fun (f, i) => cell i f
  have hcell : ∀ p ∈ t.fields.zipIdx, cell p.2 p.1 ∈ cells := fun p hp =>
    List.mem_map_of_mem (f := fun (f, i) => cell i f) hp
  -- All lines are padded up to the same place, which is computed from the cells of all columns.
  refine ⟨typeColumn cells, definitionLines d t.fields, ?_, ?_, ?_, ?_⟩
  · have hhead : '\n' ∉ ("CREATE TABLE IF NOT EXISTS " ++ t.name ++ " (").toList := by
      simp [hname]
    -- Every definition comes after the end of a line, and so does what closes the statement.
    have hend : "\n);" = "\n" ++ ");" := rfl
    unfold createTable
    rw [hend, ← String.append_assoc, Text.lines_append,
      Text.lines_append_join (not_mem_definitionLines (Or.inl rfl) d hfields),
      Text.lines_eq_singleton hhead, Text.lines_eq_singleton (by decide)]
  · rw [definitionLines_eq, List.forall₂_map_left_iff, List.forall₂_same]
    intro p hp
    exact isColumnLine_padded_cell d (length_lt_typeColumn (hcell p hp))
  · intro f hf
    obtain ⟨i, hi⟩ := List.mem_iff_getElem?.mp hf
    rw [← length_cell i]
    exact length_lt_typeColumn (hcell (f, i) (List.mk_mem_zipIdx_iff_getElem?.mpr hi))
  · intro hne
    have hcells : cells ≠ [] := by simpa [cells] using hne
    obtain ⟨c, hc, hlength⟩ := exists_length_eq_typeColumn hcells
    obtain ⟨⟨f, i⟩, hf, rfl⟩ := List.mem_map.mp hc
    refine ⟨f, List.fst_mem_of_mem_zipIdx hf, ?_⟩
    rw [← hlength, length_cell]

/-- A table with a name that has more bytes than characters. -/
def shelves : Table :=
  { name := "shelves"
    fields := [
      { node := 1, name := "f_id", type := .long, primary := true, auto := true },
      { node := 2, name := "f_größe", type := .varchar }] }

/-- The types of its columns start after nine characters. -/
theorem lines_createTable_shelves :
    ∃ body, lines (createTable .mysql shelves)
        = ["CREATE TABLE IF NOT EXISTS shelves ("] ++ body ++ [");"] ∧
      List.Forall₂ (fun line (f, position) => IsColumnLine .mysql 9 position f line) body
        shelves.fields.zipIdx := by
  obtain ⟨width, body, hlines, hbody, hlt, hwidth⟩ :=
    lines_createTable .mysql (t := shelves) (by decide) (by decide)
  -- The longer name, which is the second one, has seven characters.
  have hlengths : shelves.fields.map (·.name.length) = [4, 7] := by decide
  have hlong : 7 ∈ shelves.fields.map (·.name.length) := by simp [hlengths]
  obtain ⟨f, hf, hf7⟩ := List.mem_map.mp hlong
  obtain ⟨g, hg, hgwidth⟩ := hwidth (by decide)
  have hg7 : g.name.length ∈ shelves.fields.map (·.name.length) := List.mem_map_of_mem hg
  rw [hlengths, List.mem_pair] at hg7
  have hfwidth := hlt f hf
  obtain rfl : width = 9 := by omega
  exact ⟨body, hlines, hbody⟩

/-- The lines of the table. -/
example :
    createTable .mysql shelves = "CREATE TABLE IF NOT EXISTS shelves (\n"
      ++ " f_id    BIGINT PRIMARY KEY AUTO_INCREMENT\n" ++ ",f_größe VARCHAR(512)\n" ++ ");" := by
  decide +kernel

end Sql

end RecordSql
