import RecordSql.Proofs.Skipping
import RecordSql.Proofs.TargetColumns

/-!
# `RecordSql.Proofs.PlainNames`: names that need no quotes

Statements have the names of columns in them without quotes, and nothing looks at these names again
on the way. So whatever fields and name tags contain, a name must be one plain word of SQL.

```text
field or name tag               column
x; DROP TABLE users --          f_x_drop_table_users
--                              f
ÀÉ "b"                          f_àé_b
```

`load_columnNames` says that this is so. A name of a column is the column root, on its own or with
words behind it, each after one underscore (`IsColumnName`), and there are no characters in it that
end a word of SQL (`IsPlainName`). The names to which references refer are plain as well. They are
names of columns too, but for the one that has no words (`isColumnName_targetColumn`).
-/

set_option autoImplicit false

namespace RecordSql

open RecordSql.Text (IsNameChar IsSnakeWord snakeWords isSnakeWord_of_mem_snakeWords)

/-! ### Plain names -/

/-- A name that can stand in a statement as it is: no character of it is white space, and its ASCII
characters are lowercase letters, digits and underscores. -/
def IsPlainName (name : String) : Prop :=
  ∀ c ∈ name.toList, IsNameChar c

/-- The name of a column:

- `shape`: the column root and words, each after an underscore;
- `ne_empty`, `single`, `notLast`: so it is not empty, no two underscores stand side by side, and
  none stands at the end;
- `plain`: it can stand in a statement as it is. -/
structure IsColumnName (name : String) : Prop where
  shape : ∃ ws : List (List Char), name.toList = 'f' :: ws.flatMap ('_' :: ·) ∧
    ∀ w ∈ ws, w ≠ [] ∧ '_' ∉ w
  ne_empty : name ≠ ""
  single : ¬['_', '_'] <:+: name.toList
  notLast : name.toList.getLast? ≠ some '_'
  plain : IsPlainName name

/-- The column root with words joined to it is the name of a column. -/
theorem isColumnName_of_joined {name : String} {ws : List (List Char)}
    (hname : name.toList = ['_'].intercalate (['f'] :: ws)) (hws : ∀ w ∈ ws, IsSnakeWord w)
    (hplain : IsPlainName name) : IsColumnName name where
  shape := by
    refine ⟨ws, ?_, fun w hw => ⟨(hws w hw).ne_nil, (hws w hw).not_mem⟩⟩
    rw [hname, Text.intercalate_cons_eq_flatMap]
    rfl
  ne_empty := by
    rintro rfl
    rw [Text.intercalate_cons_eq_flatMap] at hname
    cases hname
  single := by
    rw [hname]
    exact Text.not_infix_underscores (by simp) (by simpa using ⟨⟨by simp, by simp⟩, hws⟩)
  notLast := by
    rw [hname]
    exact Text.getLast?_joined_ne (by simp) (by simpa using ⟨⟨by simp, by simp⟩, hws⟩)
  plain := hplain

namespace Identifier

/-- A path that is not empty has the name of a column. -/
theorem isColumnName_column (root : String) (segments : List String) :
    IsColumnName (column (root :: segments)) := by
  refine isColumnName_of_joined (toList_column root segments) ?_
    fun c hc => isNameChar_of_mem_column hc
  intro w hw
  obtain ⟨s, -, hw⟩ := List.mem_flatMap.mp hw
  exact isSnakeWord_of_mem_snakeWords hw

/-- A reference refers to the name of a column, or to the column root and an underscore if there are
no words in its source. -/
theorem isColumnName_targetColumn (source : String) :
    targetColumn source = "f_" ∨ IsColumnName (targetColumn source) := by
  have htarget := toList_targetColumn source
  cases hws : snakeWords source.toList with
  | nil =>
    -- The underscore after the column root is written even if nothing follows.
    left
    rw [hws] at htarget
    exact String.toList_inj.mp htarget
  | cons w ws =>
    right
    rw [hws] at htarget
    have hwords : ∀ v ∈ w :: ws, IsSnakeWord v := fun v hv =>
      isSnakeWord_of_mem_snakeWords (hws ▸ hv)
    refine isColumnName_of_joined ?_ hwords fun c hc => isNameChar_of_mem_targetColumn hc
    rw [htarget, List.intercalate_cons_cons]
    rfl

end Identifier

/-! ### The names in a loaded table -/

namespace Table

open RecordSql.Record (Tree)

/-- Every column has the name of a column, in whatever place of the table it stands. -/
theorem isColumnName_of_mem_allFields {t : Tree} {f : Field} (hf : f ∈ (load t).table.allFields) :
    IsColumnName f.name := by
  obtain ⟨g, hg, -, hname⟩ := exists_field_of_mem_allFields hf
  rw [fields_load] at hg
  obtain ⟨l, hl, rfl⟩ := List.mem_map.mp hg
  obtain ⟨root, segments, -, hcolumn⟩ :=
    (read_of_mem_leavesOf (mem_of_mem_firstOfColumn hl)).exists_path
  rw [hname, show l.field.name = l.column from rfl, hcolumn]
  exact Identifier.isColumnName_column root segments

/-- The names in the table of a record, whatever its fields and name tags contain.

Each column in any place of the table has the name of a column: it is the column root, on its own or
with words behind it, each after one underscore, so it is not empty, no two underscores stand side
by side, and none stands at the end. There is no white space in it, and of the ASCII characters only
`a` to `z`, `0` to `9` and the underscore. This is so of both ends of every foreign key, except that
the end that is referred to can also be the column root with an underscore and nothing else. -/
theorem load_columnNames (t : Tree) :
    (∀ f ∈ (load t).table.allFields, IsColumnName f.name) ∧
    ∀ k ∈ (load t).table.foreignKeys,
      (∀ name ∈ k.fromColumns, IsColumnName name) ∧
      ∀ name ∈ k.toColumns, IsPlainName name ∧ (name = "f_" ∨ IsColumnName name) := by
  refine ⟨fun f hf => isColumnName_of_mem_allFields hf, ?_⟩
  intro k hk
  constructor
  · intro name hname
    rw [fromColumns_eq_map hk] at hname
    obtain ⟨f, hf, rfl⟩ := List.mem_map.mp hname
    have hall : f ∈ (load t).table.allFields := by
      simp only [allFields, List.mem_append, List.mem_flatMap]
      exact Or.inr ⟨k, hk, hf⟩
    exact isColumnName_of_mem_allFields hall
  · intro name hname
    obtain ⟨source, rfl⟩ := exists_source_of_mem_toColumns hk hname
    exact ⟨fun c hc => Identifier.isNameChar_of_mem_targetColumn hc,
      Identifier.isColumnName_targetColumn source⟩

/-- A name tag that would end the statement and begin another one. -/
example :
    let t := (Tree.new "User" "User").push 0
      { name := "Name", kind := .string, typeName := "string"
        tags := some { name := some "x; DROP TABLE users --", foreign := some "*@users" } }
    (load t).table.fields.map (·.name) = ["f_x_drop_table_users"] ∧
      (load t).table.foreignKeys.flatMap (·.toColumns) = ["f_"] := by
  decide +kernel

end Table

end RecordSql
