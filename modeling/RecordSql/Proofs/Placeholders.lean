import RecordSql.Proofs.ColumnNames
import RecordSql.Proofs.Writes

/-!
# `RecordSql.Proofs.Placeholders`: the placeholders of a statement

SQLite and MySQL write every bound value as `?` and bind the values from left to right.
PostgreSQL writes numbers. A statement has to name the values in the same order in all dialects,
so the numbers must be those that one gets by counting: the `i`-th placeholder from the left is
`$i`. The renderer does not count. It computes the positions in the list of assignments, in the
condition after it and in the range at the end, each on its own.

`Numbered offset count text` says that a text comes out right in all dialects. It holds of texts
without placeholders and of single placeholders, and texts one after the other have it if the
second starts where the first has stopped (`Numbered.append`). From these the statements are put
together in the way in which they are rendered, up to `numbered_statements`.

A question mark in a name would be counted as a placeholder, so the names are taken without it.
-/

set_option autoImplicit false

namespace RecordSql.Sql

/-! ### Numbering a text -/

/-- The text with its question marks replaced by numbers with a dollar sign, from `next` on. -/
def numberFrom : Nat → List Char → List Char
  | _, [] => []
  | next, c :: cs =>
    if c = '?' then '$' :: (toString next).toList ++ numberFrom (next + 1) cs
    else c :: numberFrom next cs

/-- A text without question marks stays as it is. -/
theorem numberFrom_of_not_mem {cs : List Char} (h : '?' ∉ cs) (next : Nat) :
    numberFrom next cs = cs := by
  induction cs with
  | nil => rfl
  | cons c cs ih =>
    have hc : c ≠ '?' := fun hc => h (hc ▸ List.mem_cons_self)
    rw [numberFrom, if_neg hc, ih fun hmem => h (List.mem_cons_of_mem c hmem)]

/-- The numbers of a second text go on after those of the first. -/
theorem numberFrom_append (next : Nat) (as bs : List Char) :
    numberFrom next (as ++ bs) = numberFrom next as ++ numberFrom (next + as.count '?') bs := by
  induction as generalizing next with
  | nil => rfl
  | cons a as ih =>
    rw [List.cons_append, numberFrom, numberFrom]
    by_cases ha : a = '?'
    · -- Both counters have gone on by one.
      have hnext : next + 1 + as.count '?' = next + (a :: as).count '?' := by
        rw [ha, List.count_cons_self]
        omega
      rw [if_pos ha, if_pos ha, ih, hnext]
      simp
    · have hnext : (a :: as).count '?' = as.count '?' := List.count_cons_of_ne ha
      rw [if_neg ha, if_neg ha, ih, hnext]
      rfl

example : numberFrom 3 "f_a=? AND f_b=?".toList = "f_a=$3 AND f_b=$4".toList := by decide

/-- A text has the same values at the same places in all dialects, if the first is number
`offset`, counted from 0:

- `mysql`: MySQL has the text of SQLite;
- `count`: that text has `count` placeholders;
- `postgres`: PostgreSQL has the text of SQLite with the placeholders numbered from left to
  right. -/
structure Numbered (offset count : Nat) (text : Dialect → String) : Prop where
  mysql : text .mysql = text .sqlite
  count : (text .sqlite).toList.count '?' = count
  postgres : (text .postgres).toList = numberFrom (offset + 1) (text .sqlite).toList

variable {offset m n : Nat} {s p : Dialect → String}

/-- A text that no dialect changes. -/
theorem numbered_const {text : String} (h : '?' ∉ text.toList) (offset : Nat) :
    Numbered offset 0 fun _ => text where
  mysql := rfl
  count := List.count_eq_zero_of_not_mem h
  postgres := (numberFrom_of_not_mem h _).symm

/-- The placeholder of a position. -/
theorem numbered_placeholder (position : Nat) :
    Numbered position 1 fun d => d.placeholder position where
  mysql := rfl
  count := by simp [Dialect.placeholder]
  postgres := by simp [Dialect.placeholder, numberFrom]

/-- Two texts one after the other, where the second starts with the next value. -/
theorem Numbered.append (hs : Numbered offset m s) (hp : Numbered (offset + m) n p) :
    Numbered offset (m + n) fun d => s d ++ p d where
  mysql := by rw [hs.mysql, hp.mysql]
  count := by rw [String.toList_append, List.count_append, hs.count, hp.count]
  postgres := by
    have hnext : offset + 1 + m = offset + m + 1 := by omega
    rw [String.toList_append, String.toList_append, numberFrom_append, hs.count, hs.postgres,
      hp.postgres, hnext]

/-- A text that no dialect changes may stand before another. -/
theorem Numbered.const_append {text : String} (h : '?' ∉ text.toList)
    (hp : Numbered offset n p) : Numbered offset n fun d => text ++ p d := by
  have happend := (numbered_const h offset).append hp
  rwa [Nat.zero_add] at happend

/-- It may stand after another as well. -/
theorem Numbered.append_const (hs : Numbered offset m s) {text : String}
    (h : '?' ∉ text.toList) : Numbered offset m fun d => s d ++ text :=
  hs.append (numbered_const h (offset + m))

/-- Texts with one value each and a separator between them. Each has the position of its value. -/
theorem numbered_intercalate {sep : String} (hsep : '?' ∉ sep.toList) {α : Type} {xs : List α}
    {text : α → Nat → Dialect → String} (h : ∀ x ∈ xs, ∀ i, Numbered i 1 (text x i))
    (offset : Nat) :
    Numbered offset xs.length fun d =>
      sep.intercalate ((xs.zipIdx offset).map fun (x, i) => text x i d) := by
  induction xs generalizing offset with
  | nil => exact numbered_const (by simp) offset
  | cons x xs ih =>
    -- The first text has one value, so the others start at the next position.
    have hfirst := h x List.mem_cons_self offset
    have hrest := ih (fun y hy => h y (List.mem_cons_of_mem x hy)) (offset + 1)
    cases xs with
    | nil => simpa using hfirst
    | cons y xs =>
      have happend := (hfirst.append_const hsep).append hrest
      rw [Nat.add_comm] at happend
      simpa only [List.zipIdx_cons, List.map_cons, List.length_cons,
        String.intercalate_cons_cons] using happend

/-! ### Names -/

/-- The name and the function of a column contain no question mark. -/
structure Unmarked (f : Field) : Prop where
  name : '?' ∉ f.name.toList
  function : ∀ function, f.operator = .call function → '?' ∉ function.toList

/-! ### Statements -/

/-- The comparison of a column has one value, which a function may take first or second. -/
theorem numbered_predicate {f : Field} (hf : Unmarked f) (position : Nat) :
    Numbered position 1 fun d => predicate d f position := by
  have hvalue := numbered_placeholder position
  have hname := hf.name
  unfold predicate
  cases hop : f.operator with
  | equal => exact hvalue.const_append (by simp [hname])
  | like => exact hvalue.const_append (by simp [hname])
  | call function =>
    have hfunction := hf.function function hop
    dsimp only
    cases f.valueFirst with
    | true =>
      have hopen : '?' ∉ (function ++ "(").toList := by simp [hfunction]
      exact (((hvalue.const_append hopen).append_const (by simp)).append_const
        hname).append_const (by simp)
    | false =>
      have hopen : '?' ∉ (function ++ "(" ++ f.name ++ ",").toList := by
        simp [hfunction, hname]
      exact (hvalue.const_append hopen).append_const (by simp)

/-- A condition has one value for each key. -/
theorem numbered_predicates {keys : List Field} (hkeys : ∀ k ∈ keys, Unmarked k) (offset : Nat) :
    Numbered offset keys.length fun d => " AND ".intercalate (predicates d keys offset) := by
  have hsep : '?' ∉ " AND ".toList := by decide
  simp only [predicates_eq]
  exact numbered_intercalate hsep (fun k hk i => numbered_predicate (hkeys k hk) i) offset

/-- Assignments have one value for each column. -/
theorem numbered_assignments {fs : List Field} (hfs : ∀ f ∈ fs, '?' ∉ f.name.toList) :
    Numbered 0 fs.length fun d => ",".intercalate (assignments d fs) := by
  have hsep : '?' ∉ ",".toList := by decide
  have hassign : ∀ f ∈ fs, ∀ i, Numbered i 1 fun d => f.name ++ "=" ++ d.placeholder i := by
    intro f hf i
    have hname : '?' ∉ (f.name ++ "=").toList := by simp [hfs f hf]
    exact (numbered_placeholder i).const_append hname
  exact numbered_intercalate hsep hassign 0

/-- The values of an insert are the first ones. -/
theorem numbered_placeholders (count : Nat) :
    Numbered 0 count fun d => ",".intercalate (placeholders d count) := by
  have hsep : '?' ∉ ",".toList := by decide
  have hplaceholders : ∀ d : Dialect, placeholders d count
      = ((List.range count).zipIdx 0).map fun (_, i) => d.placeholder i := by
    intro d
    refine List.ext_getElem (by simp [placeholders]) ?_
    intro i _ _
    simp [placeholders]
  have hall := numbered_intercalate hsep
    (fun j (_ : j ∈ List.range count) i => numbered_placeholder i) 0
  rw [List.length_range] at hall
  simp only [hplaceholders]
  exact hall

/-- A condition goes on after the values of the statement to which it belongs. Without keys there
is none. -/
theorem numbered_filtered {head : Dialect → String} (hhead : Numbered 0 m head)
    {keys : List Field} (hkeys : ∀ k ∈ keys, Unmarked k) :
    Numbered 0 (m + keys.length) fun d => filtered (head d) (clause d keys m) := by
  by_cases hnil : keys = []
  · subst hnil
    simpa only [filtered_clause_nil, List.length_nil, Nat.add_zero] using hhead
  · have hwhere : '?' ∉ "\nWHERE ".toList := by decide
    have hpredicates := numbered_predicates hkeys (0 + m)
    have hall := (hhead.append_const hwhere).append hpredicates
    rw [Nat.zero_add] at hall
    simpa only [filtered_clause _ _ hnil] using hall

/-- A condition by itself, from any value on. -/
theorem numbered_clause {keys : List Field} (hkeys : ∀ k ∈ keys, Unmarked k) (offset : Nat) :
    Numbered offset keys.length fun d => clause d keys offset := by
  unfold clause
  cases keys with
  | nil =>
    have hempty : '?' ∉ "".toList := by decide
    exact numbered_const hempty offset
  | cons k keys =>
    have hwhere : '?' ∉ "WHERE ".toList := by decide
    exact (numbered_predicates hkeys offset).const_append hwhere

/-! ### All statements -/

section

variable {t : Table} (htable : '?' ∉ t.name.toList)
include htable

variable (hfields : ∀ f ∈ t.fields, '?' ∉ f.name.toList)
include hfields in
/-- An insert has a value for each column that the database does not generate. -/
theorem numbered_insert : Numbered 0 t.insertable.length fun d => insert d t := by
  have hcolumns : '?' ∉ (columnList t.insertable).toList := by
    refine not_mem_columnList (by decide) ?_
    intro f hf
    exact hfields f (List.mem_of_mem_filter hf)
  have hhead : '?' ∉ ("INSERT INTO " ++ t.name ++ " (" ++ columnList t.insertable
      ++ "\n) VALUES (").toList := by
    simp [htable, hcolumns]
  have hend : '?' ∉ ")".toList := by decide
  exact ((numbered_placeholders t.insertable.length).const_append hhead).append_const hend

variable {keys : List Field} (hkeys : ∀ k ∈ keys, Unmarked k)
include hkeys

/-- A delete has a value for each key. -/
theorem numbered_delete : Numbered 0 keys.length fun d => delete d t keys := by
  have hhead : '?' ∉ ("DELETE FROM " ++ t.name).toList := by simp [htable]
  have hall := numbered_filtered (numbered_const hhead 0) hkeys
  rwa [Nat.zero_add] at hall

/-- So has a count. -/
theorem numbered_selectCount : Numbered 0 keys.length fun d => selectCount d t keys := by
  have hhead : '?' ∉ ("SELECT count(1)\nFROM " ++ t.name).toList := by simp [htable]
  have hall := numbered_filtered (numbered_const hhead 0) hkeys
  rwa [Nat.zero_add] at hall

include hfields

/-- So has a select. -/
theorem numbered_select : Numbered 0 keys.length fun d => select d t keys := by
  have hcolumns : '?' ∉ (columnList t.fields).toList :=
    not_mem_columnList (by decide) hfields
  have hhead : '?' ∉ ("SELECT " ++ columnList t.fields ++ "\nFROM " ++ t.name).toList := by
    simp [htable, hcolumns]
  have hall := numbered_filtered (numbered_const hhead 0) hkeys
  rwa [Nat.zero_add] at hall

/-- A range has its two bounds after the keys. -/
theorem numbered_selectRange :
    Numbered 0 (keys.length + 2) fun d => selectRange d t keys := by
  have hlimit : '?' ∉ "\nLIMIT ".toList := by decide
  have hoffset : '?' ∉ " OFFSET ".toList := by decide
  have hselect := (numbered_select htable hfields hkeys).append_const hlimit
  have hfirst := hselect.append (numbered_placeholder (0 + keys.length))
  have hall := (hfirst.append_const hoffset).append
    (numbered_placeholder (0 + (keys.length + 1)))
  simp only [Nat.zero_add] at hall
  exact hall

/-- An update sets all columns before it compares the keys. -/
theorem numbered_update :
    Numbered 0 (t.fields.length + keys.length) fun d => update d t keys := by
  have hhead : '?' ∉ ("UPDATE " ++ t.name ++ " SET ").toList := by simp [htable]
  exact numbered_filtered ((numbered_assignments hfields).const_append hhead) hkeys

end

/-- The placeholders of the statements of a table by any keys, where the names of the table, of
its columns and of the keys and the functions of the keys contain no question mark.

MySQL has the texts of SQLite. PostgreSQL has them with the placeholders numbered: `$1` stands
for the first from the left, `$2` for the second, and so on. An insert has a placeholder for each
column without `auto`, an update one for each column and each key, a range one for each key and
two for its bounds, and all others one for each key. A condition by itself is numbered from any
value on. How a key is compared does not matter, not even for a function that takes the value
before the column. -/
theorem numbered_statements (t : Table) (keys : List Field) (htable : '?' ∉ t.name.toList)
    (hfields : ∀ f ∈ t.fields, '?' ∉ f.name.toList) (hkeys : ∀ k ∈ keys, Unmarked k) :
    Numbered 0 (t.fields.filter (!·.auto)).length (fun d => insert d t) ∧
    Numbered 0 (t.fields.length + keys.length) (fun d => update d t keys) ∧
    Numbered 0 keys.length (fun d => delete d t keys) ∧
    Numbered 0 keys.length (fun d => select d t keys) ∧
    Numbered 0 (keys.length + 2) (fun d => selectRange d t keys) ∧
    Numbered 0 keys.length (fun d => selectCount d t keys) ∧
    ∀ offset, Numbered offset keys.length fun d => clause d keys offset :=
  ⟨numbered_insert htable hfields, numbered_update htable hfields hkeys,
    numbered_delete htable hkeys, numbered_select htable hfields hkeys,
    numbered_selectRange htable hfields hkeys, numbered_selectCount htable hkeys,
    numbered_clause hkeys⟩

/-- A table of documents with a title and tags. -/
def documents : Table :=
  let column (node : Nat) (name : String) : Field := { node, name, type := .varchar }
  { name := "documents", fields := [column 1 "f_title", column 2 "f_tags"] }

/-- Its columns as keys: a pattern for the title and a tag that the function looks for. -/
def documentKeys : List Field :=
  [{ node := 1, name := "f_title", type := .varchar, operator := .like },
    { node := 2, name := "f_tags", type := .varchar, operator := .call "CONTAINS",
      valueFirst := true }]

/-- The values of the keys come after those of the columns. -/
theorem numbered_documents :
    update .postgres documents documentKeys
      = "UPDATE documents SET f_title=$1,f_tags=$2\n"
        ++ "WHERE f_title LIKE $3 AND CONTAINS($4,f_tags)" ∧
    Numbered 0 4 fun d => update d documents documentKeys := by
  have hkeys : ∀ k ∈ documentKeys, Unmarked k := by
    intro k hk
    simp only [documentKeys, List.mem_cons, List.not_mem_nil, or_false] at hk
    rcases hk with rfl | rfl
    · exact ⟨by decide, fun function h => by cases h⟩
    · exact ⟨by decide, fun function h => by cases h; decide⟩
  have hall := numbered_statements documents documentKeys (by decide) (by decide) hkeys
  exact ⟨by decide +kernel, hall.2.1⟩

end RecordSql.Sql
