import RecordSql.Proofs.Breaks
import RecordSql.Proofs.Dialects
import RecordSql.Proofs.Schema

/-!
# `RecordSql.Proofs.Lines`: the lines of a statement

Some statements go over several lines: the definitions of a table stand one to a line, a condition
begins a line and so do the bounds of a range. What follows the end of a line is never empty, as
long as no name contains one (`Table.Unbroken`). So no statement has an empty line
(`not_mem_lines_of_mem_build`), and an empty line can stand between statements to keep them
apart.

All statements of a table have a `Form` that is one of the table: its indexes and foreign keys are
among those of the table, and its keys are legible (`Form.IsOf`). What is said about lines is said
once for each form.
-/

set_option autoImplicit false

namespace RecordSql

open RecordSql.Sql (Dialect Form Verb clause columnList condition definitionLines)

namespace Text

/-! ### Lines -/

/-- The lines of a text, with what follows the last end of a line. -/
def lines (text : String) : List String :=
  (split (· == '\n') text.toList).map String.ofList

/-- The text is a line: it is not empty and does not go over the end of a line. -/
structure IsLine (text : String) : Prop where
  ne_empty : text ≠ ""
  not_mem : '\n' ∉ text.toList

variable {a b text : String}

/-- There is always a line. -/
theorem lines_ne_nil (text : String) : lines text ≠ [] := by
  rw [lines, ne_eq, List.map_eq_nil_iff]
  exact split_ne_nil (· == '\n') text.toList

/-- A text without an end of a line is the only line. -/
theorem lines_eq_singleton (h : '\n' ∉ text.toList) : lines text = [text] := by
  have hpiece : ∀ c ∈ text.toList, (c == '\n') = false := by
    intro c hc
    rw [beq_eq_false_iff_ne]
    rintro rfl
    exact h hc
  rw [lines, split_of_forall_not hpiece, List.map_singleton, String.ofList_toList]

/-- Two texts on different lines have the lines of both. -/
theorem lines_append (a b : String) : lines (a ++ "\n" ++ b) = lines a ++ lines b := by
  have htext : (a ++ "\n" ++ b).toList = a.toList ++ '\n' :: b.toList := by simp
  unfold lines
  rw [htext, split_append a.toList rfl, List.map_append]

/-- The lines with an end of a line between them are the text again. -/
theorem intercalate_lines (text : String) : "\n".intercalate (lines text) = text := by
  have hpieces : (lines text).map String.toList = split (· == '\n') text.toList := by
    rw [lines, List.map_map]
    exact (List.map_congr_left fun cs _ => String.toList_ofList).trans (List.map_id _)
  rw [← String.toList_inj, String.toList_intercalate, hpieces]
  exact intercalate_split '\n' text.toList

/-- A line stays one with more text at its end. -/
theorem IsLine.append (h : IsLine a) (hb : '\n' ∉ b.toList) : IsLine (a ++ b) where
  ne_empty heq := h.ne_empty (String.append_eq_empty_iff.mp heq).1
  not_mem := by simp [h.not_mem, hb]

/-- A line has no empty line. -/
theorem IsLine.not_mem_lines (h : IsLine text) : "" ∉ lines text := by
  rw [lines_eq_singleton h.not_mem, List.mem_singleton]
  exact h.ne_empty.symm

/-- Nor do lines one after the other. -/
theorem not_mem_lines_append (ha : "" ∉ lines a) (hb : "" ∉ lines b) :
    "" ∉ lines (a ++ "\n" ++ b) := by
  rw [lines_append, List.mem_append, not_or]
  exact ⟨ha, hb⟩

/-- A text to which any number of lines are added has these lines at its end. -/
theorem lines_append_join {more : List String} (h : ∀ line ∈ more, '\n' ∉ line.toList) :
    lines (a ++ String.join (more.map ("\n" ++ ·))) = lines a ++ more := by
  -- The lines move over to the text one by one.
  induction more generalizing a with
  | nil => simp
  | cons line more ih =>
    obtain ⟨hline, hmore⟩ := List.forall_mem_cons.mp h
    rw [List.map_cons, String.join_cons, ← String.append_assoc, ← String.append_assoc, ih hmore,
      lines_append, lines_eq_singleton hline, List.append_assoc, List.singleton_append]

/-- Nor does a text to which any number of lines are added. -/
theorem not_mem_lines_join {more : List String} (ha : "" ∉ lines a)
    (h : ∀ line ∈ more, IsLine line) : "" ∉ lines (a ++ String.join (more.map ("\n" ++ ·))) := by
  rw [lines_append_join fun line hline => (h line hline).not_mem, List.mem_append, not_or]
  exact ⟨ha, fun hempty => (h "" hempty).ne_empty rfl⟩

/-- Nothing, or one more line. -/
def IsMore (text : String) : Prop :=
  text = "" ∨ ∃ line, IsLine line ∧ text = "\n" ++ line

/-- Nor does a text to which one more line may be added. -/
theorem not_mem_lines_more (ha : "" ∉ lines a) (hb : IsMore b) : "" ∉ lines (a ++ b) := by
  rcases hb with rfl | ⟨line, hline, rfl⟩
  · rwa [String.append_empty]
  · rw [← String.append_assoc]
    exact not_mem_lines_append ha hline.not_mem_lines

end Text

namespace Sql

open RecordSql.Text (IsLine IsMore lines not_mem_lines_append not_mem_lines_join not_mem_lines_more)

/-! ### Statements -/

/-- The form is one of the statements of the table, as far as the names in it are concerned. -/
def Form.IsOf (t : Table) : Form → Prop
  | createTable | insert => True
  | createIndex ix => ix ∈ t.indexes
  | addForeignKey k => k ∈ t.foreignKeys
  | query _ keys _ => ∀ k ∈ keys, k.Legible

variable {d : Dialect} {t : Table}

/-- The definition of a column is a line. -/
theorem isLine_of_mem_definitionLines {fs : List Field} (h : ∀ f ∈ fs, '\n' ∉ f.name.toList)
    {line : String} (hline : line ∈ definitionLines d fs) : IsLine line where
  ne_empty := by
    obtain ⟨i, hi, rfl⟩ := List.getElem_of_mem hline
    have hdefine := definitionLines_define d fs
    obtain ⟨first, -, width, heq⟩ := hdefine.get hi (hdefine.length_eq ▸ hi)
    intro hempty
    rw [← String.toList_inj] at hempty
    cases heq.symm.trans hempty
  not_mem := not_mem_definitionLines (Or.inl rfl) d h line hline

/-- `CREATE TABLE` has a line for each column. -/
theorem not_mem_lines_createTable (ht : t.Unbroken '\n') : "" ∉ lines (createTable d t) := by
  have hhead : IsLine ("CREATE TABLE IF NOT EXISTS " ++ t.name ++ " (") :=
    (IsLine.append ⟨by decide, by decide⟩ ht.name).append (by decide)
  -- The parenthesis that closes the definitions has a line of its own.
  have hend : "\n);" = "\n" ++ ");" := rfl
  unfold createTable
  rw [hend, ← String.append_assoc]
  refine not_mem_lines_append ?_ (IsLine.not_mem_lines ⟨by decide, by decide⟩)
  exact not_mem_lines_join hhead.not_mem_lines fun line => isLine_of_mem_definitionLines ht.fields

/-- `CREATE INDEX` is one line. -/
theorem isLine_createIndex (ht : t.Unbroken '\n') {ix : Index} (hix : ix ∈ t.indexes) :
    IsLine (createIndex d t ix) := by
  have hcolumns := ht.not_mem_indexColumns (by decide) hix
  rw [createIndex_eq]
  refine IsLine.append ⟨by decide, by decide⟩ ?_
  unfold indexRest indexSubject
  cases ix.unique <;> cases d <;>
    simp [Dialect.indexGuard, Dialect.indexEnd, ht.name, ht.indexNames ix hix, hcolumns]

/-- `ALTER TABLE` is one line. -/
theorem isLine_addForeignKey (ht : t.Unbroken '\n') {k : ForeignKey} (hk : k ∈ t.foreignKeys) :
    IsLine (addForeignKey t k) := by
  have hcolumns := ht.not_mem_keyColumns (by decide) hk
  unfold addForeignKey
  simp only [String.append_assoc]
  refine IsLine.append ⟨by decide, by decide⟩ ?_
  simpa [ht.name, ht.toTables k hk] using hcolumns

/-- `INSERT` has two lines. -/
theorem not_mem_lines_insert (ht : t.Unbroken '\n') : "" ∉ lines (insert d t) := by
  have hcolumns : '\n' ∉ (columnList t.insertable).toList :=
    not_mem_columnList (by decide) fun f hf => ht.fields f (List.mem_of_mem_filter hf)
  have hvalues : '\n' ∉ (",".intercalate (placeholders d t.insertable.length)).toList :=
    Text.not_mem_intercalate (by decide) (List.forall_mem_map.mpr fun position _ =>
      IsBreak.not_mem_placeholder (Or.inl rfl) d position)
  have hlines : insert d t = "INSERT INTO " ++ (t.name ++ " (" ++ columnList t.insertable) ++ "\n"
      ++ (") VALUES (" ++ (",".intercalate (placeholders d t.insertable.length) ++ ")")) := by
    rw [← String.toList_inj]
    unfold insert
    simp
  have hfirst : '\n' ∉ (t.name ++ " (" ++ columnList t.insertable).toList := by
    simp [ht.name, hcolumns]
  have hsecond : '\n' ∉ (",".intercalate (placeholders d t.insertable.length) ++ ")").toList := by
    rw [String.toList_append, List.mem_append, not_or]
    exact ⟨hvalues, by decide⟩
  rw [hlines]
  exact not_mem_lines_append (IsLine.append ⟨by decide, by decide⟩ hfirst).not_mem_lines
    (IsLine.append ⟨by decide, by decide⟩ hsecond).not_mem_lines

/-- What stands before a condition has one line or two. -/
theorem not_mem_lines_head (ht : t.Unbroken '\n') (verb : Verb) :
    "" ∉ lines (verb.head d t) := by
  have hfrom : IsLine ("FROM " ++ t.name) := IsLine.append ⟨by decide, by decide⟩ ht.name
  cases verb with
  | select =>
    have hcolumns : '\n' ∉ (columnList t.fields).toList := not_mem_columnList (by decide) ht.fields
    have hhead : IsLine ("SELECT " ++ columnList t.fields) :=
      IsLine.append ⟨by decide, by decide⟩ hcolumns
    have hlines : Verb.select.head d t
        = "SELECT " ++ columnList t.fields ++ "\n" ++ ("FROM " ++ t.name) := by
      have hend : "\nFROM " = "\n" ++ "FROM " := rfl
      unfold Verb.head
      rw [hend]
      simp only [String.append_assoc]
    rw [hlines]
    exact not_mem_lines_append hhead.not_mem_lines hfrom.not_mem_lines
  | count =>
    have hlines : Verb.count.head d t = "SELECT count(1)" ++ "\n" ++ ("FROM " ++ t.name) := by
      have hend : "SELECT count(1)\nFROM " = "SELECT count(1)" ++ ("\n" ++ "FROM ") := rfl
      unfold Verb.head
      rw [hend]
      simp only [String.append_assoc]
    rw [hlines]
    exact not_mem_lines_append (IsLine.not_mem_lines ⟨by decide, by decide⟩) hfrom.not_mem_lines
  | update =>
    have hassign : '\n' ∉ (",".intercalate (assignments d t.fields)).toList := by
      refine Text.not_mem_intercalate (by decide) (List.forall_mem_map.mpr ?_)
      rintro ⟨f, i⟩ hf
      have hvalue := IsBreak.not_mem_placeholder (Or.inl rfl) d i
      simp [ht.fields f (List.fst_mem_of_mem_zipIdx hf), hvalue]
    unfold Verb.head
    exact (((IsLine.append ⟨by decide, by decide⟩ ht.name).append (by decide)).append
      hassign).not_mem_lines
  | delete => exact (IsLine.append ⟨by decide, by decide⟩ ht.name).not_mem_lines

/-- A condition is at most one line. -/
theorem isMore_condition {keys : List Field} (hkeys : ∀ k ∈ keys, k.Legible) (offset : Nat) :
    IsMore (condition d keys offset) := by
  by_cases hnil : keys = []
  · exact Or.inl (by rw [hnil, condition_nil])
  · refine Or.inr ⟨"WHERE " ++ " AND ".intercalate (predicates d keys offset), ?_, ?_⟩
    · exact IsLine.append ⟨by decide, by decide⟩ (not_mem_intercalate_predicates hkeys offset)
    · rw [← String.toList_inj, toList_condition hnil]
      simp

/-- So are the bounds of a range. -/
theorem isMore_tail (keys : List Field) (range : Bool) : IsMore (tail d keys range) := by
  have hvalue := IsBreak.not_mem_placeholder (Or.inl rfl) d
  cases range with
  | false => exact Or.inl rfl
  | true =>
    refine Or.inr ⟨"LIMIT " ++ (d.placeholder keys.length ++ " OFFSET "
      ++ d.placeholder (keys.length + 1)), ?_, ?_⟩
    · exact IsLine.append ⟨by decide, by decide⟩ (by simp [hvalue])
    · rw [← String.toList_inj]
      simp [tail, bounds]

/-- No form of a statement of the table has an empty line. -/
theorem not_mem_lines_text (ht : t.Unbroken '\n') {f : Form} (hf : f.IsOf t) :
    "" ∉ lines (f.text d t) := by
  cases f with
  | createTable => exact not_mem_lines_createTable ht
  | createIndex ix => exact (isLine_createIndex ht hf).not_mem_lines
  | addForeignKey k => exact (isLine_addForeignKey ht hf).not_mem_lines
  | insert => exact not_mem_lines_insert ht
  | query verb keys range =>
    show "" ∉ lines (verb.head d t ++ (condition d keys (verb.offset t) ++ tail d keys range))
    rw [← String.append_assoc]
    refine not_mem_lines_more (not_mem_lines_more ?_ ?_) (isMore_tail keys range)
    · exact not_mem_lines_head ht verb
    · exact isMore_condition hf (verb.offset t)

end Sql

/-! ### Offers -/

namespace Catalog

variable {d : Dialect} {t : Table}

/-- The text of an offer that changes the schema is that of a form of the table. -/
theorem exists_form_of_mem_creates {o : Offer} (h : o ∈ creates d t) :
    ∃ f : Form, f.IsOf t ∧ o.sql = f.text d t := by
  rcases List.mem_append.mp h with h | h
  · rcases List.mem_cons.mp h with rfl | h
    · exact ⟨.createTable, trivial, rfl⟩
    · obtain ⟨ix, hix, rfl⟩ := List.mem_map.mp h
      exact ⟨.createIndex ix, hix, rfl⟩
  · obtain ⟨k, hk, rfl⟩ := List.mem_map.mp h
    exact ⟨.addForeignKey k, hk, rfl⟩

/-- So is that of every other offer, which begins like no such form. -/
theorem exists_form_of_mem_allOffers (ht : LegibleTable t) {o : Offer} (h : o ∈ allOffers d t) :
    ∃ f : Form, f.IsOf t ∧ o.sql = f.text d t := by
  obtain ⟨c, hkind, hc⟩ := (formed_of_mem_allOffers h).text
  obtain ⟨o', -, halike⟩ := exists_of_mem_forall₂ (alike_allOffers ht d d) h
  obtain ⟨f, hlegible, -, htext⟩ := halike.text
  rw [htext] at hc
  have hopening : kindOf f.opening = o.kind := (Sql.begins_text d t f).eq hc ▸ hkind
  -- The pairing of dialects says nothing about indexes and foreign keys, but their statements
  -- begin like those that change the schema.
  cases f with
  | createTable => exact ⟨.createTable, trivial, htext⟩
  | insert => exact ⟨.insert, trivial, htext⟩
  | query verb keys range => exact ⟨.query verb keys range, hlegible, htext⟩
  | createIndex ix | addForeignKey k =>
    exact exists_form_of_mem_creates (mem_creates_iff.mpr ⟨h, hopening.symm⟩)

/-- No statement of a catalog has an empty line. -/
theorem not_mem_lines_of_mem_build (ht : LegibleTable t) (hunbroken : t.Unbroken '\n')
    {c : Catalog} (hc : build d t = .ok c) {s : Statement} (hs : s ∈ c.statements) :
    "" ∉ Text.lines s.sql := by
  obtain ⟨o, ho, hgives⟩ := exists_offer_of_mem_build hc hs
  obtain ⟨f, hf, htext⟩ := exists_form_of_mem_allOffers ht ho
  rw [hgives.sql, htext]
  exact Sql.not_mem_lines_text hunbroken hf

end Catalog

end RecordSql
