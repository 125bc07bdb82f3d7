import RecordSql.Proofs.LabelCharacters
import RecordSql.Proofs.Lines
import RecordSql.Proofs.Structures

/-!
# `RecordSql.Proofs.Transcript`: reading the text output back

The text output has a line for each table and a statement under each label, with an empty line
after each of them. Nothing in it is quoted, and the line of a table and that of a label begin
alike. It can be read back all the same, for two reasons. Neither a statement nor a label has an
empty line (`Catalog.not_mem_lines_of_mem_build`, `Catalog.isBlank_of_mem_label`), so the empty
lines are those between the paragraphs. And a statement has at least one line under its label, so
a paragraph of one line is the name of a table.

* `paragraphs_join`: paragraphs without empty lines are found again.
* `Paragraph.ofText?_text`: a paragraph is read back.
* `text_reads_back`: so is the output, if no name of a table goes over the end of a line.

A name that did could look like a statement, or like another table. The names of indexes and
columns cannot, whatever the tags and the field names are.
-/

set_option autoImplicit false

namespace RecordSql.Generate

/-! ### Paragraphs -/

/-- The parts of a text between its empty lines. -/
def paragraphs (text : String) : List String :=
  -- Nothing stands after the last empty line, and that is no part.
  (((Text.lines text).splitOnP (· == "")).filter (!·.isEmpty)).map "\n".intercalate

/-- A text that is followed by an empty line has its own lines first. -/
theorem lines_append_ended (body rest : String) :
    Text.lines (body ++ "\n\n" ++ rest) = Text.lines body ++ "" :: Text.lines rest := by
  have hend : "\n\n" = "\n" ++ "\n" := rfl
  have hempty : "\n" ++ rest = "" ++ "\n" ++ rest := by rw [String.empty_append]
  calc Text.lines (body ++ "\n\n" ++ rest)
      = Text.lines (body ++ "\n" ++ ("" ++ "\n" ++ rest)) := by
        rw [hend, ← hempty]
        simp only [String.append_assoc]
    _ = Text.lines body ++ (Text.lines "" ++ Text.lines rest) := by
        rw [Text.lines_append, Text.lines_append]
    _ = Text.lines body ++ "" :: Text.lines rest := rfl

/-- A text without empty lines that is followed by one comes first. -/
theorem paragraphs_append {body : String} (h : "" ∉ Text.lines body) (rest : String) :
    paragraphs (body ++ "\n\n" ++ rest) = body :: paragraphs rest := by
  have hlines : ∀ line ∈ Text.lines body, (line == "") = false := by
    intro line hline
    rw [beq_eq_false_iff_ne]
    rintro rfl
    exact h hline
  have hsplit : (Text.lines body ++ "" :: Text.lines rest).splitOnP (· == "")
      = Text.lines body :: (Text.lines rest).splitOnP (· == "") :=
    List.splitOnP_append_cons_of_forall_mem hlines "" rfl _
  have hfull : (!(Text.lines body).isEmpty) = true := by
    simp [Text.lines_ne_nil]
  unfold paragraphs
  rw [lines_append_ended, hsplit, List.filter_cons, if_pos hfull, List.map_cons,
    Text.intercalate_lines]

/-- Texts without empty lines are found again if each is followed by one. -/
theorem paragraphs_join {bodies : List String} (h : ∀ body ∈ bodies, "" ∉ Text.lines body) :
    paragraphs (String.join (bodies.map (· ++ "\n\n"))) = bodies := by
  induction bodies with
  | nil => decide +kernel
  | cons body bodies ih =>
    obtain ⟨hbody, hbodies⟩ := List.forall_mem_cons.mp h
    rw [List.map_cons, String.join_cons, paragraphs_append hbody, ih hbodies]

/-- A paragraph of the text output. -/
inductive Paragraph where
  /-- The name of a table. -/
  | table (name : String)
  /-- A statement under its label. -/
  | statement (label sql : String)
deriving DecidableEq, Repr

/-- What follows a beginning in a text that has it. -/
def after? (start text : String) : Option String :=
  (text.toList.dropPrefix? start.toList).map String.ofList

theorem after?_append (start text : String) : after? start (start ++ text) = some text := by
  have hdrop : (start ++ text).toList.dropPrefix? start.toList = some text.toList := by
    rw [List.dropPrefix?_eq_some_iff]
    exact ⟨start.toList, String.toList_append, beq_self_eq_true _⟩
  rw [after?, hdrop, Option.map_some, String.ofList_toList]

namespace Paragraph

/-- The text of a paragraph. -/
def text : Paragraph → String
  | table name => "-- table: " ++ name
  | statement label sql => "-- " ++ label ++ "\n" ++ sql

/-- The paragraph that a text is: one line names a table, several are a statement. -/
def ofText? (text : String) : Option Paragraph :=
  match Text.lines text with
  | [] => none
  | [line] => (after? "-- table: " line).map table
  | first :: rest => (after? "-- " first).map (statement · ("\n".intercalate rest))

/-- Neither the name of a table nor a label goes over the end of a line, and a statement has no
empty line. -/
def IsPlain : Paragraph → Prop
  | table name => '\n' ∉ name.toList
  | statement label sql => '\n' ∉ label.toList ∧ "" ∉ Text.lines sql

variable {p : Paragraph}

theorem lines_text_table {name : String} (h : '\n' ∉ name.toList) :
    Text.lines (table name).text = ["-- table: " ++ name] := by
  refine Text.lines_eq_singleton ?_
  rw [text, String.toList_append, List.mem_append, not_or]
  exact ⟨by decide, h⟩

theorem lines_text_statement {label : String} (h : '\n' ∉ label.toList) (sql : String) :
    Text.lines (statement label sql).text = ("-- " ++ label) :: Text.lines sql := by
  have hfirst : '\n' ∉ ("-- " ++ label).toList := by simp [h]
  rw [text, Text.lines_append, Text.lines_eq_singleton hfirst, List.singleton_append]

/-- A paragraph has no empty line. -/
theorem IsPlain.not_mem_lines (h : p.IsPlain) : "" ∉ Text.lines p.text := by
  have hne : ∀ start name : String, start ≠ "" → "" ≠ start ++ name := by
    intro start name hstart heq
    exact hstart (String.append_eq_empty_iff.mp heq.symm).1
  cases p with
  | table name =>
    rw [lines_text_table h, List.mem_singleton]
    exact hne _ name (by decide)
  | statement label sql =>
    rw [lines_text_statement h.1, List.mem_cons, not_or]
    exact ⟨hne _ label (by decide), h.2⟩

/-- A paragraph is read back. -/
theorem ofText?_text (h : p.IsPlain) : ofText? p.text = some p := by
  cases p with
  | table name =>
    rw [ofText?, lines_text_table h]
    dsimp only
    rw [after?_append, Option.map_some]
  | statement label sql =>
    -- The statement has a line, so its paragraph has two.
    obtain ⟨line, rest, hlines⟩ := List.exists_cons_of_ne_nil (Text.lines_ne_nil sql)
    have hsql : "\n".intercalate (line :: rest) = sql := hlines ▸ Text.intercalate_lines sql
    rw [ofText?, lines_text_statement h.1, hlines]
    dsimp only
    rw [after?_append, Option.map_some, hsql]

end Paragraph

/-! ### Sections -/

/-- The name of a table and its statements, each with its label. -/
structure Section where
  table : String
  statements : List (String × String)
deriving DecidableEq, Repr

/-- The statements before the first table, and the tables with the statements after them. -/
def sections : List Paragraph → List (String × String) × List Section
  | [] => ([], [])
  | .table name :: ps => ([], ⟨name, (sections ps).1⟩ :: (sections ps).2)
  | .statement label sql :: ps => ((label, sql) :: (sections ps).1, (sections ps).2)

/-- What a text output says. Every paragraph must be one of a table or a statement, and every
statement must follow a table. -/
def readText (text : String) : Option (List Section) :=
  ((paragraphs text).mapM Paragraph.ofText?).bind fun ps =>
    -- A statement before the first table would belong to none.
    if (sections ps).1.isEmpty then some (sections ps).2 else none

/-- The paragraphs of a section. -/
def Section.paragraphs (s : Section) : List Paragraph :=
  .table s.table :: s.statements.map fun (label, sql) => .statement label sql

/-- Statements belong to the table before them. -/
theorem sections_append (statements : List (String × String)) (ps : List Paragraph) :
    sections (statements.map (fun (label, sql) => .statement label sql) ++ ps)
      = (statements ++ (sections ps).1, (sections ps).2) := by
  induction statements with
  | nil => rfl
  | cons s statements ih =>
    rw [List.map_cons, List.cons_append, sections, ih]
    rfl

/-- Sections are found again among their paragraphs. -/
theorem sections_flatMap (ss : List Section) :
    sections (ss.flatMap Section.paragraphs) = ([], ss) := by
  induction ss with
  | nil => rfl
  | cons s ss ih =>
    rw [List.flatMap_cons, Section.paragraphs, List.cons_append, sections, sections_append, ih,
      List.append_nil]

variable {ss : List Section}

/-- The text of the sections: their paragraphs, each followed by an empty line. -/
def sectionsText (ss : List Section) : String :=
  String.join ((ss.flatMap Section.paragraphs).map (·.text ++ "\n\n"))

/-- The paragraphs of sections are found again. -/
theorem paragraphs_sectionsText (h : ∀ s ∈ ss, ∀ p ∈ s.paragraphs, p.IsPlain) :
    paragraphs (sectionsText ss) = (ss.flatMap Section.paragraphs).map Paragraph.text := by
  have hjoin : sectionsText ss = String.join
      (((ss.flatMap Section.paragraphs).map Paragraph.text).map (· ++ "\n\n")) := by
    rw [List.map_map]
    rfl
  rw [hjoin]
  refine paragraphs_join (List.forall_mem_map.mpr fun p hp => ?_)
  obtain ⟨s, hs, hp⟩ := List.mem_flatMap.mp hp
  exact (h s hs p hp).not_mem_lines

/-- So sections are read back. -/
theorem readText_sectionsText (h : ∀ s ∈ ss, ∀ p ∈ s.paragraphs, p.IsPlain) :
    readText (sectionsText ss) = some ss := by
  have hread : (paragraphs (sectionsText ss)).mapM Paragraph.ofText?
      = some (ss.flatMap Section.paragraphs) := by
    rw [paragraphs_sectionsText h, Document.mapM_eq_some_iff, List.forall₂_map_left_iff,
      List.forall₂_same]
    intro p hp
    obtain ⟨s, hs, hp⟩ := List.mem_flatMap.mp hp
    exact Paragraph.ofText?_text (h s hs p hp)
  rw [readText, hread, Option.bind_some, sections_flatMap]
  rfl

/-! ### The output of a run -/

/-- What the output says about a table. -/
def sectionOf (g : Generated) : Section :=
  ⟨g.table.name, g.catalog.statements.map fun s => (s.label, s.sql)⟩

/-- The table is loaded from a record and the catalog is that of the table, in any dialect. Neither
the name of the table nor that of a table that it references goes over the end of a line. -/
structure IsPlain (g : Generated) : Prop where
  made : ∃ tree d, Table.IsLoaded tree g.table ∧ Catalog.build d g.table = .ok g.catalog
  name : '\n' ∉ g.table.name.toList
  targets : ∀ k ∈ g.table.foreignKeys, '\n' ∉ k.toTable.toList

variable {g : Generated} {gs : List Generated}

/-- No statement has an empty line. -/
theorem IsPlain.not_mem_lines (h : IsPlain g) {s : Statement} (hs : s ∈ g.catalog.statements) :
    "" ∉ Text.lines s.sql := by
  obtain ⟨tree, d, hloaded, hbuild⟩ := h.made
  have hname := h.name
  have htargets := h.targets
  rw [hloaded.eq_load] at hbuild hname htargets
  exact Catalog.not_mem_lines_of_mem_build (Catalog.legibleTable_load tree)
    (Table.unbroken_load (Or.inl rfl) hname fun _ => htargets) hbuild hs

/-- No label goes over the end of a line. -/
theorem IsPlain.not_mem_label (h : IsPlain g) {s : Statement} (hs : s ∈ g.catalog.statements) :
    '\n' ∉ s.label.toList := by
  obtain ⟨tree, d, -, hbuild⟩ := h.made
  intro hend
  cases Catalog.isBlank_of_mem_label hbuild hs hend

/-- The paragraphs about a table are plain. -/
theorem IsPlain.isPlain_paragraphs (h : IsPlain g) :
    ∀ p ∈ (sectionOf g).paragraphs, p.IsPlain := by
  intro p hp
  rcases List.mem_cons.mp hp with rfl | hp
  · exact h.name
  · obtain ⟨⟨label, sql⟩, hstatement, rfl⟩ := List.mem_map.mp hp
    obtain ⟨s, hs, hpair⟩ := List.mem_map.mp hstatement
    cases hpair
    exact ⟨h.not_mem_label hs, h.not_mem_lines hs⟩

/-- The text of a catalog is that of the paragraphs about its table. -/
theorem IsPlain.catalogText_eq (h : IsPlain g) :
    catalogText g.catalog = String.join ((sectionOf g).paragraphs.map (·.text ++ "\n\n")) := by
  obtain ⟨tree, d, -, hbuild⟩ := h.made
  have hname : g.catalog.table = g.table.name := by
    obtain ⟨-, hcatalog⟩ := Catalog.build_eq_ok_iff.mp hbuild
    rw [hcatalog]
    exact (Catalog.accounts_finished d g.table).table
  rw [catalogText, hname, Section.paragraphs, sectionOf, List.map_map, List.map_cons,
    String.join_cons, List.map_map]
  rfl

/-- The text output is that of the sections. -/
theorem render_text_eq (h : ∀ g ∈ gs, IsPlain g) :
    render .text gs = sectionsText (gs.map sectionOf) := by
  have htexts : gs.map (fun g => catalogText g.catalog)
      = gs.map fun g => String.join ((sectionOf g).paragraphs.map (·.text ++ "\n\n")) :=
    List.map_congr_left fun g hg => (h g hg).catalogText_eq
  rw [← String.toList_inj, render, htexts, sectionsText]
  simp [List.flatMap_map, List.map_flatMap, List.flatMap_assoc]

/-- The text output of tables whose names, and those of the tables they reference, do not go over
the end of a line. No statement has an empty line. What stands between the empty lines of the
output is, for each table in order, a line with its name and each of its statements under its
label. From these the name of each table is read back, with exactly its statements and their
labels, in order. So two outputs with the same text say the same. -/
theorem text_reads_back (h : ∀ g ∈ gs, IsPlain g) :
    (∀ g ∈ gs, ∀ s ∈ g.catalog.statements, "" ∉ Text.lines s.sql) ∧
    paragraphs (render .text gs) = gs.flatMap (fun g =>
      ("-- table: " ++ g.table.name) ::
        g.catalog.statements.map fun s => "-- " ++ s.label ++ "\n" ++ s.sql) ∧
    readText (render .text gs) = some (gs.map sectionOf) ∧
    ∀ gs' : List Generated, (∀ g ∈ gs', IsPlain g) → render .text gs' = render .text gs →
      gs'.map sectionOf = gs.map sectionOf := by
  have hread : ∀ {gs : List Generated}, (∀ g ∈ gs, IsPlain g) →
      readText (render .text gs) = some (gs.map sectionOf) := by
    intro gs h
    rw [render_text_eq h]
    exact readText_sectionsText (List.forall_mem_map.mpr fun g hg => (h g hg).isPlain_paragraphs)
  refine ⟨fun g hg s hs => (h g hg).not_mem_lines hs, ?_, hread h, ?_⟩
  · rw [render_text_eq h, paragraphs_sectionsText
      (List.forall_mem_map.mpr fun g hg => (h g hg).isPlain_paragraphs)]
    rw [List.flatMap_map, List.map_flatMap]
    simp only [Section.paragraphs, sectionOf, List.map_cons, List.map_map]
    rfl
  · intro gs' h' heq
    exact Option.some.inj ((hread h').symm.trans (heq ▸ hread h))

/-- A record with an index by a pattern, and with a reference to another table. -/
def reply : Record.Tree :=
  ((Record.Tree.new "Reply" "Reply").push 0
    { name := "Body", kind := .string, typeName := "string"
      tags := some { index := some "by_body@like" } }).push 0
    { name := "Author", kind := .int64, typeName := "int64"
      tags := some { foreign := some "ID@users" } }

/-- Its eleven statements, of one line up to four, are read back under the name of the table. -/
theorem text_reads_back_reply :
    let t := (Table.load reply).table
    Table.IsLoaded reply t ∧ '\n' ∉ t.name.toList ∧
    (∀ k ∈ t.foreignKeys, '\n' ∉ k.toTable.toList) ∧
    ∃ c, Catalog.build .postgres t = .ok c ∧ c.statements.length = 11 ∧
      readText (render .text [⟨t, c⟩])
        = some [⟨"replies", c.statements.map fun s => (s.label, s.sql)⟩] := by
  intro t
  have hloaded : Table.IsLoaded reply t := Or.inl rfl
  have hname : t.name = "replies" := by decide +kernel
  have hplain : '\n' ∉ t.name.toList := by
    rw [hname]
    decide
  have htargets : ∀ k ∈ t.foreignKeys, '\n' ∉ k.toTable.toList := by decide +kernel
  have hlength : (Catalog.build .postgres t).toOption.map (·.statements.length) = some 11 := by
    decide +kernel
  refine ⟨hloaded, hplain, htargets, ?_⟩
  cases hc : Catalog.build .postgres t with
  | error clash =>
    rw [hc] at hlength
    cases hlength
  | ok c =>
    rw [hc] at hlength
    have hmade : IsPlain ⟨t, c⟩ := ⟨⟨reply, .postgres, hloaded, hc⟩, hplain, htargets⟩
    have hread := (text_reads_back (List.forall_mem_singleton.mpr hmade)).2.2.1
    rw [List.map_singleton, sectionOf, hname] at hread
    exact ⟨c, rfl, Option.some.inj hlength, hread⟩

end RecordSql.Generate
