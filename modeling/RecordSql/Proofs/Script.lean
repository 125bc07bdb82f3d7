import RecordSql.Proofs.Breaks
import RecordSql.Proofs.Schema

/-!
# `RecordSql.Proofs.Script`: cutting a schema script apart

Some schema statements end with a semicolon of their own and some do not: `CREATE TABLE` and
`ALTER TABLE` always do, `CREATE INDEX` does in MySQL. A script puts one after those that have
none. What makes a script safe to be cut at its semicolons is that no statement has another one:
each is closed by a parenthesis, with at most the semicolon after it (`IsClosed`).

So a script is its statements without their semicolons (`unterminated`), with a semicolon and an
end of a line after each (`IsClosed.scriptLine_eq`). `schemaScript_cuts` says what follows for the
script of a loaded table. All that is asked is that the name of the table has no semicolon.
-/

set_option autoImplicit false

namespace RecordSql.Catalog

open RecordSql.Sql (Dialect columnList definitionLines)

/-! ### Cutting a text at its terminators -/

/-- A statement without the semicolon at its end. -/
def unterminated (sql : String) : String :=
  if sql.toList.getLast? = some ';' then String.ofList sql.toList.dropLast else sql

/-- The parts of a text between the semicolons at ends of lines. -/
def splitScript : List Char → List (List Char)
  | [] => [[]]
  | ';' :: '\n' :: cs => [] :: splitScript cs
  | c :: cs =>
    match splitScript cs with
    | [] => [[c]]
    | part :: parts => (c :: part) :: parts

/-- Texts with a semicolon and an end of a line after each. -/
def terminated (texts : List (List Char)) : List Char :=
  texts.flatMap (· ++ [';', '\n'])

theorem terminated_cons (text : List Char) (texts : List (List Char)) :
    terminated (text :: texts) = text ++ ';' :: '\n' :: terminated texts := by
  simp [terminated]

/-- The part before the first terminator comes first. -/
theorem splitScript_append {text : List Char} (h : ';' ∉ text) (cs : List Char) :
    splitScript (text ++ ';' :: '\n' :: cs) = text :: splitScript cs := by
  induction text with
  | nil => rfl
  | cons c text ih =>
    obtain ⟨hne, htext⟩ := not_or.mp (List.mem_cons.not.mp h)
    rw [List.cons_append, splitScript, ih htext]
    intro _ hsemicolon
    exact absurd hsemicolon.symm hne

variable {texts : List (List Char)}

/-- The texts are what the terminators separate. -/
theorem splitScript_terminated (h : ∀ text ∈ texts, ';' ∉ text) :
    splitScript (terminated texts) = texts ++ [[]] := by
  induction texts with
  | nil => rfl
  | cons text texts ih =>
    obtain ⟨htext, htexts⟩ := List.forall_mem_cons.mp h
    rw [terminated_cons, splitScript_append htext, ih htexts, List.cons_append]

/-- There are as many semicolons as texts. -/
theorem count_terminated (h : ∀ text ∈ texts, ';' ∉ text) :
    (terminated texts).count ';' = texts.length := by
  induction texts with
  | nil => rfl
  | cons text texts ih =>
    obtain ⟨htext, htexts⟩ := List.forall_mem_cons.mp h
    rw [terminated_cons, List.count_append, List.count_eq_zero.mpr htext, List.count_cons_self,
      List.count_cons_of_ne (by decide), ih htexts, List.length_cons, Nat.zero_add]

/-- Each semicolon ends a line. -/
theorem exists_of_terminated_eq (h : ∀ text ∈ texts, ';' ∉ text) {before after : List Char}
    (heq : terminated texts = before ++ ';' :: after) : ∃ rest, after = '\n' :: rest := by
  induction texts generalizing before with
  | nil => simp [terminated] at heq
  | cons text texts ih =>
    obtain ⟨htext, htexts⟩ := List.forall_mem_cons.mp h
    rw [terminated_cons, List.append_eq_append_iff] at heq
    rcases heq with ⟨more, rfl, heq⟩ | ⟨more, rfl, heq⟩
    · -- The semicolon is that of the first text or stands behind it.
      obtain _ | ⟨c, more⟩ := more
      · exact ⟨_, (List.cons.inj heq).2.symm⟩
      · obtain ⟨-, heq⟩ := List.cons.inj heq
        obtain _ | ⟨c', more⟩ := more
        · cases heq
        · exact ih htexts (List.cons.inj heq).2
    · obtain _ | ⟨c, more⟩ := more
      · exact ⟨_, (List.cons.inj heq).2⟩
      · -- It would stand in the first text.
        obtain ⟨rfl, -⟩ := List.cons.inj heq
        exact absurd (List.mem_append_right before List.mem_cons_self) htext

/-- There are never two semicolons side by side. -/
theorem not_infix_terminated (h : ∀ text ∈ texts, ';' ∉ text) :
    ¬[';', ';'] <:+: terminated texts := by
  rintro ⟨before, after, heq⟩
  rw [List.append_assoc] at heq
  obtain ⟨rest, hrest⟩ := exists_of_terminated_eq h heq.symm
  cases hrest

/-! ### Schema statements -/

/-- The statement is closed by a parenthesis, and only a semicolon may stand after it. There is
none before. -/
def IsClosed (sql : String) : Prop :=
  ∃ body, ';' ∉ body.toList ∧ (sql = body ++ ")" ∨ sql = body ++ ");")

theorem unterminated_open (body : String) : unterminated (body ++ ")") = body ++ ")" := by
  simp [unterminated]

theorem unterminated_ended (body : String) : unterminated (body ++ ");") = body ++ ")" := by
  rw [← String.toList_inj]
  simp [unterminated]

/-- A script adds the semicolon to a statement that has none. -/
theorem scriptLine_open (body : String) : scriptLine (body ++ ")") = body ++ ");\n" := by
  have htrim : Text.trimEnd (body ++ ")").toList = body.toList ++ [')'] := by
    rw [String.toList_append]
    exact Text.trimEnd_concat rfl body.toList
  unfold scriptLine
  rw [htrim, List.getLast?_concat, ← String.toList_inj]
  simp

/-- It adds none to a statement that has one. -/
theorem scriptLine_ended (body : String) : scriptLine (body ++ ");") = body ++ ");\n" := by
  have htrim : Text.trimEnd (body ++ ");").toList = (body.toList ++ [')']) ++ [';'] := by
    rw [String.toList_append]
    exact (congrArg Text.trimEnd (by simp)).trans (Text.trimEnd_concat rfl (body.toList ++ [')']))
  unfold scriptLine
  rw [htrim, List.getLast?_concat, ← String.toList_inj]
  simp

variable {sql : String}

/-- Without the semicolon at its end the statement has none. -/
theorem IsClosed.not_mem_unterminated (h : IsClosed sql) : ';' ∉ (unterminated sql).toList := by
  obtain ⟨body, hbody, rfl | rfl⟩ := h
  · simp [unterminated_open, hbody]
  · simp [unterminated_ended, hbody]

/-- The semicolon can be its last character only. -/
theorem IsClosed.not_mem_dropLast (h : IsClosed sql) : ';' ∉ sql.toList.dropLast := by
  obtain ⟨body, hbody, rfl | rfl⟩ := h
  · simp [hbody]
  · rw [String.toList_append, List.dropLast_append_of_ne_nil (by decide)]
    simp [hbody]

/-- Its line in a script is the statement without the semicolon, and a semicolon. -/
theorem IsClosed.scriptLine_eq (h : IsClosed sql) : scriptLine sql = unterminated sql ++ ";\n" := by
  obtain ⟨body, -, rfl | rfl⟩ := h
  · rw [scriptLine_open, unterminated_open, String.append_assoc]
    rfl
  · rw [scriptLine_ended, unterminated_ended, String.append_assoc]
    rfl

variable {d : Dialect} {t : Table}

/-- `CREATE TABLE` is closed. -/
theorem isClosed_createTable (ht : t.Unbroken ';') (d : Dialect) :
    IsClosed (Sql.createTable d t) := by
  refine ⟨"CREATE TABLE IF NOT EXISTS " ++ t.name ++ " ("
    ++ String.join ((definitionLines d t.fields).map ("\n" ++ ·)) ++ "\n", ?_, Or.inr ?_⟩
  · simpa [ht.name] using Sql.not_mem_definitionLines (Or.inr rfl) d ht.fields
  · have hend : "\n);" = "\n" ++ ");" := rfl
    rw [Sql.createTable_eq, Sql.tableBody, hend, ← String.append_assoc, ← String.append_assoc]

/-- `CREATE INDEX` is closed. -/
theorem isClosed_createIndex (ht : t.Unbroken ';') (d : Dialect) {ix : Index}
    (hix : ix ∈ t.indexes) : IsClosed (Sql.createIndex d t ix) := by
  have hcolumns := ht.not_mem_indexColumns (by decide) hix
  refine ⟨"CREATE " ++ (if ix.unique then "UNIQUE INDEX " else "INDEX ") ++ d.indexGuard ++ ix.name
    ++ " ON " ++ t.name ++ " (" ++ columnList ix.fields, ?_, ?_⟩
  · cases ix.unique <;> cases d <;>
      simp [Dialect.indexGuard, ht.name, ht.indexNames ix hix, hcolumns]
  · cases d
    · exact Or.inl String.append_empty
    · exact Or.inl String.append_empty
    · refine Or.inr ?_
      rw [Sql.createIndex, String.append_assoc]
      rfl

/-- `ALTER TABLE` is closed. -/
theorem isClosed_addForeignKey (ht : t.Unbroken ';') {k : ForeignKey} (hk : k ∈ t.foreignKeys) :
    IsClosed (Sql.addForeignKey t k) := by
  have hcolumns := ht.not_mem_keyColumns (by decide) hk
  refine ⟨_, ?_, Or.inr rfl⟩
  simpa [ht.name, ht.toTables k hk] using hcolumns

/-- Every schema statement of a catalog is closed. -/
theorem isClosed_of_mem_schema (ht : t.Unbroken ';') {c : Catalog} (hc : build d t = .ok c)
    {s : Statement} (hs : s ∈ c.schema) : IsClosed s.sql := by
  obtain ⟨hmem, hkind⟩ := List.mem_filter.mp hs
  obtain ⟨o, ho, hgives⟩ := exists_offer_of_mem_build hc hmem
  have hcreate : o ∈ creates d t :=
    mem_creates_iff.mpr ⟨ho, hgives.kind ▸ of_decide_eq_true hkind⟩
  rw [hgives.sql]
  rcases List.mem_append.mp hcreate with hcreate | hcreate
  · rcases List.mem_cons.mp hcreate with rfl | hcreate
    · exact isClosed_createTable ht d
    · obtain ⟨ix, hix, rfl⟩ := List.mem_map.mp hcreate
      exact isClosed_createIndex ht d hix
  · obtain ⟨k, hk, rfl⟩ := List.mem_map.mp hcreate
    exact isClosed_addForeignKey ht hk

/-- The schema script of a loaded table whose name has no semicolon. Each schema statement has a
semicolon at its very end at most. The script is the statements in the order of the catalog, each
without that semicolon, with a semicolon and an end of a line after it, whether or not the
statement had one. So the script has as many semicolons as schema statements, never two side by
side, and what stands between them at the ends of lines is the schema statements, followed by
nothing. -/
theorem schemaScript_cuts {tree : Record.Tree} {t : Table} (ht : Table.IsLoaded tree t)
    (hname : ';' ∉ t.name.toList) {d : Dialect} {c : Catalog} (hc : build d t = .ok c) :
    let statements := c.schema.map fun s => unterminated s.sql
    (∀ s ∈ c.schema, ';' ∉ s.sql.toList.dropLast) ∧
    c.schemaScript = String.join (statements.map (· ++ ";\n")) ∧
    c.schemaScript.toList.count ';' = c.schema.length ∧
    ¬[';', ';'] <:+: c.schemaScript.toList ∧
    splitScript c.schemaScript.toList = statements.map String.toList ++ [[]] := by
  intro statements
  have hunbroken : t.Unbroken ';' := by
    rw [ht.eq_load] at hname ⊢
    exact Table.unbroken_load (Or.inr rfl) hname fun h => absurd h (by decide)
  have hclosed : ∀ s ∈ c.schema, IsClosed s.sql := fun s => isClosed_of_mem_schema hunbroken hc
  have hscript : c.schemaScript = String.join (statements.map (· ++ ";\n")) := by
    rw [schemaScript, List.map_map]
    exact congrArg String.join (List.map_congr_left fun s hs => (hclosed s hs).scriptLine_eq)
  have hterminated : c.schemaScript.toList = terminated (statements.map String.toList) := by
    rw [hscript, terminated, List.flatMap_map]
    simp [List.flatMap_map]
  have hfree : ∀ text ∈ statements.map String.toList, ';' ∉ text := by
    refine List.forall_mem_map.mpr (List.forall_mem_map.mpr fun s hs => ?_)
    exact (hclosed s hs).not_mem_unterminated
  refine ⟨fun s hs => (hclosed s hs).not_mem_dropLast, hscript, ?_, ?_, ?_⟩
  · rw [hterminated, count_terminated hfree, List.length_map, List.length_map]
  · rw [hterminated]
    exact not_infix_terminated hfree
  · rw [hterminated]
    exact splitScript_terminated hfree

/-- A record with an index, and with a reference to another table. -/
def post : Record.Tree :=
  ((Record.Tree.new "Post" "Post").push 0
    { name := "Title", kind := .string, typeName := "string"
      tags := some { index := some "by_title" } }).push 0
    { name := "Author", kind := .int64, typeName := "int64"
      tags := some { foreign := some "ID@users" } }

/-- The script of SQLite, whose `CREATE INDEX` has no semicolon of its own, has one for each of
the three statements. -/
theorem schemaScript_cuts_post :
    let t := (Table.load post).table
    Table.IsLoaded post t ∧ ';' ∉ t.name.toList ∧
    ∃ c, build .sqlite t = .ok c ∧ c.schema.length = 3 ∧
      c.schemaScript.toList.count ';' = 3 := by
  intro t
  have hloaded : Table.IsLoaded post t := Or.inl rfl
  have hname : ';' ∉ t.name.toList := by decide +kernel
  have hlength : (build .sqlite t).toOption.map (·.schema.length) = some 3 := by decide +kernel
  refine ⟨hloaded, hname, ?_⟩
  cases hc : build .sqlite t with
  | error clash =>
    rw [hc] at hlength
    cases hlength
  | ok c =>
    rw [hc] at hlength
    have hthree : c.schema.length = 3 := Option.some.inj hlength
    exact ⟨c, rfl, hthree, (schemaScript_cuts hloaded hname hc).2.2.1.trans hthree⟩

end RecordSql.Catalog
