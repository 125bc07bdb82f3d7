import RecordSql.Proofs.Accounts
import RecordSql.Table.Load

/-!
# `RecordSql.Proofs.Schema`: what the schema script of a table holds

A table calls for its own `CREATE TABLE`, for one `CREATE INDEX` for each index and for one
`ALTER TABLE` for each foreign key: these are its `creates`. Their labels are made of the name
that is created alone, in camel case, so two of them can have the same label although no two
names are equal. The script then lacks one of them, as `schema_misses_index` shows.

`schema_eq_firstOfLabel` says exactly what the script of any table holds: of the creates that
share a label the first one. A create that is missing has left a warning. No query takes a label
away from a create, because their labels begin with other verbs (`Draft.mem_labels_iff`). So a
draft adds a create exactly if no create before it has its label (`Draft.schema_take`).
-/

set_option autoImplicit false

namespace RecordSql.Catalog

/-! ### Creates -/

/-- The statement of an offer under its first label. -/
def Offer.statement (o : Offer) : Statement :=
  ⟨Identifier.label o.label, o.kind, o.sql⟩

@[simp]
theorem Offer.label_statement (o : Offer) : o.statement.label = Identifier.label o.label := by
  rw [statement]

/-- An offer that changes the schema has one label only. -/
theorem Offer.Formed.labels_of_schema {o : Offer} (ho : o.Formed) (hkind : o.kind = .schema) :
    o.labels = [o.statement.label] := by
  unfold labels
  rw [ho.qualifier hkind, Option.map_none, Option.toList_none, label_statement]

/-- The offers that change the schema: the table, its indexes and its foreign keys. -/
def creates (d : Sql.Dialect) (t : Table) : List Offer :=
  .create (entityOf t.name) (Sql.createTable d t) ::
    t.indexes.map (fun ix => .create ix.name (Sql.createIndex d t ix)) ++
    t.foreignKeys.map fun k => .create (entityOf k.name) (Sql.addForeignKey t k)

/-- The statements whose label no earlier one has. -/
def firstOfLabel : List Statement → List Statement
  | [] => []
  | s :: ss => s :: (firstOfLabel ss).filter (·.label ≠ s.label)

variable {d : Sql.Dialect} {t : Table}

/-- The creates are the offers that change the schema. -/
theorem filter_schema_allOffers :
    (allOffers d t).filter (·.kind = .schema) = creates d t := by
  have hprimary : (primaryOffers d t (entityOf t.name)).filter (·.kind = .schema) = [] := by
    unfold primaryOffers
    split <;> rfl
  have hindex : ∀ ix, (indexOffers d t (entityOf t.name) ix).filter (·.kind = .schema)
      = [.create ix.name (Sql.createIndex d t ix)] := by
    intro ix
    unfold indexOffers
    split <;> rfl
  have hkey : ∀ k, (offersOfKey d t k).filter (·.kind = .schema)
      = [.create (entityOf k.name) (Sql.addForeignKey t k)] := by
    intro k
    unfold offersOfKey foreignKeyOffers
    split <;> rfl
  unfold allOffers creates
  rw [List.filter_append, List.filter_append, List.filter_append, hprimary, List.filter_flatMap,
    List.filter_flatMap, List.map_eq_flatMap, List.map_eq_flatMap]
  simp only [hindex, hkey]
  rfl

/-! ### The first statement of each label -/

/-- A statement is a first one if looking its label up gives it. -/
theorem mem_firstOfLabel_iff {ss : List Statement} {s : Statement} :
    s ∈ firstOfLabel ss ↔ ss.find? (·.label == s.label) = some s := by
  induction ss with
  | nil => simp [firstOfLabel]
  | cons a ss ih =>
    rw [firstOfLabel, List.mem_cons, List.mem_filter, ih, List.find?_cons]
    by_cases hlabel : a.label = s.label
    · simp [hlabel, eq_comm]
    · have hne : s ≠ a := fun h => hlabel (congrArg Statement.label h).symm
      rw [beq_false_of_ne hlabel]
      simp [hne, Ne.symm hlabel]

/-- A statement that is not a first one comes after another that has its label and is one. -/
theorem mem_firstOfLabel_or_earlier (before : List Statement) (s : Statement)
    (after : List Statement) :
    s ∈ firstOfLabel (before ++ s :: after) ∨
    ∃ e ∈ before, e.label = s.label ∧ e ≠ s ∧ e ∈ firstOfLabel (before ++ s :: after) := by
  have hfirst : (before ++ s :: after).find? (·.label == s.label)
      = (before.find? (·.label == s.label)).or (some s) := by
    rw [List.find?_append, List.find?_cons, beq_self_eq_true]
  cases hfound : before.find? (·.label == s.label) with
  | none =>
    left
    rw [mem_firstOfLabel_iff, hfirst, hfound, Option.none_or]
  | some e =>
    have hlabel : e.label = s.label := by simpa using List.find?_some hfound
    have hmem : e ∈ firstOfLabel (before ++ s :: after) := by
      rw [mem_firstOfLabel_iff, hlabel, hfirst, hfound, Option.some_or]
    by_cases hsame : e = s
    · left
      rwa [hsame] at hmem
    · exact Or.inr ⟨e, List.mem_of_find?_eq_some hfound, hlabel, hsame, hmem⟩

/-- Every label is that of a first statement. -/
theorem mem_labels_firstOfLabel_iff {ss : List Statement} {label : String} :
    label ∈ (firstOfLabel ss).map (·.label) ↔ label ∈ ss.map (·.label) := by
  induction ss with
  | nil => rfl
  | cons a ss ih =>
    by_cases hlabel : label = a.label
    · simp [firstOfLabel, hlabel]
    · have hfilter : label ∈ ((firstOfLabel ss).filter (·.label ≠ a.label)).map (·.label)
          ↔ label ∈ (firstOfLabel ss).map (·.label) := by
        simp only [List.mem_map, List.mem_filter, decide_eq_true_iff]
        constructor
        · rintro ⟨s, ⟨hs, -⟩, hsl⟩
          exact ⟨s, hs, hsl⟩
        · rintro ⟨s, hs, rfl⟩
          exact ⟨s, ⟨hs, hlabel⟩, rfl⟩
      rw [firstOfLabel, List.map_cons, List.map_cons, List.mem_cons, List.mem_cons, hfilter, ih]

/-- One more statement joins the first ones at the end, unless its label is taken. -/
theorem firstOfLabel_concat (ss : List Statement) (s : Statement) :
    firstOfLabel (ss ++ [s])
      = if s.label ∈ ss.map (·.label) then firstOfLabel ss else firstOfLabel ss ++ [s] := by
  induction ss with
  | nil => rfl
  | cons a ss ih =>
    rw [List.cons_append, firstOfLabel, firstOfLabel, ih, List.map_cons]
    by_cases hmem : s.label ∈ ss.map (·.label)
    · rw [if_pos hmem, if_pos (List.mem_cons_of_mem _ hmem)]
    · rw [if_neg hmem, List.filter_append]
      by_cases hlabel : s.label = a.label
      · simp [hlabel]
      · simp [hlabel, hmem]

/-- If all labels are distinct, all statements are first ones. -/
theorem firstOfLabel_eq_self {ss : List Statement} (h : (ss.map (·.label)).Nodup) :
    firstOfLabel ss = ss := by
  induction ss with
  | nil => rfl
  | cons a ss ih =>
    obtain ⟨ha, hss⟩ := List.nodup_cons.mp h
    rw [firstOfLabel, ih hss, List.filter_eq_self.mpr]
    intro s hs
    have hne : s.label ≠ a.label := fun hlabel => ha (List.mem_map.mpr ⟨s, hs, hlabel⟩)
    exact decide_eq_true hne

/-! ### The schema of a draft -/

/-- The statements of the offers that change the schema. -/
def schemaStatements (os : List Offer) : List Statement :=
  (os.filter (·.kind = .schema)).map Offer.statement

namespace Draft

variable {name : String} {os : List Offer} {r : Draft} {o : Offer}

/-- Only a statement that changes the schema can have the label of one. -/
theorem mem_labels_iff (h : Accounts name os r)
    (hs : r.toCatalog.schema = firstOfLabel (schemaStatements os)) (ho : o.Formed)
    (hkind : o.kind = .schema) :
    o.statement.label ∈ r.statements.map (·.label) ↔
      o.statement.label ∈ (schemaStatements os).map (·.label) := by
  constructor
  · intro hmem
    obtain ⟨s, hsr, hlabel⟩ := List.mem_map.mp hmem
    obtain ⟨p, hp, hgives⟩ := h.exists_offer hsr
    -- The offer of that statement shares a label with `o`, so its kind.
    have hol : s.label ∈ o.labels := by
      rw [ho.labels_of_schema hkind]
      exact List.mem_singleton.mpr hlabel
    have hpkind := ((h.formed p hp).kind_eq_of_mem_labels ho hgives.label hol).trans hkind
    have hpl := hgives.label
    rw [(h.formed p hp).labels_of_schema hpkind, List.mem_singleton] at hpl
    have hpmem : p.statement ∈ schemaStatements os :=
      List.mem_map_of_mem (List.mem_filter.mpr ⟨hp, decide_eq_true hpkind⟩)
    exact List.mem_map.mpr ⟨p.statement, hpmem, hpl.symm.trans hlabel⟩
  · intro hmem
    rw [← mem_labels_firstOfLabel_iff, ← hs] at hmem
    obtain ⟨s, hss, hlabel⟩ := List.mem_map.mp hmem
    exact List.mem_map.mpr ⟨s, List.mem_of_mem_filter hss, hlabel⟩

/-- A query adds nothing to the schema. -/
theorem schema_take_of_query (r : Draft) (hkind : o.kind = .query) :
    (r.take o).toCatalog.schema = r.toCatalog.schema := by
  rcases r.take_cases o with ⟨label, -, -, he⟩ | ⟨label, -, s, -, -, he⟩ | ⟨-, he⟩
  · simp [he, toCatalog, add, Catalog.schema, hkind]
  · rw [he]
  · rw [he]
    rfl

/-- A statement that changes the schema joins it, unless its label is taken. -/
theorem schema_take_of_schema (h : Accounts name os r) (ho : o.Formed)
    (hkind : o.kind = .schema) :
    (r.take o).toCatalog.schema
      = if o.statement.label ∈ r.statements.map (·.label) then r.toCatalog.schema
        else r.toCatalog.schema ++ [o.statement] := by
  have hlabels := ho.labels_of_schema hkind
  rcases r.take_cases o with
    ⟨label, hlabel, hfree, he⟩ | ⟨label, hlabel, s, hs, -, he⟩ | ⟨htaken, he⟩ <;> rw [he]
  · rw [hlabels, List.mem_singleton] at hlabel
    rw [h.placed.holder?_eq_none_iff, hlabel] at hfree
    rw [if_neg hfree, hlabel]
    simp [toCatalog, add, Catalog.schema, hkind, Offer.statement]
  · rw [hlabels, List.mem_singleton] at hlabel
    obtain ⟨hs, hsl⟩ := h.placed.holder?_eq_some_iff.mp hs
    rw [if_pos (List.mem_map.mpr ⟨s, hs, hsl.trans hlabel⟩)]
  · obtain ⟨s, hs, -⟩ := htaken o.statement.label (by simp [hlabels])
    rw [if_pos (List.mem_map.mpr ⟨s, h.placed.holder?_eq_some_iff.mp hs⟩)]
    simp [toCatalog, drop, Catalog.schema]

/-- With one more offer, the schema still has the first statement of each label. -/
theorem schema_take (h : Accounts name os r)
    (hs : r.toCatalog.schema = firstOfLabel (schemaStatements os)) (ho : o.Formed) :
    (r.take o).toCatalog.schema = firstOfLabel (schemaStatements (os ++ [o])) := by
  cases hkind : o.kind with
  | query =>
    have hsame : schemaStatements (os ++ [o]) = schemaStatements os := by
      simp [schemaStatements, hkind]
    rw [schema_take_of_query r hkind, hsame, hs]
  | schema =>
    have hconcat : schemaStatements (os ++ [o]) = schemaStatements os ++ [o.statement] := by
      simp [schemaStatements, hkind]
    rw [schema_take_of_schema h ho hkind, hconcat, firstOfLabel_concat, hs]
    simp only [mem_labels_iff h hs ho hkind]

/-- So it has with any number of offers. -/
theorem schema_foldl (h : Accounts name os r)
    (hs : r.toCatalog.schema = firstOfLabel (schemaStatements os)) {ps : List Offer}
    (hps : ∀ p ∈ ps, p.Formed) :
    (ps.foldl take r).toCatalog.schema = firstOfLabel (schemaStatements (os ++ ps)) := by
  induction ps generalizing os r with
  | nil => rwa [List.append_nil]
  | cons o ps ih =>
    obtain ⟨ho, hps⟩ := List.forall_mem_cons.mp hps
    rw [List.append_cons, List.foldl_cons]
    exact ih (accounts_take h ho) (schema_take h hs ho) hps

end Draft

/-! ### The schema of a table -/

/-- The schema of a finished draft has the first create of each label. -/
theorem schema_finished (d : Sql.Dialect) (t : Table) :
    (finished d t).toCatalog.schema = firstOfLabel ((creates d t).map Offer.statement) := by
  have hschema := Draft.schema_foldl (Draft.accounts_nil t.name) rfl
    fun _ => formed_of_mem_allOffers (d := d) (t := t)
  rw [List.nil_append, schemaStatements, filter_schema_allOffers] at hschema
  exact hschema

/-- A create is an offer that changes the schema. -/
theorem mem_creates_iff {o : Offer} :
    o ∈ creates d t ↔ o ∈ allOffers d t ∧ o.kind = .schema := by
  rw [← filter_schema_allOffers, List.mem_filter, decide_eq_true_iff]

/-- A create that is not in the schema is one whose label an earlier create with another text
has taken, and a warning says so. -/
theorem mem_schema_or_earlier {before after : List Offer} {o : Offer}
    (h : creates d t = before ++ o :: after) :
    o.statement ∈ (finished d t).toCatalog.schema ∨
    ∃ p ∈ before, p.statement.label = o.statement.label ∧ p.sql ≠ o.sql ∧
      p.statement ∈ (finished d t).toCatalog.schema ∧
      o.warning t.name ∈ (finished d t).dropped := by
  have haccounts := accounts_finished d t
  have hmap : (creates d t).map Offer.statement
      = before.map Offer.statement ++ o.statement :: after.map Offer.statement := by
    rw [h, List.map_append, List.map_cons]
  obtain ⟨ho, hokind⟩ := mem_creates_iff.mp (by simp [h] : o ∈ creates d t)
  rw [schema_finished, hmap]
  rcases mem_firstOfLabel_or_earlier (before.map Offer.statement) o.statement
    (after.map Offer.statement) with hmem | ⟨e, he, hlabel, hne, hmem⟩
  · exact Or.inl hmem
  · obtain ⟨p, hp, hpe⟩ := List.mem_map.mp he
    obtain ⟨-, hpkind⟩ := mem_creates_iff.mp (by simp [h, hp] : p ∈ creates d t)
    rw [← hpe] at hlabel hne hmem
    have hsql : p.sql ≠ o.sql := by
      intro hsql
      refine hne ?_
      rw [Offer.label_statement, Offer.label_statement] at hlabel
      rw [Offer.statement, Offer.statement, hlabel, hpkind, hokind, hsql]
    refine Or.inr ⟨p, hp, hlabel, hsql, hmem, ?_⟩
    rw [haccounts.dropped]
    refine List.mem_map_of_mem (List.mem_filter.mpr ⟨ho, decide_eq_true ?_⟩)
    -- Its only label belongs to the earlier create.
    rintro ⟨s, hs, hgives⟩
    have hsl := hgives.label
    rw [(haccounts.formed o ho).labels_of_schema hokind, List.mem_singleton] at hsl
    rw [← hmap, ← schema_finished] at hmem
    have heq := List.inj_on_of_nodup_map haccounts.placed.nodup hs
      (List.mem_of_mem_filter hmem) (hsl.trans hlabel.symm)
    rw [heq] at hgives
    exact hsql hgives.sql

/-- What the schema script of a table holds. The schema statements are the first create of each
label, in the order of the creates, and the script is their lines. `CREATE TABLE` is always the
first of them. The statement of every other create is there too, unless an earlier create with
another text has the same label; then the statement of that one is there, and a warning names
the label. If all labels are distinct, the script has everything: the table, all indexes and
all foreign keys. -/
theorem schema_eq_firstOfLabel (d : Sql.Dialect) (t : Table) :
    match draft d t with
    | .error clash => build d t = .error clash ∧ ¬HasEntities t
    | .ok r =>
      build d t = .ok r.toCatalog ∧
      r.toCatalog.schema = firstOfLabel ((creates d t).map Offer.statement) ∧
      r.toCatalog.schemaScript = String.join
        ((firstOfLabel ((creates d t).map Offer.statement)).map fun s => scriptLine s.sql) ∧
      r.toCatalog.schema.head? = some ⟨Identifier.label ["create", entityOf t.name, Offer.ending],
        .schema, Sql.createTable d t⟩ ∧
      (∀ before o after, creates d t = before ++ o :: after →
        o.statement ∈ r.toCatalog.schema ∨
        ∃ p ∈ before, p.statement.label = o.statement.label ∧ p.sql ≠ o.sql ∧
          p.statement ∈ r.toCatalog.schema ∧ o.warning t.name ∈ r.dropped) ∧
      (((creates d t).map (·.statement.label)).Nodup →
        r.toCatalog.schema = (creates d t).map Offer.statement) := by
  cases hdraft : draft d t with
  | error clash => exact build_eq_error hdraft
  | ok r =>
    obtain ⟨hhas, rfl⟩ := draft_eq_ok_iff.mp hdraft
    refine ⟨build_eq_ok_iff.mpr ⟨hhas, rfl⟩, schema_finished d t, ?_, ?_, ?_, ?_⟩
    · rw [schemaScript, schema_finished]
    · rw [schema_finished, creates, List.cons_append, List.map_cons, firstOfLabel, List.head?_cons,
        Offer.statement, Offer.create]
    · intro before o after h
      exact mem_schema_or_earlier h
    · intro hnodup
      rw [schema_finished]
      refine firstOfLabel_eq_self ?_
      rwa [List.map_map]

open RecordSql.Record (Tree)

/-- A record with two indexes whose names differ, but not in camel case. -/
def twins : Tree :=
  let field (name index : String) : Record.Node :=
    { name, kind := .string, typeName := "string", tags := some { index := some index } }
  ((Tree.new "User" "User").push 0 (field "A" "by_a")).push 0 (field "B" "byA")

/-- The script of such a record lacks an index of its table. -/
theorem schema_misses_index :
    ∃ c, build .sqlite (Table.load twins).table = .ok c ∧
      ∃ ix ∈ (Table.load twins).table.indexes,
        ∀ s ∈ c.schema, s.sql ≠ Sql.createIndex .sqlite (Table.load twins).table ix := by
  have hmiss : (build .sqlite (Table.load twins).table).toOption.map (fun c =>
      (Table.load twins).table.indexes.any fun ix => c.schema.all fun s =>
        s.sql ≠ Sql.createIndex .sqlite (Table.load twins).table ix) = some true := by
    decide +kernel
  cases hc : build .sqlite (Table.load twins).table with
  | error clash =>
    rw [hc] at hmiss
    cases hmiss
  | ok c =>
    rw [hc] at hmiss
    have hany := Option.some.inj hmiss
    refine ⟨c, rfl, ?_⟩
    simpa using hany

end RecordSql.Catalog
