import Mathlib.Data.List.Nodup
import RecordSql.Proofs.Labels
import RecordSql.Proofs.SharedLabels

/-!
# `RecordSql.Proofs.BaseStatements`: what every catalog begins with

An offer without a qualifier is lost if its label belongs to another text, and those of the table
itself and of its primary key have no qualifier. They are not lost, because they come first and
because no two of them have the same label. The second part is not plain from the segments: names
stand between them, and camel case may join or cut words wherever a name ends.

* `label_inj`: labels of one entity tell the verb and the segment after the entity, whatever the
  entity is.
* `nodup_labels`: hence the eight labels are distinct for all entities and keys.
* `Draft.statements_foldl_of_nodup`: offers with new labels are added as they are, and
  `Draft.prefix_foldl`: no later offer changes what is there.

`build_begins` puts this together. What it leaves open is whether there is a catalog at all: it
takes names that have entities, and `no_statements_of_clash` is a table without them.
-/

set_option autoImplicit false

namespace RecordSql.Catalog

open RecordSql.Identifier (IsWord exists_reads)
open RecordSql.Text (camelAfter upperCamelChars)

/-! ### Labels of one entity -/

/-- The verbs with which labels begin. -/
def labelVerbs : List String :=
  verbs .schema ++ verbs .query

/-- They are words of the same length. -/
theorem word_of_mem_labelVerbs {verb : String} (h : verb ∈ labelVerbs) :
    IsWord verb ∧ verb.toList.length = 6 :=
  (List.mem_append.mp h).elim word_of_mem_verbs word_of_mem_verbs

/-- What can follow the entity begins in its own way, in either form. -/
theorem next_eq_of_form {entity : String} {stem : List Char} {form : String → List Char}
    (h : Identifier.Reads entity stem form) {next next' : String}
    (hnext : next ∈ joints ++ [Offer.ending]) (hnext' : next' ∈ joints ++ [Offer.ending])
    {r r' : List Char} (heq : form next ++ r = form next' ++ r') : next = next' := by
  have hupper : ∀ s ∈ joints ++ [Offer.ending], ∀ s' ∈ joints ++ [Offer.ending],
      upperCamelChars s.toList <+: upperCamelChars s'.toList → s = s' := by
    decide +kernel
  have hlower : ∀ s ∈ joints ++ [Offer.ending], ∀ s' ∈ joints ++ [Offer.ending],
      s.toList <+: s'.toList → s = s' := by
    decide +kernel
  -- Whatever comes after them, one of the two begins the other, and this happens to no two of them.
  have hor : form next <+: form next' ∨ form next' <+: form next :=
    List.prefix_or_prefix_of_prefix (List.prefix_append _ r) (heq ▸ List.prefix_append _ r')
  rcases h.isForm with rfl | rfl
  · rcases hor with hpre | hpre
    · exact hupper next hnext next' hnext' hpre
    · exact (hupper next' hnext' next hnext hpre).symm
  · rcases hor with hpre | hpre
    · exact hlower next hnext next' hnext' hpre
    · exact (hlower next' hnext' next hnext hpre).symm

/-- Equal labels of one entity begin with the same verb and go on after the entity with the same
segment. -/
theorem label_inj {entity verb verb' next next' : String} {segments segments' : List String}
    (hverb : verb ∈ labelVerbs) (hverb' : verb' ∈ labelVerbs) (hfollows : Follows next segments)
    (hfollows' : Follows next' segments')
    (h : Identifier.label (verb :: entity :: next :: segments) =
      Identifier.label (verb' :: entity :: next' :: segments')) :
    verb = verb' ∧ next = next' := by
  obtain ⟨hword, hlength⟩ := word_of_mem_labelVerbs hverb
  obtain ⟨hword', hlength'⟩ := word_of_mem_labelVerbs hverb'
  obtain ⟨stem, form, hreads⟩ := exists_reads entity
  rw [← String.toList_inj,
    hreads.reads _ _ hword hfollows.isWord _ hfollows.getLast?,
    hreads.reads _ _ hword' hfollows'.isWord _ hfollows'.getLast?] at h
  -- All verbs are of the same length, and the stem depends on the entity only.
  obtain ⟨hv, hrest⟩ := List.append_inj h (hlength.trans hlength'.symm)
  exact ⟨String.toList_inj.mp hv,
    next_eq_of_form hreads hfollows.mem hfollows'.mem (List.append_cancel_left hrest)⟩

/-! ### Base statements -/

/-- The labels of the statements that every table has. -/
def baseLabels (entity : String) : List String :=
  [Identifier.label ["create", entity, "stmt"], Identifier.label ["insert", entity, "stmt"],
    Identifier.label ["select", entity, "stmt"], Identifier.label ["select", entity, "range", "stmt"],
    Identifier.label ["select", entity, "count", "stmt"]]

/-- The labels of the statements by the primary key. -/
def keyLabels (entity key : String) : List String :=
  [Identifier.label ["select", entity, "by", key, "stmt"],
    Identifier.label ["update", entity, "by", key, "stmt"],
    Identifier.label ["delete", entity, "by", key, "stmt"]]

/-- What stands around the entity in these labels. -/
def labelShapes (key : String) : List (String × String × List String) :=
  [("create", "stmt", []), ("insert", "stmt", []), ("select", "stmt", []),
    ("select", "range", ["stmt"]), ("select", "count", ["stmt"]), ("select", "by", [key, "stmt"]),
    ("update", "by", [key, "stmt"]), ("delete", "by", [key, "stmt"])]

/-- All shapes begin with a verb and go on as labels do. -/
theorem follows_of_mem_labelShapes {key : String} {shape : String × String × List String}
    (h : shape ∈ labelShapes key) : shape.1 ∈ labelVerbs ∧ Follows shape.2.1 shape.2.2 := by
  have hcreate : "create" ∈ labelVerbs := by decide
  have hinsert : "insert" ∈ labelVerbs := by decide
  have hselect : "select" ∈ labelVerbs := by decide
  have hupdate : "update" ∈ labelVerbs := by decide
  have hdelete : "delete" ∈ labelVerbs := by decide
  have hby : Follows "by" [key, "stmt"] := .joint (by decide) [key]
  simp only [labelShapes, List.mem_cons, List.not_mem_nil, or_false] at h
  rcases h with rfl | rfl | rfl | rfl | rfl | rfl | rfl | rfl
  · exact ⟨hcreate, .ending⟩
  · exact ⟨hinsert, .ending⟩
  · exact ⟨hselect, .ending⟩
  · exact ⟨hselect, .joint (by decide) []⟩
  · exact ⟨hselect, .joint (by decide) []⟩
  · exact ⟨hselect, hby⟩
  · exact ⟨hupdate, hby⟩
  · exact ⟨hdelete, hby⟩

/-- The eight labels are distinct, whatever the names are. -/
theorem nodup_labels (entity key : String) : (baseLabels entity ++ keyLabels entity key).Nodup := by
  -- A verb and the segment after the entity make up one of the shapes only.
  have hheads : ((labelShapes key).map fun shape => (shape.1, shape.2.1)).Nodup := by
    show [("create", "stmt"), ("insert", "stmt"), ("select", "stmt"), ("select", "range"),
      ("select", "count"), ("select", "by"), ("update", "by"), ("delete", "by")].Nodup
    decide
  have hlabels : baseLabels entity ++ keyLabels entity key = (labelShapes key).map fun shape =>
      Identifier.label (shape.1 :: entity :: shape.2.1 :: shape.2.2) :=
    rfl
  rw [hlabels]
  refine List.Nodup.map_on ?_ hheads.of_map
  intro shape hshape shape' hshape' heq
  obtain ⟨hverb, hfollows⟩ := follows_of_mem_labelShapes hshape
  obtain ⟨hverb', hfollows'⟩ := follows_of_mem_labelShapes hshape'
  obtain ⟨hv, hnext⟩ := label_inj hverb hverb' hfollows hfollows' heq
  exact List.inj_on_of_nodup_map hheads hshape hshape' (Prod.ext hv hnext)

/-! ### Offers with new labels -/

namespace Draft

variable {r : Draft} {o : Offer}

/-- An offer whose label is free is added under it. -/
theorem take_of_free (h : r.holder? (Identifier.label o.label) = none) :
    r.take o = r.add o.statement := by
  unfold take offerAs
  dsimp only
  rw [h, Offer.statement]

/-- An offer leaves the statements before it as they are. -/
theorem prefix_take (r : Draft) (o : Offer) : r.statements <+: (r.take o).statements := by
  rcases r.take_cases o with ⟨label, -, -, he⟩ | ⟨label, -, s, -, -, he⟩ | ⟨-, he⟩
  · rw [he]
    exact List.prefix_append r.statements [_]
  · rw [he]
  · rw [he, drop]

/-- So do any number of offers. -/
theorem prefix_foldl (r : Draft) (os : List Offer) :
    r.statements <+: (os.foldl take r).statements := by
  induction os generalizing r with
  | nil => exact List.prefix_rfl
  | cons o os ih => exact (prefix_take r o).trans (ih (r.take o))

/-- Offers whose labels are new and distinct are all added, in order and under these labels. -/
theorem statements_foldl_of_nodup (h : r.Placed) {os : List Offer}
    (hnew : ((r.statements ++ os.map Offer.statement).map (·.label)).Nodup) :
    (os.foldl take r).statements = r.statements ++ os.map Offer.statement := by
  induction os generalizing r with
  | nil => rw [List.foldl_nil, List.map_nil, List.append_nil]
  | cons o os ih =>
    have hadd : (r.add o.statement).statements = r.statements ++ [o.statement] := by rw [add]
    rw [List.map_cons, List.append_cons, ← hadd] at hnew ⊢
    -- The label is not among those before it, so nothing holds it.
    have hfree : r.holder? o.statement.label = none := by
      rw [h.holder?_eq_none_iff]
      intro hmem
      rw [hadd, List.append_assoc, List.map_append, List.nodup_append] at hnew
      exact hnew.2.2 _ hmem _ List.mem_cons_self rfl
    rw [List.foldl_cons, take_of_free (o.label_statement ▸ hfree), ih (placed_add h hfree) hnew]

end Draft

/-! ### The beginning of a catalog -/

/-- The statements that every table has, each under its base label. -/
def baseStatements (d : Sql.Dialect) (t : Table) (entity : String) : List Statement :=
  [⟨Identifier.label ["create", entity, "stmt"], .schema, Sql.createTable d t⟩,
    ⟨Identifier.label ["insert", entity, "stmt"], .query, Sql.insert d t⟩,
    ⟨Identifier.label ["select", entity, "stmt"], .query, Sql.select d t []⟩,
    ⟨Identifier.label ["select", entity, "range", "stmt"], .query, Sql.selectRange d t []⟩,
    ⟨Identifier.label ["select", entity, "count", "stmt"], .query, Sql.selectCount d t []⟩]

/-- The statements by the primary key, each under its base label. -/
def keyStatements (d : Sql.Dialect) (t : Table) (entity : String) : List Statement :=
  let key := keySegment t.primary
  [⟨Identifier.label ["select", entity, "by", key, "stmt"], .query, Sql.select d t t.primary⟩,
    ⟨Identifier.label ["update", entity, "by", key, "stmt"], .query, Sql.update d t t.primary⟩,
    ⟨Identifier.label ["delete", entity, "by", key, "stmt"], .query, Sql.delete d t t.primary⟩]

/-- What a catalog begins with. -/
def firstStatements (d : Sql.Dialect) (t : Table) (entity : String) : List Statement :=
  baseStatements d t entity ++ if t.primary = [] then [] else keyStatements d t entity

variable {d : Sql.Dialect} {t : Table}

/-- These are the statements of the first offers. -/
theorem map_statement_firstOffers (d : Sql.Dialect) (t : Table) (entity : String) :
    (baseOffers d t entity ++ primaryOffers d t entity).map Offer.statement =
      firstStatements d t entity := by
  rw [List.map_append, firstStatements]
  congr 1
  unfold primaryOffers
  by_cases hkey : t.primary = []
  · rw [if_pos hkey, hkey]
    rfl
  · rw [if_neg hkey, if_neg (by simpa using hkey)]
    rfl

/-- Their labels are distinct. -/
theorem nodup_firstStatements (d : Sql.Dialect) (t : Table) (entity : String) :
    ((firstStatements d t entity).map (·.label)).Nodup := by
  have hbase : (baseStatements d t entity).map (·.label) = baseLabels entity := by
    simp only [baseStatements, baseLabels, List.map_cons, List.map_nil]
  have hkey : (keyStatements d t entity).map (·.label) = keyLabels entity (keySegment t.primary) := by
    simp only [keyStatements, keyLabels, List.map_cons, List.map_nil]
  have hall := nodup_labels entity (keySegment t.primary)
  unfold firstStatements
  rw [List.map_append, hbase]
  split
  · rw [List.map_nil, List.append_nil]
    exact (List.nodup_append.mp hall).1
  · rw [hkey]
    exact hall

/-- A finished draft begins with them. -/
theorem firstStatements_prefix_finished (d : Sql.Dialect) (t : Table) :
    firstStatements d t (entityOf t.name) <+: (finished d t).statements := by
  have hnodup := nodup_firstStatements d t (entityOf t.name)
  rw [← map_statement_firstOffers] at hnodup ⊢
  rw [finished, allOffers, List.append_assoc (baseOffers _ _ _ ++ _), List.foldl_append]
  -- The draft when the offers of indexes and foreign keys begin has just these statements.
  generalize baseOffers d t (entityOf t.name) ++ primaryOffers d t (entityOf t.name) = os at *
  have hfirst := Draft.statements_foldl_of_nodup (Draft.placed_nil t.name) hnodup
  rw [List.nil_append] at hfirst
  rw [← hfirst]
  exact Draft.prefix_foldl _ _

/-- What the catalog of a table begins with, in every dialect.

The eight labels of the statements that a table itself and its primary key call for are distinct,
for all entities and all keys.

A table has a catalog exactly if the names in its labels have entities. The catalog then begins
with the `CREATE TABLE`, the insert and the three selects without a condition, each under its base
label, and if there is a primary key they are followed by the select, the update and the delete by
it. None of these is dropped, passed over or given another label, whatever the names of the columns
are and whatever else the table calls for. -/
theorem build_begins (d : Sql.Dialect) (t : Table) :
    (∀ entity key : String, (baseLabels entity ++ keyLabels entity key).Nodup) ∧
    ((∃ c, build d t = .ok c) ↔ HasEntities t) ∧
    ∀ c, build d t = .ok c → ∃ entity, Identifier.entity t.name = .ok entity ∧
      c.statements.take 5 = baseStatements d t entity ∧
      (t.primary ≠ [] → (c.statements.drop 5).take 3 = keyStatements d t entity) := by
  refine ⟨nodup_labels, ?_, ?_⟩
  · constructor
    · rintro ⟨c, hc⟩
      exact (build_eq_ok_iff.mp hc).1
    · exact fun hhas => ⟨_, build_eq_ok_iff.mpr ⟨hhas, rfl⟩⟩
  · intro c hc
    obtain ⟨hhas, rfl⟩ := build_eq_ok_iff.mp hc
    obtain ⟨entity, hentity⟩ := hhas.table
    obtain ⟨more, hmore⟩ := firstStatements_prefix_finished d t
    rw [entityOf_eq hentity, firstStatements] at hmore
    refine ⟨entity, hentity, ?_, ?_⟩
    · show (finished d t).statements.take 5 = _
      rw [← hmore, List.append_assoc]
      rfl
    · intro hkey
      show ((finished d t).statements.drop 5).take 3 = _
      rw [← hmore, if_neg hkey, List.append_assoc]
      rfl

/-- A table of one column whose name has no entity: the part of the name that would have to keep its
case begins with an accented letter. -/
def reus : Table :=
  { name := "Réus", fields := [{ node := 1, name := "f_id", type := .long }] }

/-- Such a table has no catalog, and so none of the statements that every table has. -/
theorem no_statements_of_clash : ∀ d, ¬∃ c, build d reus = .ok c := by
  intro d
  rintro ⟨c, hc⟩
  obtain ⟨entity, hentity⟩ := (build_eq_ok_iff.mp hc).1.table
  -- A catalog needs the entity, whatever the dialect is.
  have hnone : (Identifier.entity reus.name).toOption = none := by decide +kernel
  rw [hentity] at hnone
  cases hnone

end RecordSql.Catalog
