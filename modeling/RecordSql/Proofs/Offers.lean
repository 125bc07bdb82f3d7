import RecordSql.Catalog.Offer
import RecordSql.Proofs.Actions
import RecordSql.Proofs.Openings

/-!
# `RecordSql.Proofs.Offers`: what a table calls for

Labels contain entities, and a few names have none. `offers_eq_ok_iff` says that offers are
made exactly if all names in the labels have entities, and that they are then `allOffers`,
the list of all that the table, its primary key, its indexes and its foreign keys call for.

Every offer is `Formed`: the letter with which its text begins, the verb with which its label
begins and the ending of the label are those of its kind. So neither a text nor a label can
belong to a schema statement and to a query (`Offer.Formed.kind_eq_of_sql_eq`,
`Offer.Formed.kind_eq_of_mem_labels`).
-/

set_option autoImplicit false

namespace RecordSql.Catalog

/-! ### All offers -/

/-- The entity of a name, or the name itself if it has none. -/
def entityOf (name : String) : String :=
  (Identifier.entity name).toOption.getD name

/-- The entity of a name that has one. -/
theorem entityOf_eq {name entity : String} (h : Identifier.entity name = .ok entity) :
    entityOf name = entity := by
  rw [entityOf, h]
  rfl

/-- The names that stand in the labels of a table have entities. -/
structure HasEntities (t : Table) : Prop where
  table : ∃ entity, Identifier.entity t.name = .ok entity
  targets : ∀ k ∈ t.foreignKeys, ∃ entity, Identifier.entity k.toTable = .ok entity
  keys : ∀ k ∈ t.foreignKeys, ∃ entity, Identifier.entity k.name = .ok entity

section

variable (d : Sql.Dialect) (t : Table)

/-- What a foreign key calls for. -/
def offersOfKey (k : ForeignKey) : List Offer :=
  foreignKeyOffers d t (entityOf t.name) k (entityOf k.toTable) (entityOf k.name)

/-- All that a table calls for, in order. -/
def allOffers : List Offer :=
  baseOffers d t (entityOf t.name) ++ primaryOffers d t (entityOf t.name)
    ++ t.indexes.flatMap (indexOffers d t (entityOf t.name))
    ++ t.foreignKeys.flatMap (offersOfKey d t)

end

variable {d : Sql.Dialect} {t : Table}

/-- If all names have entities, everything is offered that the table calls for. -/
theorem offers_eq_ok (h : HasEntities t) : offers d t = .ok (allOffers d t) := by
  obtain ⟨⟨entity, htable⟩, htargets, hkeys⟩ := h
  -- The foreign keys are gone through one by one, and none of them fails.
  have hofKeys : t.foreignKeys.mapM (fun k => do
      return foreignKeyOffers d t entity k (← Identifier.entity k.toTable)
        (← Identifier.entity k.name)) = .ok (t.foreignKeys.map (offersOfKey d t)) := by
    refine mapM_eq_ok ?_
    intro k hk
    obtain ⟨target, htarget⟩ := htargets k hk
    obtain ⟨own, hown⟩ := hkeys k hk
    rw [offersOfKey, entityOf_eq htable, entityOf_eq htarget, entityOf_eq hown]
    exact bind_eq_ok htarget (bind_eq_ok hown rfl)
  calc offers d t
      = .ok (baseOffers d t entity ++ primaryOffers d t entity
          ++ t.indexes.flatMap (indexOffers d t entity)
          ++ (t.foreignKeys.map (offersOfKey d t)).flatten) :=
        bind_eq_ok htable (bind_eq_ok hofKeys rfl)
    _ = .ok (allOffers d t) := by
        rw [allOffers, entityOf_eq htable, ← List.flatMap_def]

/-- Nothing is offered unless all names have entities. -/
theorem hasEntities_of_offers {os : List Offer} (h : offers d t = .ok os) : HasEntities t := by
  obtain ⟨entity, htable, h⟩ := exists_of_bind_eq_ok h
  obtain ⟨ofKeys, hofKeys, -⟩ := exists_of_bind_eq_ok h
  refine ⟨⟨entity, htable⟩, ?_, ?_⟩
  · intro k hk
    obtain ⟨group, hgroup⟩ := exists_of_mapM_eq_ok hofKeys hk
    obtain ⟨target, htarget, -⟩ := exists_of_bind_eq_ok hgroup
    exact ⟨target, htarget⟩
  · intro k hk
    obtain ⟨group, hgroup⟩ := exists_of_mapM_eq_ok hofKeys hk
    obtain ⟨target, -, hgroup⟩ := exists_of_bind_eq_ok hgroup
    obtain ⟨own, hown, -⟩ := exists_of_bind_eq_ok hgroup
    exact ⟨own, hown⟩

/-- Offers are made exactly if all names have entities. -/
theorem offers_eq_ok_iff {os : List Offer} :
    offers d t = .ok os ↔ HasEntities t ∧ os = allOffers d t := by
  constructor
  · intro h
    have hhas := hasEntities_of_offers h
    rw [offers_eq_ok hhas] at h
    cases h
    exact ⟨hhas, rfl⟩
  · rintro ⟨hhas, rfl⟩
    exact offers_eq_ok hhas

/-- An offer is called for by the table itself, by its primary key, by one of its indexes or
by one of its foreign keys. -/
theorem mem_allOffers {o : Offer} :
    o ∈ allOffers d t ↔ o ∈ baseOffers d t (entityOf t.name) ∨
      o ∈ primaryOffers d t (entityOf t.name) ∨
      (∃ ix ∈ t.indexes, o ∈ indexOffers d t (entityOf t.name) ix) ∨
      ∃ k ∈ t.foreignKeys, o ∈ offersOfKey d t k := by
  unfold allOffers
  simp only [List.mem_append, List.mem_flatMap, or_assoc]

/-! ### The kind of an offer -/

/-- The kind of the statements whose text or label begins with a character. -/
def kindOf (c : Char) : StatementKind :=
  if c ∈ ['C', 'c', 'A'] then .schema else .query

/-- The segments with which the labels of a kind begin. -/
def verbs : StatementKind → List String
  | .schema => ["create"]
  | .query => ["insert", "select", "update", "delete"]

/-- A label whose first segment is a verb begins with a letter of the kind of the verb. -/
theorem begins_label_of_mem_verbs {kind : StatementKind} {verb : String} (h : verb ∈ verbs kind)
    (segments : List String) :
    ∃ c, kindOf c = kind ∧ Begins c (Identifier.label (verb :: segments)) := by
  -- The label may have the uppercase form of the first letter of the verb.
  have hlabel : ∀ c C, Identifier.CasePair c C → Begins c verb → kindOf c = kind →
      kindOf C = kind → ∃ c, kindOf c = kind ∧ Begins c (Identifier.label (verb :: segments)) := by
    intro c C hpair hverb hc hC
    rcases Identifier.begins_label hpair hverb segments with h | h
    · exact ⟨c, hc, h⟩
    · exact ⟨C, hC, h⟩
  cases kind with
  | schema =>
    rw [verbs, List.mem_singleton] at h
    subst h
    exact hlabel 'c' 'C' (by decide) rfl rfl rfl
  | query =>
    simp only [verbs, List.mem_cons, List.not_mem_nil, or_false] at h
    rcases h with rfl | rfl | rfl | rfl
    · exact hlabel 'i' 'I' (by decide) rfl rfl rfl
    · exact hlabel 's' 'S' (by decide) rfl rfl rfl
    · exact hlabel 'u' 'U' (by decide) rfl rfl rfl
    · exact hlabel 'd' 'D' (by decide) rfl rfl rfl

namespace Offer

/-- The labels under which an offer is tried, in this order. -/
def labels (o : Offer) : List String :=
  Identifier.label o.label ::
    (o.qualifier.map fun q => Identifier.label (qualifiedLabel o.label q)).toList

/-- The label under which an offer is tried last. -/
def lastLabel (o : Offer) : String :=
  match o.qualifier with
  | none => Identifier.label o.label
  | some q => Identifier.label (qualifiedLabel o.label q)

/-- The text and the label of an offer are of its kind:

- `text`: the text begins with a letter of the kind;
- `label`: the label begins with a verb of the kind and ends as all labels do;
- `qualifier`: only a query can have a qualifier. -/
structure Formed (o : Offer) : Prop where
  text : ∃ c, kindOf c = o.kind ∧ Begins c o.sql
  label : ∃ verb ∈ verbs o.kind, ∃ segments, o.label = verb :: segments ++ [ending]
  qualifier : o.kind = .schema → o.qualifier = none

theorem formed_create (name : String) {sql : String} {c : Char} (hc : kindOf c = .schema)
    (h : Begins c sql) : (create name sql).Formed where
  text := ⟨c, hc, h⟩
  label := ⟨"create", List.mem_singleton_self _, [name], rfl⟩
  qualifier _ := rfl

theorem formed_query {sql : String} {c : Char} (hc : kindOf c = .query) (h : Begins c sql)
    {verb : String} (hverb : verb ∈ verbs .query) (segments : List String)
    (qualifier : Option String) : (query sql (verb :: segments) qualifier).Formed where
  text := ⟨c, hc, h⟩
  label := ⟨verb, hverb, segments, rfl⟩
  qualifier h := by cases h

/-- The qualifier stands before the ending. -/
theorem qualifiedLabel_concat (segments : List String) (qualifier : String) :
    qualifiedLabel (segments ++ [ending]) qualifier = segments ++ ["via", qualifier, ending] := by
  simp [qualifiedLabel]

/-- All labels of an offer begin with a letter of its kind. -/
theorem Formed.begins_of_mem_labels {o : Offer} (ho : o.Formed) {label : String}
    (h : label ∈ o.labels) : ∃ c, kindOf c = o.kind ∧ Begins c label := by
  obtain ⟨verb, hverb, segments, hlabel⟩ := ho.label
  unfold labels at h
  rw [hlabel] at h
  rcases List.mem_cons.mp h with h | h
  · rw [h, List.cons_append]
    exact begins_label_of_mem_verbs hverb _
  · obtain ⟨q, -, hq⟩ := Option.map_eq_some_iff.mp (Option.mem_toList.mp h)
    rw [← hq, qualifiedLabel_concat, List.cons_append]
    exact begins_label_of_mem_verbs hverb _

/-- Offers of the same text are of the same kind. -/
theorem Formed.kind_eq_of_sql_eq {o p : Offer} (ho : o.Formed) (hp : p.Formed)
    (h : o.sql = p.sql) : o.kind = p.kind := by
  obtain ⟨c, hkind, hc⟩ := ho.text
  obtain ⟨c', hkind', hc'⟩ := hp.text
  rw [h] at hc
  rw [← hkind, ← hkind', hc.eq hc']

/-- Offers that share a label are of the same kind. -/
theorem Formed.kind_eq_of_mem_labels {o p : Offer} (ho : o.Formed) (hp : p.Formed)
    {label : String} (hol : label ∈ o.labels) (hpl : label ∈ p.labels) : o.kind = p.kind := by
  obtain ⟨c, hkind, hc⟩ := ho.begins_of_mem_labels hol
  obtain ⟨c', hkind', hc'⟩ := hp.begins_of_mem_labels hpl
  rw [← hkind, ← hkind', hc.eq hc']

end Offer

open Offer (formed_create formed_query)

/-- Every offer is formed as its kind demands. -/
theorem formed_of_mem_allOffers {o : Offer} (h : o ∈ allOffers d t) : o.Formed := by
  rcases mem_allOffers.mp h with h | h | ⟨ix, -, h⟩ | ⟨k, -, h⟩
  · unfold baseOffers at h
    simp only [List.mem_cons, List.not_mem_nil, or_false] at h
    rcases h with rfl | rfl | rfl | rfl | rfl
    · exact formed_create _ rfl (Sql.begins_createTable d t)
    · exact formed_query rfl (Sql.begins_insert d t) (by decide) _ _
    · exact formed_query rfl (Sql.begins_select d t _) (by decide) _ _
    · exact formed_query rfl (Sql.begins_selectRange d t _) (by decide) _ _
    · exact formed_query rfl (Sql.begins_selectCount d t _) (by decide) _ _
  · unfold primaryOffers at h
    split at h
    · cases h
    · simp only [List.mem_cons, List.not_mem_nil, or_false] at h
      rcases h with rfl | rfl | rfl
      · exact formed_query rfl (Sql.begins_select d t _) (by decide) _ _
      · exact formed_query rfl (Sql.begins_update d t _) (by decide) _ _
      · exact formed_query rfl (Sql.begins_delete d t _) (by decide) _ _
  · unfold indexOffers at h
    rcases List.mem_append.mp h with h | h
    · simp only [List.mem_cons, List.not_mem_nil, or_false] at h
      rcases h with rfl | rfl | rfl
      · exact formed_create _ rfl (Sql.begins_createIndex d t ix)
      · exact formed_query rfl (Sql.begins_select d t _) (by decide) _ _
      · exact formed_query rfl (Sql.begins_selectCount d t _) (by decide) _ _
    · split at h
      · simp only [List.mem_cons, List.not_mem_nil, or_false] at h
        rcases h with rfl | rfl
        · exact formed_query rfl (Sql.begins_update d t _) (by decide) _ _
        · exact formed_query rfl (Sql.begins_delete d t _) (by decide) _ _
      · rw [List.mem_singleton] at h
        subst h
        exact formed_query rfl (Sql.begins_selectRange d t _) (by decide) _ _
  · unfold offersOfKey foreignKeyOffers at h
    rcases List.mem_append.mp h with h | h
    · simp only [List.mem_cons, List.not_mem_nil, or_false] at h
      rcases h with rfl | rfl
      · exact formed_create _ rfl (Sql.begins_addForeignKey t k)
      · exact formed_query rfl (Sql.begins_select d t _) (by decide) _ _
    · split at h
      · rw [List.mem_singleton] at h
        subst h
        exact formed_query rfl (Sql.begins_selectRange d t _) (by decide) _ _
      · cases h

end RecordSql.Catalog
