import RecordSql.Proofs.Fates
import RecordSql.Proofs.Forms

/-!
# `RecordSql.Proofs.Dialects`: catalogs of one table in different dialects

A draft decides about an offer by comparing rendered texts, and these differ from dialect to
dialect: placeholders are numbered in one of them only, and `CREATE INDEX` has words of its own.
`dialects_agree` says that the decisions do not differ. In every dialect the catalog of a loaded
table has the same labels with the same kinds in the same order, leaves the same warnings, and
what becomes of each offer is the same.

The offers of a table are paired between two dialects by their forms (`alike_allOffers`). Two
forms have the same text in one dialect exactly if they have in the other
(`Sql.text_eq_text_iff`), so the pairs respect equality of texts, and the drafts go along with
each other (`Draft.Alike`). If a name has no entity, there is no catalog in any dialect, for the
same reason (`sameError_draft`).
-/

set_option autoImplicit false

namespace RecordSql.Catalog

open RecordSql.Sql (Dialect Form Verb)

/-! ### Failing alike -/

section

variable {α β γ δ ε : Type}

/-- Two actions fail with the same errors. -/
def SameError (x : Except ε α) (y : Except ε β) : Prop :=
  ∀ e, x = .error e ↔ y = .error e

/-- Two actions that give something fail alike. -/
theorem sameError_ok (a : α) (b : β) : SameError (.ok a : Except ε α) (.ok b : Except ε β) := by
  intro e
  constructor <;> intro h <;> cases h

/-- Two actions that fail with an error fail alike. -/
theorem sameError_error (e : ε) :
    SameError (.error e : Except ε α) (.error e : Except ε β) := by
  intro e'
  constructor <;> intro h <;> cases h <;> rfl

/-- Actions fail alike if what follows them does, whatever they give. -/
theorem SameError.bind {x : Except ε α} {y : Except ε β} (h : SameError x y)
    {f : α → Except ε γ} {g : β → Except ε δ} (hfg : ∀ a b, SameError (f a) (g b)) :
    SameError (x >>= f) (y >>= g) := by
  cases x with
  | error e =>
    rw [(h e).mp rfl]
    exact sameError_error e
  | ok a =>
    cases y with
    | error e => cases (h e).mpr rfl
    | ok b => exact hfg a b

/-- After one and the same action they fail alike if what follows does for what it gives. -/
theorem sameError_bind {x : Except ε α} {f : α → Except ε γ} {g : α → Except ε δ}
    (hfg : ∀ a, SameError (f a) (g a)) : SameError (x >>= f) (x >>= g) := by
  cases x with
  | error e => exact sameError_error e
  | ok a => exact hfg a

/-- For a whole list actions fail alike if they do for each member. -/
theorem sameError_mapM {f : α → Except ε γ} {g : α → Except ε δ} {xs : List α}
    (h : ∀ x ∈ xs, SameError (f x) (g x)) : SameError (xs.mapM f) (xs.mapM g) := by
  induction xs with
  | nil => exact sameError_ok [] []
  | cons x xs ih =>
    rw [List.mapM_cons, List.mapM_cons]
    refine (h x List.mem_cons_self).bind ?_
    intro c c'
    refine (ih fun y hy => h y (List.mem_cons_of_mem x hy)).bind ?_
    intro cs cs'
    exact sameError_ok (c :: cs) (c' :: cs')

end

/-- Whether a name has no entity does not depend on the dialect. -/
theorem sameError_offers (d d' : Dialect) (t : Table) : SameError (offers d t) (offers d' t) := by
  refine sameError_bind ?_
  intro entity
  refine SameError.bind (sameError_mapM ?_) fun _ _ => sameError_ok _ _
  intro k _
  refine sameError_bind ?_
  intro target
  refine sameError_bind ?_
  intro own
  exact sameError_ok _ _

/-- So there are drafts in all dialects or in none. -/
theorem sameError_draft (d d' : Dialect) (t : Table) : SameError (draft d t) (draft d' t) := by
  have hoffers := sameError_offers d d' t
  unfold draft
  cases hos : offers d t with
  | error e =>
    rw [(hoffers e).mp hos]
    exact sameError_error e
  | ok os =>
    cases hos' : offers d' t with
    | error e =>
      rw [(hoffers e).mpr hos'] at hos
      cases hos
    | ok os' => exact sameError_ok _ _

/-! ### Offers in two dialects -/

/-- Two texts are those of one statement of a table in two dialects. -/
def Renders (d d' : Dialect) (t : Table) (sql sql' : String) : Prop :=
  ∃ f : Form, f.Legible ∧ sql = f.text d t ∧ sql' = f.text d' t

/-- Texts of statements are equal in one dialect exactly if they are in the other. -/
theorem respects_renders {t : Table} (hfields : ∀ f ∈ t.fields, f.Legible) (d d' : Dialect) :
    Respects (Renders d d' t) := by
  rintro a a' b b' ⟨f, hf, rfl, rfl⟩ ⟨g, hg, rfl, rfl⟩
  exact Sql.text_eq_text_iff hfields hf hg d d'

section

variable {d d' : Dialect} {t : Table} {keys : List Field} (hkeys : ∀ k ∈ keys, k.Legible)
include hkeys

theorem renders_select : Renders d d' t (Sql.select d t keys) (Sql.select d' t keys) :=
  ⟨.query .select keys false, hkeys, Sql.select_eq d t keys, Sql.select_eq d' t keys⟩

theorem renders_selectRange :
    Renders d d' t (Sql.selectRange d t keys) (Sql.selectRange d' t keys) :=
  ⟨.query .select keys true, hkeys, Sql.selectRange_eq d t keys, Sql.selectRange_eq d' t keys⟩

theorem renders_selectCount :
    Renders d d' t (Sql.selectCount d t keys) (Sql.selectCount d' t keys) :=
  ⟨.query .count keys false, hkeys, Sql.selectCount_eq d t keys, Sql.selectCount_eq d' t keys⟩

theorem renders_update : Renders d d' t (Sql.update d t keys) (Sql.update d' t keys) :=
  ⟨.query .update keys false, hkeys, Sql.update_eq_text d t keys, Sql.update_eq_text d' t keys⟩

theorem renders_delete : Renders d d' t (Sql.delete d t keys) (Sql.delete d' t keys) :=
  ⟨.query .delete keys false, hkeys, Sql.delete_eq_text d t keys, Sql.delete_eq_text d' t keys⟩

end

/-- What loaded tables guarantee about their columns and keys. -/
structure LegibleTable (t : Table) : Prop where
  fields : ∀ f ∈ t.fields, f.Legible
  primary : ∀ f ∈ t.primary, f.Legible
  indexes : ∀ ix ∈ t.indexes, ∀ f ∈ ix.fields, f.Legible
  foreignKeys : ∀ k ∈ t.foreignKeys, ∀ f ∈ k.fromFields, f.Legible

theorem legibleTable_load (tree : Record.Tree) : LegibleTable (Table.load tree).table where
  fields _ hf := Table.legible_of_mem_fields hf
  primary _ hf := Table.legible_of_mem_primary hf
  indexes _ hix _ hf := Table.legible_of_mem_index hix hf
  foreignKeys _ hk _ hf := Table.legible_of_mem_foreignKey hk hf

section

variable {R : String → String → Prop} {sql sql' : String}

theorem alike_create (name : String) (h : R sql sql') :
    (Offer.create name sql).Alike R (Offer.create name sql') :=
  ⟨rfl, h, rfl, rfl⟩

theorem alike_query (segments : List String) (qualifier : Option String) (h : R sql sql') :
    (Offer.query sql segments qualifier).Alike R (Offer.query sql' segments qualifier) :=
  ⟨rfl, h, rfl, rfl⟩

end

/-- What two lists call for in order is related if it is for each member. -/
theorem forall₂_flatMap {α β : Type} {S : β → β → Prop} {f g : α → List β} {xs : List α}
    (h : ∀ x ∈ xs, List.Forall₂ S (f x) (g x)) :
    List.Forall₂ S (xs.flatMap f) (xs.flatMap g) := by
  rw [List.flatMap_def, List.flatMap_def]
  refine List.rel_flatten ?_
  rw [List.forall₂_map_left_iff, List.forall₂_map_right_iff]
  exact List.forall₂_same.mpr h

section

variable {t : Table} (ht : LegibleTable t) (d d' : Dialect) (entity : String)

/-- What every table calls for comes in pairs. -/
theorem alike_baseOffers : List.Forall₂ (Offer.Alike (Renders d d' t))
    (baseOffers d t entity) (baseOffers d' t entity) := by
  have hnil : ∀ k ∈ ([] : List Field), k.Legible := fun _ hk => absurd hk List.not_mem_nil
  refine .cons (alike_create _ ⟨.createTable, trivial, rfl, rfl⟩) ?_
  refine .cons (alike_query _ _ ⟨.insert, trivial, rfl, rfl⟩) ?_
  refine .cons (alike_query _ _ (renders_select hnil)) ?_
  refine .cons (alike_query _ _ (renders_selectRange hnil)) ?_
  exact .cons (alike_query _ _ (renders_selectCount hnil)) .nil

include ht

/-- So does what a primary key calls for. -/
theorem alike_primaryOffers : List.Forall₂ (Offer.Alike (Renders d d' t))
    (primaryOffers d t entity) (primaryOffers d' t entity) := by
  unfold primaryOffers
  dsimp only
  split
  · exact .nil
  · refine .cons (alike_query _ _ (renders_select ht.primary)) ?_
    refine .cons (alike_query _ _ (renders_update ht.primary)) ?_
    exact .cons (alike_query _ _ (renders_delete ht.primary)) .nil

/-- So does what an index calls for. -/
theorem alike_indexOffers {ix : Index} (hix : ix ∈ t.indexes) :
    List.Forall₂ (Offer.Alike (Renders d d' t))
      (indexOffers d t entity ix) (indexOffers d' t entity ix) := by
  have hkeys := ht.indexes ix hix
  unfold indexOffers
  dsimp only
  refine List.rel_append ?_ ?_
  · refine .cons (alike_create _ ⟨.createIndex ix, trivial, rfl, rfl⟩) ?_
    refine .cons (alike_query _ _ (renders_select hkeys)) ?_
    exact .cons (alike_query _ _ (renders_selectCount hkeys)) .nil
  · split
    · refine .cons (alike_query _ _ (renders_update hkeys)) ?_
      exact .cons (alike_query _ _ (renders_delete hkeys)) .nil
    · exact .cons (alike_query _ _ (renders_selectRange hkeys)) .nil

/-- So does what a foreign key calls for. -/
theorem alike_offersOfKey {k : ForeignKey} (hk : k ∈ t.foreignKeys) :
    List.Forall₂ (Offer.Alike (Renders d d' t)) (offersOfKey d t k) (offersOfKey d' t k) := by
  have hkeys := ht.foreignKeys k hk
  unfold offersOfKey foreignKeyOffers
  dsimp only
  refine List.rel_append ?_ ?_
  · refine .cons (alike_create _ ⟨.addForeignKey k, trivial, rfl, rfl⟩) ?_
    exact .cons (alike_query _ _ (renders_select hkeys)) .nil
  · split
    · exact .cons (alike_query _ _ (renders_selectRange hkeys)) .nil
    · exact .nil

/-- All that a table calls for comes in pairs of offers that differ in the dialect only. -/
theorem alike_allOffers : List.Forall₂ (Offer.Alike (Renders d d' t))
    (allOffers d t) (allOffers d' t) := by
  unfold allOffers
  refine List.rel_append (List.rel_append (List.rel_append ?_ ?_) ?_) ?_
  · exact alike_baseOffers d d' _
  · exact alike_primaryOffers ht d d' _
  · exact forall₂_flatMap fun ix hix => alike_indexOffers ht d d' _ hix
  · exact forall₂_flatMap fun k hk => alike_offersOfKey ht d d' hk

end

/-! ### Catalogs in two dialects -/

/-- A draft that has taken up nothing is the same in all dialects. -/
theorem alike_nil (R : String → String → Prop) (name : String) :
    ({ table := name } : Draft).Alike R { table := name } where
  table := rfl
  statements := List.Forall₂.nil
  labels := rfl
  dropped := rfl

/-- Offers in pairs have the same kinds, labels and qualifiers. -/
theorem map_eq_of_alike {R : String → String → Prop} {os os' : List Offer}
    (h : List.Forall₂ (Offer.Alike R) os os') :
    os.map (fun o => (o.kind, o.label, o.qualifier))
      = os'.map fun o => (o.kind, o.label, o.qualifier) := by
  induction h with
  | nil => rfl
  | cons ho _ ih => rw [List.map_cons, List.map_cons, ho.kind, ho.label, ho.qualifier, ih]

/-- The catalogs of a loaded table in two dialects, whatever the settings of loading. The offers
are the same but for their texts. Each of them has the same fate: whether its statement is added
or is passed over or dropped, and under which label, with the qualifier or without it.

There are catalogs in both dialects or in none, and then for the same reason. They have the same
labels with the same kinds in the same order, and the same warnings are left, in the same
order. -/
theorem dialects_agree {tree : Record.Tree} {t : Table} (ht : Table.IsLoaded tree t)
    (d d' : Dialect) :
    (allOffers d t).map (fun o => (o.kind, o.label, o.qualifier))
      = (allOffers d' t).map (fun o => (o.kind, o.label, o.qualifier)) ∧
    Draft.fates { table := t.name } (allOffers d t)
      = Draft.fates { table := t.name } (allOffers d' t) ∧
    match draft d t with
    | .error clash => draft d' t = .error clash
    | .ok r => ∃ r', draft d' t = .ok r' ∧
      build d t = .ok r.toCatalog ∧ build d' t = .ok r'.toCatalog ∧
      r.toCatalog.statements.map (fun s => (s.label, s.kind))
        = r'.toCatalog.statements.map (fun s => (s.label, s.kind)) ∧
      r.dropped = r'.dropped := by
  have hlegible : LegibleTable t := by
    rw [ht.eq_load]
    exact legibleTable_load tree
  have hR := respects_renders hlegible.fields d d'
  have hoffers := alike_allOffers hlegible d d'
  have hstart := alike_nil (Renders d d' t) t.name
  have hfinished : (finished d t).Alike (Renders d d' t) (finished d' t) :=
    hstart.foldl hR hoffers
  refine ⟨map_eq_of_alike hoffers, hstart.fates_eq hR hoffers, ?_⟩
  cases hdraft : draft d t with
  | error clash => exact (sameError_draft d d' t clash).mp hdraft
  | ok r =>
    obtain ⟨hhas, rfl⟩ := draft_eq_ok_iff.mp hdraft
    exact ⟨finished d' t, draft_eq_ok_iff.mpr ⟨hhas, rfl⟩, build_eq_ok_iff.mpr ⟨hhas, rfl⟩,
      build_eq_ok_iff.mpr ⟨hhas, rfl⟩, hfinished.map_eq, hfinished.dropped⟩

/-- A record whose column is in three indexes. Two of them have the same name in camel case, and
the third compares the column in another way. -/
def note : Record.Tree :=
  (Record.Tree.new "Note" "Note").push 0
    { name := "A", kind := .string, typeName := "string"
      tags := some { index := some "by_a;byA;like_a@LIKE" } }

/-- PostgreSQL drops the second index as SQLite does, finds its queries among those of the first,
and has the queries of the third under their qualifier. The nine offers before are those of the
table itself and of the first index. -/
theorem dialects_agree_note :
    let t := (Table.load note).table
    Table.IsLoaded note t ∧
    (Draft.fates { table := t.name } (allOffers .postgres t)).drop 9 =
      [.dropped "createByAStmt", .merged "selectNoteByAStmt", .merged "selectNoteCountByAStmt",
        .merged "selectNoteRangeByAStmt", .added "createLikeAStmt",
        .added "selectNoteByAViaLikeAStmt", .added "selectNoteCountByAViaLikeAStmt",
        .added "selectNoteRangeByAViaLikeAStmt"] := by
  intro t
  have hloaded : Table.IsLoaded note t := Or.inl rfl
  refine ⟨hloaded, ?_⟩
  rw [← (dialects_agree hloaded .sqlite .postgres).2.1]
  decide +kernel

end RecordSql.Catalog
