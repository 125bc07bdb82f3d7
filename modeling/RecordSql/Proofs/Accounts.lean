import Mathlib.Data.List.Forall2
import RecordSql.Proofs.Entities
import RecordSql.Proofs.Labels

/-!
# `RecordSql.Proofs.Accounts`: no offer is lost silently

A draft may pass an offer over, give its statement another label, or drop it. What has become
of the offers can be read off the draft in the end. An offer is `Kept` if there is a statement
of its kind and text under one of its labels. `Draft.Accounts` is the invariant: the statements
come from offers, in the order of these, and the warnings are those of the offers that are not
kept, in the same order.

What decides about an offer is the draft when its turn comes, and the draft grows afterwards.
So the invariant also says that all labels of a lost offer are taken (`lost`): a statement that
is added later has a free label and cannot bring the offer back.

* `Draft.accounts_take`: one more offer, with the three cases of `take_cases`.
* `Draft.accounts_foldl`: any number of offers.
* `offers_accounted`: the catalogs of all tables, and why a table has none.

Whether the text under a label is that of an offer is decided without a look at its kind. This
is enough because no two offers of different kinds have the same text
(`Offer.Formed.kind_eq_of_sql_eq`).
-/

set_option autoImplicit false

namespace RecordSql.Catalog

/-! ### Offers and their statements -/

namespace Offer

/-- A statement is what an offer calls for, under one of the labels of the offer. -/
structure Gives (o : Offer) (s : Statement) : Prop where
  kind : s.kind = o.kind
  sql : s.sql = o.sql
  label : s.label ∈ o.labels

instance (o : Offer) (s : Statement) : Decidable (o.Gives s) :=
  decidable_of_iff (s.kind = o.kind ∧ s.sql = o.sql ∧ s.label ∈ o.labels)
    ⟨fun ⟨hkind, hsql, hlabel⟩ => ⟨hkind, hsql, hlabel⟩, fun h => ⟨h.kind, h.sql, h.label⟩⟩

/-- One of the statements is what the offer calls for. -/
def Kept (o : Offer) (ss : List Statement) : Prop :=
  ∃ s ∈ ss, o.Gives s

instance (o : Offer) (ss : List Statement) : Decidable (o.Kept ss) :=
  inferInstanceAs (Decidable (∃ s ∈ ss, o.Gives s))

/-- The warning about an offer that is lost. -/
def warning (o : Offer) (table : String) : Dropped :=
  ⟨table, o.lastLabel⟩

end Offer

/-- What is related to one of several things in order is one of as many others. -/
theorem exists_of_mem_forall₂ {α β : Type} {R : α → β → Prop} {xs : List α} {ys : List β}
    (h : List.Forall₂ R xs ys) {y : β} (hy : y ∈ ys) : ∃ x ∈ xs, R x y := by
  induction h with
  | nil => cases hy
  | cons hxy _ ih =>
    rcases List.mem_cons.mp hy with rfl | hy
    · exact ⟨_, List.mem_cons_self, hxy⟩
    · obtain ⟨x, hx, hR⟩ := ih hy
      exact ⟨x, List.mem_cons_of_mem _ hx, hR⟩

namespace Draft

/-! ### The invariant -/

/-- What a draft holds after some offers:

- `formed`: the offers are as their kinds demand;
- `placed`: it has the places of the labels;
- `table`: it has the name of the table;
- `order`: the statements are those of some of the offers, in the order of these;
- `lost`: all labels of an offer that is not kept are taken;
- `dropped`: the warnings are those about the offers that are not kept, in order. -/
structure Accounts (name : String) (os : List Offer) (r : Draft) : Prop where
  formed : ∀ o ∈ os, o.Formed
  placed : r.Placed
  table : r.table = name
  order : ∃ taken, taken.Sublist os ∧ List.Forall₂ Offer.Gives taken r.statements
  lost : ∀ o ∈ os, ¬o.Kept r.statements → ∀ label ∈ o.labels, ∃ s ∈ r.statements, s.label = label
  dropped : r.dropped = (os.filter (¬·.Kept r.statements)).map (·.warning name)

/-- A draft that has taken up nothing holds nothing. -/
theorem accounts_nil (name : String) : Accounts name [] { table := name } where
  formed _ ho := absurd ho List.not_mem_nil
  placed := placed_nil name
  table := rfl
  order := ⟨[], List.Sublist.refl [], List.Forall₂.nil⟩
  lost _ ho := absurd ho List.not_mem_nil
  dropped := rfl

variable {name : String} {os : List Offer} {r : Draft} {o : Offer}

/-- One more formed offer leaves all of them formed. -/
theorem Accounts.formed_concat (h : Accounts name os r) (ho : o.Formed) :
    ∀ p ∈ os ++ [o], p.Formed :=
  List.forall_mem_append.mpr ⟨h.formed, List.forall_mem_singleton.mpr ho⟩

/-- Every statement comes from an offer. -/
theorem Accounts.exists_offer (h : Accounts name os r) {s : Statement} (hs : s ∈ r.statements) :
    ∃ o ∈ os, o.Gives s := by
  obtain ⟨taken, hsub, hgives⟩ := h.order
  obtain ⟨o, ho, hos⟩ := exists_of_mem_forall₂ hgives hs
  exact ⟨o, hsub.subset ho, hos⟩

/-- A statement that is added under a free label changes nothing about earlier offers. -/
theorem Accounts.kept_concat_iff (h : Accounts name os r) {s : Statement}
    (hfree : r.holder? s.label = none) {p : Offer} (hp : p ∈ os) :
    p.Kept (r.statements ++ [s]) ↔ p.Kept r.statements := by
  constructor
  · rintro ⟨s', hs', hgives⟩
    by_contra hlost
    rcases List.mem_append.mp hs' with hs' | hs'
    · exact hlost ⟨s', hs', hgives⟩
    · -- All labels of a lost offer are taken, but that of the new statement was free.
      rw [List.mem_singleton] at hs'
      subst hs'
      obtain ⟨t, ht, hlabel⟩ := h.lost p hp hlost _ hgives.label
      rw [h.placed.holder?_eq_none_iff] at hfree
      exact hfree (List.mem_map.mpr ⟨t, ht, hlabel⟩)
  · rintro ⟨s', hs', hgives⟩
    exact ⟨s', List.mem_append_left _ hs', hgives⟩

/-! ### One more offer -/

/-- A kept offer at the end is not among those that are lost. -/
theorem filter_lost_concat_of_kept (os : List Offer) {ss : List Statement} (h : o.Kept ss) :
    (os ++ [o]).filter (¬·.Kept ss) = os.filter (¬·.Kept ss) := by
  rw [List.filter_append, List.filter_cons_of_neg (by simpa using h), List.filter_nil,
    List.append_nil]

/-- Any other is the last of them. -/
theorem filter_lost_concat_of_not_kept (os : List Offer) {ss : List Statement} (h : ¬o.Kept ss) :
    (os ++ [o]).filter (¬·.Kept ss) = os.filter (¬·.Kept ss) ++ [o] := by
  rw [List.filter_append, List.filter_cons_of_pos (by simpa using h), List.filter_nil]

/-- An offer whose statement is added under one of its labels is kept. -/
theorem kept_add (r : Draft) {label : String} (h : label ∈ o.labels) :
    o.Kept (r.add ⟨label, o.kind, o.sql⟩).statements :=
  ⟨_, List.mem_append_right _ (List.mem_singleton_self _), rfl, rfl, h⟩

/-- The statement of the offer is added. -/
theorem accounts_add (h : Accounts name os r) (ho : o.Formed) {label : String}
    (hlabel : label ∈ o.labels) (hfree : r.holder? label = none) :
    Accounts name (os ++ [o]) (r.add ⟨label, o.kind, o.sql⟩) where
  formed := h.formed_concat ho
  placed := placed_add h.placed hfree
  table := h.table
  order := by
    obtain ⟨taken, hsub, hall⟩ := h.order
    have hgives : o.Gives ⟨label, o.kind, o.sql⟩ := ⟨rfl, rfl, hlabel⟩
    exact ⟨taken ++ [o], hsub.append_right [o],
      List.rel_append hall (List.Forall₂.cons hgives List.Forall₂.nil)⟩
  lost := by
    refine List.forall_mem_append.mpr ⟨?_, List.forall_mem_singleton.mpr ?_⟩
    · intro p hp hlost l hl
      have hold : ¬p.Kept r.statements := fun hk => hlost ((h.kept_concat_iff hfree hp).mpr hk)
      obtain ⟨s, hs, hsl⟩ := h.lost p hp hold l hl
      exact ⟨s, List.mem_append_left _ hs, hsl⟩
    · intro hlost
      exact absurd (kept_add r hlabel) hlost
  dropped := by
    -- No warning is left, and none of the old ones is about an offer that is kept now.
    have hsame : os.filter (¬·.Kept (r.add ⟨label, o.kind, o.sql⟩).statements)
        = os.filter (¬·.Kept r.statements) := by
      refine List.filter_congr ?_
      intro p hp
      exact decide_eq_decide.mpr (not_congr (h.kept_concat_iff hfree hp))
    rw [filter_lost_concat_of_kept os (kept_add r hlabel), hsame]
    exact h.dropped

/-- The offer is passed over because it is kept already. -/
theorem accounts_pass (h : Accounts name os r) (ho : o.Formed) (hkept : o.Kept r.statements) :
    Accounts name (os ++ [o]) r where
  formed := h.formed_concat ho
  placed := h.placed
  table := h.table
  order := by
    obtain ⟨taken, hsub, hall⟩ := h.order
    exact ⟨taken, hsub.trans (List.sublist_append_left os [o]), hall⟩
  lost := by
    refine List.forall_mem_append.mpr ⟨h.lost, List.forall_mem_singleton.mpr ?_⟩
    intro hlost
    exact absurd hkept hlost
  dropped := by
    rw [filter_lost_concat_of_kept os hkept]
    exact h.dropped

/-- The offer is dropped because all its labels are taken. -/
theorem accounts_drop (h : Accounts name os r) (ho : o.Formed) (hlost : ¬o.Kept r.statements)
    (htaken : ∀ label ∈ o.labels, ∃ s ∈ r.statements, s.label = label) :
    Accounts name (os ++ [o]) (r.drop o.lastLabel) where
  formed := h.formed_concat ho
  placed := h.placed
  table := h.table
  order := by
    obtain ⟨taken, hsub, hall⟩ := h.order
    exact ⟨taken, hsub.trans (List.sublist_append_left os [o]), hall⟩
  lost := by
    refine List.forall_mem_append.mpr ⟨h.lost, List.forall_mem_singleton.mpr ?_⟩
    intro _
    exact htaken
  dropped := by
    show r.dropped ++ [⟨r.table, o.lastLabel⟩]
      = ((os ++ [o]).filter (¬·.Kept r.statements)).map (·.warning name)
    rw [filter_lost_concat_of_not_kept os hlost, List.map_append, h.dropped, h.table]
    rfl

/-- One more offer keeps the accounts right. -/
theorem accounts_take (h : Accounts name os r) (ho : o.Formed) :
    Accounts name (os ++ [o]) (r.take o) := by
  rcases r.take_cases o with
    ⟨label, hlabel, hfree, he⟩ | ⟨label, hlabel, s, hs, hsql, he⟩ | ⟨htaken, he⟩ <;> rw [he]
  · exact accounts_add h ho hlabel hfree
  · obtain ⟨hmem, rfl⟩ := h.placed.holder?_eq_some_iff.mp hs
    obtain ⟨p, hp, hgives⟩ := h.exists_offer hmem
    have hkind := (h.formed p hp).kind_eq_of_sql_eq ho (hgives.sql.symm.trans hsql)
    exact accounts_pass h ho ⟨s, hmem, hgives.kind.trans hkind, hsql, hlabel⟩
  · refine accounts_drop h ho ?_ ?_
    · rintro ⟨s, hs, hgives⟩
      obtain ⟨s', hs', hsql⟩ := htaken s.label hgives.label
      rw [h.placed.holder?_eq_some_iff.mpr ⟨hs, rfl⟩] at hs'
      cases hs'
      exact hsql hgives.sql
    · intro label hlabel
      obtain ⟨s, hs, -⟩ := htaken label hlabel
      exact ⟨s, h.placed.holder?_eq_some_iff.mp hs⟩

/-- So do any number of offers. -/
theorem accounts_foldl (h : Accounts name os r) {ps : List Offer} (hps : ∀ p ∈ ps, p.Formed) :
    Accounts name (os ++ ps) (ps.foldl take r) := by
  induction ps generalizing os r with
  | nil => rwa [List.append_nil]
  | cons o ps ih =>
    obtain ⟨ho, hps⟩ := List.forall_mem_cons.mp hps
    rw [List.append_cons, List.foldl_cons]
    exact ih (accounts_take h ho) hps

end Draft

/-! ### All tables -/

variable {d : Sql.Dialect} {t : Table}

/-- The finished draft of a table accounts for all that the table calls for. -/
theorem accounts_finished (d : Sql.Dialect) (t : Table) :
    Draft.Accounts t.name (allOffers d t) (finished d t) :=
  Draft.accounts_foldl (Draft.accounts_nil t.name) fun _ => formed_of_mem_allOffers

/-- A statement of a catalog is what one of the offers calls for. -/
theorem exists_offer_of_mem_build {c : Catalog} (h : build d t = .ok c) {s : Statement}
    (hs : s ∈ c.statements) : ∃ o ∈ allOffers d t, o.Gives s := by
  obtain ⟨-, rfl⟩ := build_eq_ok_iff.mp h
  exact (accounts_finished d t).exists_offer hs

/-- An offer is kept exactly if its text stands under one of its labels. -/
theorem kept_finished_iff {o : Offer} (ho : o ∈ allOffers d t) :
    o.Kept (finished d t).statements ↔
      ∃ s ∈ (finished d t).statements, s.label ∈ o.labels ∧ s.sql = o.sql := by
  constructor
  · rintro ⟨s, hs, hgives⟩
    exact ⟨s, hs, hgives.label, hgives.sql⟩
  · rintro ⟨s, hs, hlabel, hsql⟩
    obtain ⟨p, hp, hgives⟩ := (accounts_finished d t).exists_offer hs
    have hkind := (formed_of_mem_allOffers hp).kind_eq_of_sql_eq (formed_of_mem_allOffers ho)
      (hgives.sql.symm.trans hsql)
    exact ⟨s, hs, hgives.kind.trans hkind, hsql, hlabel⟩

/-- What becomes of the offers of a table. The statements of the catalog are what some of them
call for, each under a label of its own offer, in the order of the offers. The warnings are
those about all other offers, one for each and in the same order. So there are as many
warnings as offers whose text stands under none of their labels. The labels of an offer are
its segments, and if it has a qualifier, also the segments with the qualifier before the
ending.

There is no catalog exactly if one of the names in the labels has no entity. The error tells the
name, which is capitalized and of mixed case, and the part of it that does not begin in ASCII. -/
theorem offers_accounted (d : Sql.Dialect) (t : Table) :
    match draft d t with
    | .error clash =>
      build d t = .error clash ∧ ¬HasEntities t ∧ clash.word ∈ labelNames t ∧
      Identifier.entity clash.word = .error clash ∧ clash.Justified
    | .ok r =>
      build d t = .ok r.toCatalog ∧ HasEntities t ∧
      (∃ taken, taken.Sublist (allOffers d t) ∧ List.Forall₂ Offer.Gives taken r.statements) ∧
      r.dropped = ((allOffers d t).filter (¬·.Kept r.statements)).map (·.warning t.name) ∧
      r.dropped.length = (allOffers d t).countP (fun o =>
        ∀ s ∈ r.statements, s.label ∈ o.labels → s.sql ≠ o.sql) ∧
      ∀ o ∈ allOffers d t, ∃ segments, o.label = segments ++ [Offer.ending] ∧
        o.labels = Identifier.label (segments ++ [Offer.ending]) ::
          (o.qualifier.map fun q =>
            Identifier.label (segments ++ ["via", q, Offer.ending])).toList := by
  cases hdraft : draft d t with
  | error clash =>
    obtain ⟨hbuild, hhas⟩ := build_eq_error hdraft
    exact ⟨hbuild, hhas, clash_of_draft_eq_error hdraft⟩
  | ok r =>
    obtain ⟨hhas, rfl⟩ := draft_eq_ok_iff.mp hdraft
    have haccounts := accounts_finished d t
    refine ⟨build_eq_ok_iff.mpr ⟨hhas, rfl⟩, hhas, haccounts.order, haccounts.dropped, ?_, ?_⟩
    · rw [haccounts.dropped, List.length_map, ← List.countP_eq_length_filter]
      refine List.countP_congr ?_
      intro o ho
      rw [decide_eq_true_iff, decide_eq_true_iff, kept_finished_iff ho]
      simp
    · intro o ho
      obtain ⟨verb, -, segments, hlabel⟩ := (formed_of_mem_allOffers ho).label
      refine ⟨verb :: segments, hlabel, ?_⟩
      unfold Offer.labels
      simp only [hlabel, Offer.qualifiedLabel_concat]

/-- One foreign key with such a name is enough, whatever else the table calls for. -/
example :
    (draft .sqlite
      { name := "users", foreignKeys := [{ name := "Réus", toTable := "teams", many := false }] })
      = .error ⟨"Réus", "éus"⟩ := by
  decide +kernel

end RecordSql.Catalog
