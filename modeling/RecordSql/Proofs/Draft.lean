import RecordSql.Catalog.Draft
import RecordSql.Proofs.Offers

/-!
# `RecordSql.Proofs.Draft`: what taking up an offer does

A draft takes up offers one after the other. `take_cases` says all that one offer can do: its
statement is added under a label that is free, the draft stays as it is because the text is
there under one of the labels, or all labels belong to other texts and a warning is left.

`draft_eq_ok_iff` and `build_eq_ok_iff` say when there is a catalog, and that it is the one of
`finished`, the draft that has taken up `allOffers`.
-/

set_option autoImplicit false

namespace RecordSql.Catalog

namespace Draft

/-- Taking up a statement under a label has three results. It is added if the label is free.
The draft stays as it is if the label belongs to the same text. What is done otherwise is done
if the label belongs to another. -/
theorem offerAs_cases (r : Draft) (kind : StatementKind) (sql label : String)
    (otherwise : Draft) :
    (r.holder? label = none ∧ r.offerAs kind sql label otherwise = r.add ⟨label, kind, sql⟩) ∨
    (∃ s, r.holder? label = some s ∧ s.sql = sql ∧ r.offerAs kind sql label otherwise = r) ∨
    (∃ s, r.holder? label = some s ∧ s.sql ≠ sql ∧
      r.offerAs kind sql label otherwise = otherwise) := by
  unfold offerAs
  cases h : r.holder? label with
  | none => exact Or.inl ⟨rfl, rfl⟩
  | some s =>
    by_cases hsql : s.sql = sql
    · exact Or.inr (Or.inl ⟨s, rfl, hsql, if_pos hsql⟩)
    · exact Or.inr (Or.inr ⟨s, rfl, hsql, if_neg hsql⟩)

/-- Taking up an offer has three results. Its statement is added under one of its labels that
is free. The draft stays as it is if one of the labels belongs to the same text. Otherwise all
labels belong to other texts, and the offer is dropped under the last one. -/
theorem take_cases (r : Draft) (o : Offer) :
    (∃ label ∈ o.labels, r.holder? label = none ∧ r.take o = r.add ⟨label, o.kind, o.sql⟩) ∨
    (∃ label ∈ o.labels, ∃ s, r.holder? label = some s ∧ s.sql = o.sql ∧ r.take o = r) ∨
    ((∀ label ∈ o.labels, ∃ s, r.holder? label = some s ∧ s.sql ≠ o.sql) ∧
      r.take o = r.drop o.lastLabel) := by
  unfold take Offer.labels Offer.lastLabel
  rcases r.offerAs_cases o.kind o.sql (Identifier.label o.label) _ with
    ⟨hfree, he⟩ | ⟨s, hs, hsql, he⟩ | ⟨s, hs, hsql, he⟩ <;> rw [he]
  · exact Or.inl ⟨_, List.mem_cons_self, hfree, rfl⟩
  · exact Or.inr (Or.inl ⟨_, List.mem_cons_self, s, hs, hsql, rfl⟩)
  · cases o.qualifier with
    | none =>
      refine Or.inr (Or.inr ⟨?_, rfl⟩)
      intro label hlabel
      rw [List.mem_singleton.mp hlabel]
      exact ⟨s, hs, hsql⟩
    | some q =>
      -- The label with the qualifier is the last try.
      have hmem : Identifier.label (Offer.qualifiedLabel o.label q) ∈
          [Identifier.label o.label, Identifier.label (Offer.qualifiedLabel o.label q)] :=
        List.mem_cons_of_mem _ (List.mem_singleton_self _)
      rcases r.offerAs_cases o.kind o.sql (Identifier.label (Offer.qualifiedLabel o.label q)) _
        with ⟨hfree, he⟩ | ⟨s', hs', hsql', he⟩ | ⟨s', hs', hsql', he⟩
      · exact Or.inl ⟨_, hmem, hfree, he⟩
      · exact Or.inr (Or.inl ⟨_, hmem, s', hs', hsql', he⟩)
      · refine Or.inr (Or.inr ⟨?_, he⟩)
        intro label hlabel
        rcases List.mem_cons.mp hlabel with h | h
        · rw [h]
          exact ⟨s, hs, hsql⟩
        · rw [List.mem_singleton.mp h]
          exact ⟨s', hs', hsql'⟩

end Draft

/-- The draft that has taken up all offers. -/
def finished (d : Sql.Dialect) (t : Table) : Draft :=
  (allOffers d t).foldl Draft.take { table := t.name }

variable {d : Sql.Dialect} {t : Table}

/-- A draft is made exactly if all names have entities. -/
theorem draft_eq_ok_iff {r : Draft} : draft d t = .ok r ↔ HasEntities t ∧ r = finished d t := by
  unfold draft
  rw [map_eq_ok_iff]
  constructor
  · rintro ⟨os, hos, rfl⟩
    obtain ⟨hhas, rfl⟩ := offers_eq_ok_iff.mp hos
    exact ⟨hhas, rfl⟩
  · rintro ⟨hhas, rfl⟩
    exact ⟨allOffers d t, offers_eq_ok_iff.mpr ⟨hhas, rfl⟩, rfl⟩

/-- So is a catalog. -/
theorem build_eq_ok_iff {c : Catalog} :
    build d t = .ok c ↔ HasEntities t ∧ c = (finished d t).toCatalog := by
  unfold build
  rw [map_eq_ok_iff]
  constructor
  · rintro ⟨r, hr, rfl⟩
    obtain ⟨hhas, rfl⟩ := draft_eq_ok_iff.mp hr
    exact ⟨hhas, rfl⟩
  · rintro ⟨hhas, rfl⟩
    exact ⟨finished d t, draft_eq_ok_iff.mpr ⟨hhas, rfl⟩, rfl⟩

/-- Without a draft there is no catalog, and the reason is that a name has no entity. -/
theorem build_eq_error {clash : English.CaseClash} (h : draft d t = .error clash) :
    build d t = .error clash ∧ ¬HasEntities t := by
  constructor
  · unfold build
    rw [h]
    rfl
  · intro hhas
    rw [draft_eq_ok_iff.mpr ⟨hhas, rfl⟩] at h
    cases h

end RecordSql.Catalog
