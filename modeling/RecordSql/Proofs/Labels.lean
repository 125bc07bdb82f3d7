import Mathlib.Data.List.Nodup
import RecordSql.Proofs.Draft
import RecordSql.Proofs.Registry

/-!
# `RecordSql.Proofs.Labels`: a label belongs to one statement

A draft finds the statement of a label through its map of places, so what it does with an
offer depends on that map. `Draft.Placed` is the invariant: the map leads from the label of
every statement to its place and holds nothing else. An offer keeps it (`placed_take`), and so
do any number of offers (`placed_foldl`).

No label is in the map twice, so no two statements share one. `labels_distinct` says this of
the catalogs of all tables, and that looking a label up gives the only statement that has it.
-/

set_option autoImplicit false

namespace RecordSql.Catalog

/-- Where labels are distinct, the statement found for a label is the only one that has it. -/
theorem get?_eq_some_iff {c : Catalog} (h : (c.statements.map (·.label)).Nodup) {label : String}
    {s : Statement} : c.get? label = some s ↔ s ∈ c.statements ∧ s.label = label := by
  unfold get?
  constructor
  · intro hs
    exact ⟨List.mem_of_find?_eq_some hs, by simpa using List.find?_some hs⟩
  · rintro ⟨hs, hlabel⟩
    cases hfound : c.statements.find? (·.label == label) with
    | none =>
      have hne := List.find?_eq_none.mp hfound s hs
      exact absurd hlabel (by simpa using hne)
    | some s' =>
      have hlabel' : s'.label = label := by simpa using List.find?_some hfound
      have hs' := List.mem_of_find?_eq_some hfound
      rw [List.inj_on_of_nodup_map h hs' hs (hlabel'.trans hlabel.symm)]

namespace Draft

/-- The map leads exactly from the labels of the statements to their places. -/
def Placed (r : Draft) : Prop :=
  ∀ label i, r.labels.lookup label = some i ↔ (r.statements.map (·.label))[i]? = some label

/-- A draft without statements has no places. -/
theorem placed_nil (table : String) : Placed { table } := by
  intro label i
  simp

variable {r : Draft} {label : String}

/-- No two statements share a label: the map has one place for it. -/
theorem Placed.nodup (h : r.Placed) : (r.statements.map (·.label)).Nodup := by
  rw [List.nodup_iff_getElem?_ne_getElem?]
  intro i j hij hj heq
  have hlabel := List.getElem?_eq_getElem hj
  have hi := (h _ i).mpr (heq.trans hlabel)
  rw [(h _ j).mpr hlabel] at hi
  cases hi
  exact absurd hij (Nat.lt_irrefl i)

/-- A label belongs to the statement that has it. -/
theorem Placed.holder?_eq_some_iff (h : r.Placed) {s : Statement} :
    r.holder? label = some s ↔ s ∈ r.statements ∧ s.label = label := by
  unfold holder?
  rw [Option.bind_eq_some_iff]
  constructor
  · rintro ⟨i, hi, hs⟩
    have hlabel := (h label i).mp hi
    rw [List.getElem?_map, hs, Option.map_some] at hlabel
    exact ⟨List.mem_of_getElem? hs, Option.some.inj hlabel⟩
  · rintro ⟨hs, rfl⟩
    obtain ⟨i, hi⟩ := List.getElem?_of_mem hs
    refine ⟨i, (h _ i).mpr ?_, hi⟩
    rw [List.getElem?_map, hi, Option.map_some]

/-- A label is free if no statement has it. -/
theorem Placed.holder?_eq_none_iff (h : r.Placed) :
    r.holder? label = none ↔ label ∉ r.statements.map (·.label) := by
  rw [Option.eq_none_iff_forall_ne_some]
  constructor
  · intro hfree hmem
    obtain ⟨s, hs, hlabel⟩ := List.mem_map.mp hmem
    exact hfree s (h.holder?_eq_some_iff.mpr ⟨hs, hlabel⟩)
  · intro hnew s hs
    obtain ⟨hmem, hlabel⟩ := h.holder?_eq_some_iff.mp hs
    exact hnew (List.mem_map.mpr ⟨s, hmem, hlabel⟩)

/-- A statement whose label is free gets a place. -/
theorem placed_add (h : r.Placed) {s : Statement} (hfree : r.holder? s.label = none) :
    (r.add s).Placed := by
  intro label i
  have hiff := Table.Registry.lookup_cons_iff h (h.holder?_eq_none_iff.mp hfree) label i
  rw [List.length_map] at hiff
  unfold add
  rw [List.map_append, List.map_singleton]
  exact hiff

/-- An offer keeps the places right. -/
theorem placed_take (h : r.Placed) (o : Offer) : (r.take o).Placed := by
  rcases r.take_cases o with ⟨label, -, hfree, he⟩ | ⟨label, -, s, -, -, he⟩ | ⟨-, he⟩ <;> rw [he]
  · exact placed_add h hfree
  · exact h
  · exact h

/-- So do any number of offers. -/
theorem placed_foldl (h : r.Placed) (os : List Offer) : (os.foldl take r).Placed := by
  induction os generalizing r with
  | nil => exact h
  | cons o os ih => exact ih (placed_take h o)

end Draft

/-- However far the making of a catalog has come, its map of labels leads exactly from the
labels of the statements to their places. In a catalog no two statements share a label.
Looking a label up gives something exactly if a statement has it, and then it gives the only
statement that has it. A table whose names have no entities has no catalog. -/
theorem labels_distinct (d : Sql.Dialect) (t : Table) :
    match offers d t with
    | .error clash => build d t = .error clash
    | .ok os =>
      (∀ n, ((os.take n).foldl Draft.take { table := t.name }).Placed) ∧
      ∃ c, build d t = .ok c ∧
        c.statements = (os.foldl Draft.take { table := t.name }).statements ∧
        (c.statements.map (·.label)).Nodup ∧
        ∀ label, ((c.get? label).isSome ↔ ∃ s ∈ c.statements, s.label = label) ∧
          ∀ s, c.get? label = some s ↔ s ∈ c.statements ∧ s.label = label := by
  cases hoffers : offers d t with
  | error clash =>
    show build d t = .error clash
    unfold build draft
    rw [hoffers]
    rfl
  | ok os =>
    have hplaced : ∀ ps : List Offer, (ps.foldl Draft.take { table := t.name }).Placed :=
      Draft.placed_foldl (Draft.placed_nil t.name)
    obtain ⟨hhas, rfl⟩ := offers_eq_ok_iff.mp hoffers
    have hnodup := (hplaced (allOffers d t)).nodup
    refine ⟨fun n => hplaced _, _, build_eq_ok_iff.mpr ⟨hhas, rfl⟩, rfl, hnodup, ?_⟩
    intro label
    refine ⟨?_, fun s => get?_eq_some_iff hnodup⟩
    rw [Option.isSome_iff_exists]
    constructor
    · rintro ⟨s, hs⟩
      exact ⟨s, (get?_eq_some_iff hnodup).mp hs⟩
    · rintro ⟨s, hs⟩
      exact ⟨s, (get?_eq_some_iff hnodup).mpr hs⟩

end RecordSql.Catalog
