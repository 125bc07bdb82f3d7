import RecordSql.Generate
import RecordSql.Proofs.Actions
import RecordSql.Proofs.Draft

/-!
# `RecordSql.Proofs.Runs`: what a run makes of a list of records

A run takes the records of the type that is asked for and makes the table and the catalog of
each on its own, until one of them fails. So all that is to know about a run is what it makes of
one record (`one_eq_ok_iff`, `one_eq_error_iff`) and how the records follow each other
(`mapM_eq_ok_iff`, `mapM_eq_error_iff`).

There are three reasons for a failure. No record is of the type, strict validation rejects a
record, or a name in the labels of a record has no entity. The last one has nothing to do with
the settings: `all_of_unlabelled` is a strict run that makes nothing of a record without issues.
`all_outcome` says which failure comes up when, and what a run without one gives.
-/

set_option autoImplicit false

namespace RecordSql.Generate

open RecordSql.Catalog (HasEntities build_eq_ok_iff)
open RecordSql.Record (Tree)

/-- An action whose result passes a check gives that result. -/
theorem exists_ok_of_checked {α ε : Type} {x : Except ε α} {p : α → Prop} [DecidablePred p]
    (h : x.toOption.any (fun a => p a) = true) : ∃ a, x = .ok a ∧ p a := by
  cases x with
  | error e => cases h
  | ok a => exact ⟨a, rfl, of_decide_eq_true h⟩

/-! ### One record -/

/-- The settings do not pass over the issues of a record. -/
def Rejects (s : Settings) (t : Tree) : Prop :=
  s.options.validation = .strict ∧ (Table.load t).issues ≠ []

/-- The names in the labels of a record have entities. -/
def Labelled (t : Tree) : Prop :=
  HasEntities (Table.load t).table

/-- What a run makes of a record: the table that is loaded from it and the catalog of that
table. -/
structure Makes (s : Settings) (t : Tree) (g : Generated) : Prop where
  accepted : ¬Rejects s t
  table : g.table = (Table.load t).table
  catalog : Catalog.build s.dialect g.table = .ok g.catalog

/-- Why a run makes nothing of a record: strict validation finds an issue, of which the first
one counts, or there is no catalog of its table. -/
inductive Fails (s : Settings) (t : Tree) : GenerateError → Prop
  | issue {issue : Table.Issue} (hstrict : s.options.validation = .strict)
      (hissue : (Table.load t).issues.head? = some issue) :
      Fails s t (.loadFailed t.root.typeName issue)
  | clash {clash : English.CaseClash} (haccepted : ¬Rejects s t)
      (hclash : Catalog.build s.dialect (Table.load t).table = .error clash) :
      Fails s t (.unlabelled t.root.typeName clash)

variable {s : Settings} {t : Tree} {ts : List Tree}

/-- Loading fails if the settings reject the record, and then with its first issue. -/
theorem loadWith_cases (s : Settings) (t : Tree) :
    (¬Rejects s t ∧ Table.loadWith s.options t = .ok (Table.load t)) ∨
    ∃ issue, s.options.validation = .strict ∧ (Table.load t).issues.head? = some issue ∧
      Table.loadWith s.options t = .error issue := by
  unfold Table.loadWith Rejects
  cases hvalidation : s.options.validation with
  | lenient => simp
  | strict =>
    cases hissues : (Table.load t).issues with
    | nil => simp [hissues]
    | cons issue issues => simp [hissues]

/-- A record whose issue is its first one is rejected by strict validation. -/
theorem rejects_of_head? {issue : Table.Issue} (hstrict : s.options.validation = .strict)
    (h : (Table.load t).issues.head? = some issue) : Rejects s t := by
  refine ⟨hstrict, ?_⟩
  intro hnil
  rw [hnil] at h
  cases h

/-- A run makes of a record what `Makes` says. -/
theorem one_eq_ok_iff {g : Generated} : one s t = .ok g ↔ Makes s t g := by
  unfold one
  rcases loadWith_cases s t with ⟨haccepted, hload⟩ | ⟨issue, hstrict, hissue, hload⟩ <;> rw [hload]
  · constructor
    · intro h
      cases hbuild : Catalog.build s.dialect (Table.load t).table with
      | error clash => simp [hbuild] at h
      | ok c =>
        simp only [hbuild] at h
        cases h
        exact ⟨haccepted, rfl, hbuild⟩
    · rintro ⟨-, htable, hcatalog⟩
      simp only [← htable, hcatalog]
  · constructor
    · intro h
      cases h
    · rintro ⟨haccepted, -, -⟩
      exact absurd (rejects_of_head? hstrict hissue) haccepted

/-- It makes nothing for the reasons of `Fails` only. -/
theorem one_eq_error_iff {e : GenerateError} : one s t = .error e ↔ Fails s t e := by
  unfold one
  rcases loadWith_cases s t with ⟨haccepted, hload⟩ | ⟨issue, hstrict, hissue, hload⟩ <;> rw [hload]
  · constructor
    · intro h
      cases hbuild : Catalog.build s.dialect (Table.load t).table with
      | error clash =>
        simp only [hbuild] at h
        cases h
        exact .clash haccepted hbuild
      | ok c => simp [hbuild] at h
    · intro h
      cases h with
      | issue hstrict hissue => exact absurd (rejects_of_head? hstrict hissue) haccepted
      | clash _ hclash => simp only [hclash]
  · constructor
    · intro h
      cases h
      exact .issue hstrict hissue
    · intro h
      cases h with
      | issue _ hissue' =>
        rw [hissue] at hissue'
        cases hissue'
        rfl
      | clash haccepted _ => exact absurd (rejects_of_head? hstrict hissue) haccepted

/-- A run makes something of the records that are not rejected and have labels. -/
theorem exists_one_eq_ok_iff : (∃ g, one s t = .ok g) ↔ ¬Rejects s t ∧ Labelled t := by
  constructor
  · rintro ⟨g, hg⟩
    obtain ⟨haccepted, htable, hcatalog⟩ := one_eq_ok_iff.mp hg
    rw [htable] at hcatalog
    exact ⟨haccepted, (build_eq_ok_iff.mp hcatalog).1⟩
  · rintro ⟨haccepted, hlabelled⟩
    have hbuild := build_eq_ok_iff (d := s.dialect).mpr ⟨hlabelled, rfl⟩
    exact ⟨⟨(Table.load t).table, _⟩, one_eq_ok_iff.mpr ⟨haccepted, rfl, hbuild⟩⟩

/-- It fails for all others. -/
theorem exists_one_eq_error_iff : (∃ e, one s t = .error e) ↔ Rejects s t ∨ ¬Labelled t := by
  have hok := exists_one_eq_ok_iff (s := s) (t := t)
  cases h : one s t with
  | error e =>
    rw [h] at hok
    have hnot : ¬(¬Rejects s t ∧ Labelled t) := fun hboth => by
      obtain ⟨g, hg⟩ := hok.mpr hboth
      cases hg
    exact ⟨fun _ => by by_contra hneither; exact hnot (by tauto), fun _ => ⟨e, rfl⟩⟩
  | ok g =>
    rw [h] at hok
    obtain ⟨haccepted, hlabelled⟩ := hok.mp ⟨g, rfl⟩
    constructor
    · rintro ⟨e, he⟩
      cases he
    · rintro (hrejects | hlabels)
      · exact absurd hrejects haccepted
      · exact absurd hlabelled hlabels

/-! ### All records -/

/-- A type is asked for, and no record is of it. -/
def TypeMissing (s : Settings) (ts : List Tree) : Prop :=
  ∃ name, s.typeName = some name ∧ ∀ t ∈ ts, t.root.typeName ≠ name

/-- No record is selected if the type is missing. -/
theorem selected_eq_nil_iff {name : String} (hname : s.typeName = some name) :
    selected s ts = [] ↔ ∀ t ∈ ts, t.root.typeName ≠ name := by
  unfold selected
  simp [hname, List.filter_eq_nil_iff]

/-- A run of a type that is missing fails. -/
theorem all_of_missing {name : String} (hname : s.typeName = some name)
    (h : ∀ t ∈ ts, t.root.typeName ≠ name) : all s ts = .error (.typeNotFound name) := by
  unfold all
  rw [(selected_eq_nil_iff hname).mpr h, hname]

/-- Any other goes through the records that are selected. -/
theorem all_of_not_missing (h : ¬TypeMissing s ts) : all s ts = (selected s ts).mapM (one s) := by
  unfold all
  dsimp only
  split
  · rename_i name hname hnil
    exact absurd ⟨name, hname, (selected_eq_nil_iff hname).mp hnil⟩ h
  · rfl

/-- A run fails if the type is missing, and else with the first record for which it fails. -/
theorem all_eq_error_iff {e : GenerateError} :
    all s ts = .error e ↔
      (∃ name, s.typeName = some name ∧ (∀ t ∈ ts, t.root.typeName ≠ name) ∧
        e = .typeNotFound name) ∨
      ∃ before t after, selected s ts = before ++ t :: after ∧
        (∀ u ∈ before, ¬Rejects s u ∧ Labelled u) ∧ Fails s t e := by
  by_cases hmissing : TypeMissing s ts
  · obtain ⟨name, hname, hall⟩ := hmissing
    rw [all_of_missing hname hall]
    constructor
    · intro h
      cases h
      exact Or.inl ⟨name, hname, hall, rfl⟩
    · rintro (⟨name', hname', -, rfl⟩ | ⟨before, t, after, h, -⟩)
      · rw [hname] at hname'
        cases hname'
        rfl
      · rw [(selected_eq_nil_iff hname).mpr hall] at h
        simp at h
  · rw [all_of_not_missing hmissing, mapM_eq_error_iff]
    simp only [exists_one_eq_ok_iff, one_eq_error_iff]
    constructor
    · exact Or.inr
    · rintro (⟨name, hname, hall, -⟩ | h)
      · exact absurd ⟨name, hname, hall⟩ hmissing
      · exact h

/-- A run fails exactly if the type is missing or one of the records that are selected is
rejected or has no labels. -/
theorem exists_all_eq_error_iff :
    (∃ e, all s ts = .error e) ↔
      TypeMissing s ts ∨ ∃ t ∈ selected s ts, Rejects s t ∨ ¬Labelled t := by
  by_cases hmissing : TypeMissing s ts
  · obtain ⟨name, hname, hall⟩ := hmissing
    rw [all_of_missing hname hall]
    exact ⟨fun _ => Or.inl ⟨name, hname, hall⟩, fun _ => ⟨_, rfl⟩⟩
  · rw [all_of_not_missing hmissing, exists_mapM_eq_error_iff]
    simp only [exists_one_eq_error_iff, hmissing, false_or]

/-- A run that does not fail makes of the records that are selected what it makes of each. -/
theorem all_eq_ok_iff {gs : List Generated} :
    all s ts = .ok gs ↔ ¬TypeMissing s ts ∧ List.Forall₂ (Makes s) (selected s ts) gs := by
  by_cases hmissing : TypeMissing s ts
  · obtain ⟨name, hname, hall⟩ := hmissing
    rw [all_of_missing hname hall]
    exact ⟨fun h => (by cases h), fun h => absurd ⟨name, hname, hall⟩ h.1⟩
  · rw [all_of_not_missing hmissing, mapM_eq_ok_iff]
    simp only [one_eq_ok_iff, hmissing, not_false_iff, true_and]

/-- A record that is selected is the only one that is selected from itself. -/
theorem selected_singleton (h : t ∈ selected s ts) : selected s [t] = [t] := by
  unfold selected at h ⊢
  cases hname : s.typeName with
  | none => rfl
  | some name =>
    simp only [hname, List.mem_filter] at h
    simp [h.2]

/-- A run depends on the records that are selected only. -/
theorem all_congr {us : List Tree} (h : selected s us = selected s ts) : all s us = all s ts := by
  unfold all
  rw [h]

/-- A record that is selected makes the same on its own. -/
theorem all_singleton {g : Generated} (ht : t ∈ selected s ts) (hg : Makes s t g) :
    all s [t] = .ok [g] := by
  have hselected := selected_singleton ht
  rw [all_eq_ok_iff, hselected]
  refine ⟨?_, List.Forall₂.cons hg List.Forall₂.nil⟩
  rintro ⟨name, hname, hall⟩
  rw [(selected_eq_nil_iff hname).mpr hall] at hselected
  cases hselected

/-- What is made under strict validation is made under lenient validation as well. -/
theorem makes_lenient {g : Generated} (h : Makes { s with options := s.options.strict } t g) :
    Makes { s with options := s.options.lenient } t g where
  accepted hrejects := by cases hrejects.1
  table := h.table
  catalog := h.catalog

/-- When a run fails, and what it gives if it does not.

It fails with a type that no record has, if that type is asked for. Else it fails with the first
of the selected records of which nothing can be made: strict validation finds an issue in it, or
a name in its labels has no entity. It fails in no other case.

So where all names have entities, a run fails exactly if the type is missing or strict validation
rejects a selected record, and then the error names the root type and the first issue of the
first record that is rejected.

A run that does not fail gives one table with its catalog for each selected record, in the order
of the records: those of that record alone, which a run of that record gives as well. Records
that are not selected make no difference. The results for two lists together are those for the
one and then those for the other, and strict validation gives what lenient validation gives. -/
theorem all_outcome (s : Settings) (ts : List Tree) :
    (∀ e, all s ts = .error e ↔
      (∃ name, s.typeName = some name ∧ (∀ t ∈ ts, t.root.typeName ≠ name) ∧
        e = .typeNotFound name) ∨
      ∃ before t after, selected s ts = before ++ t :: after ∧
        (∀ u ∈ before, ¬Rejects s u ∧ Labelled u) ∧ Fails s t e) ∧
    ((∃ e, all s ts = .error e) ↔
      TypeMissing s ts ∨ ∃ t ∈ selected s ts, Rejects s t ∨ ¬Labelled t) ∧
    ((∀ t ∈ selected s ts, Labelled t) →
      ((∃ e, all s ts = .error e) ↔ TypeMissing s ts ∨ ∃ t ∈ selected s ts, Rejects s t) ∧
      ∀ before t after issue, selected s ts = before ++ t :: after →
        (∀ u ∈ before, ¬Rejects s u) → s.options.validation = .strict →
        (Table.load t).issues.head? = some issue →
        ∃ e, all s ts = .error e ∧ e = .loadFailed t.root.typeName issue ∧
          e.message = "failed to load type " ++ t.root.typeName ++ ": " ++ issue.message) ∧
    (∀ gs, all s ts = .ok gs →
      List.Forall₂ (fun t g => all s [t] = .ok [g] ∧ Makes s t g) (selected s ts) gs) ∧
    (∀ us, selected s us = selected s ts → all s us = all s ts) ∧
    (s.typeName = none → ∀ us gs hs, all s ts = .ok gs → all s us = .ok hs →
      all s (ts ++ us) = .ok (gs ++ hs)) ∧
    ∀ gs, all { s with options := s.options.strict } ts = .ok gs →
      all { s with options := s.options.lenient } ts = .ok gs := by
  refine ⟨fun e => all_eq_error_iff, exists_all_eq_error_iff, ?_, ?_, fun us => all_congr, ?_, ?_⟩
  · intro hlabelled
    constructor
    · rw [exists_all_eq_error_iff]
      refine or_congr Iff.rfl ⟨?_, ?_⟩
      · rintro ⟨t, ht, hrejects | hlabels⟩
        · exact ⟨t, ht, hrejects⟩
        · exact absurd (hlabelled t ht) hlabels
      · rintro ⟨t, ht, hrejects⟩
        exact ⟨t, ht, Or.inl hrejects⟩
    · intro before t after issue hsplit hbefore hstrict hissue
      refine ⟨_, all_eq_error_iff.mpr ?_, rfl, rfl⟩
      refine Or.inr ⟨before, t, after, hsplit, ?_, .issue hstrict hissue⟩
      intro u hu
      exact ⟨hbefore u hu, hlabelled u (by simp [hsplit, hu])⟩
  · intro gs hgs
    obtain ⟨-, hmakes⟩ := all_eq_ok_iff.mp hgs
    have hmem : List.Forall₂ (fun t g => t ∈ selected s ts ∧ Makes s t g) (selected s ts) gs :=
      (List.forall₂_and_left _ _).mpr ⟨fun t ht => ht, hmakes⟩
    exact hmem.imp fun t g h => ⟨all_singleton h.1 h.2, h.2⟩
  · intro hname us gs hs hgs hhs
    have hselected : ∀ rs, selected s rs = rs := fun rs => by rw [selected, hname]
    have hmissing : ∀ rs, ¬TypeMissing s rs := fun rs h => by
      obtain ⟨name, hsome, -⟩ := h
      rw [hname] at hsome
      cases hsome
    rw [all_eq_ok_iff, hselected] at hgs hhs ⊢
    exact ⟨hmissing _, List.rel_append hgs.2 hhs.2⟩
  · intro gs hgs
    obtain ⟨hmissing, hmakes⟩ := all_eq_ok_iff.mp hgs
    exact all_eq_ok_iff.mpr ⟨hmissing, hmakes.imp fun t g => makes_lenient⟩

/-- A user whose table has a name without a singular. -/
def reus : Tree :=
  (Tree.new "User" "User").push 0
    { name := "ID", kind := .int64, typeName := "int64", tags := some { tableName := some "Réus" } }

/-- No type is asked for, and even strict validation finds no issue in the record, but a run makes
nothing of it. -/
theorem all_of_unlabelled :
    let s : Settings := { options := { validation := .strict } }
    ¬TypeMissing s [reus] ∧ ¬Rejects s reus ∧
      ∃ clash, all s [reus] = .error (.unlabelled "User" clash) := by
  intro s
  have hissues : (Table.load reus).issues = [] := by decide +kernel
  have hclash : (Catalog.build .sqlite (Table.load reus).table).toOption = none := by
    decide +kernel
  refine ⟨?_, fun h => h.2 hissues, ?_⟩
  · rintro ⟨name, hname, -⟩
    cases hname
  · cases hbuild : Catalog.build .sqlite (Table.load reus).table with
    | ok c =>
      rw [hbuild] at hclash
      cases hclash
    | error clash =>
      refine ⟨clash, all_eq_error_iff.mpr (Or.inr ⟨[], reus, [], rfl, by simp, ?_⟩)⟩
      exact .clash (fun h => h.2 hissues) hbuild

end RecordSql.Generate
