import RecordSql.Identifier
import RecordSql.Proofs.Words
import RecordSql.Sql.Render

/-!
# `RecordSql.Proofs.Openings`: how statements and their labels begin

The first letter of a statement tells what it does: no two of `CREATE`, `ALTER`, `INSERT`,
`SELECT`, `UPDATE` and `DELETE` share it. The first letter of a label is that of its verb, in
one case or the other (`begins_label`), whatever the other segments are. Names stand behind
the first word in both, so no name can make one statement look like another.
-/

set_option autoImplicit false

namespace RecordSql

open RecordSql.Sql (Dialect)

/-- The character with which a text begins. -/
def Begins (c : Char) (s : String) : Prop :=
  s.toList.head? = some c

namespace Begins

variable {c : Char} {s : String}

/-- What follows does not matter. -/
theorem append (h : Begins c s) (r : String) : Begins c (s ++ r) := by
  unfold Begins at h ⊢
  rw [String.toList_append, List.head?_append, h]
  rfl

/-- A condition does not matter. -/
theorem filtered (h : Begins c s) (condition : String) : Begins c (Sql.filtered s condition) := by
  unfold Sql.filtered
  split
  · exact h
  · exact (h.append _).append _

/-- A text begins with one character at most. -/
theorem eq {d : Char} (h : Begins c s) (h' : Begins d s) : c = d := by
  unfold Begins at h h'
  exact Option.some.inj (h.symm.trans h')

end Begins

namespace Sql

variable (d : Dialect) (t : Table)

/-! ### What the statements begin with -/

theorem begins_createTable : Begins 'C' (createTable d t) := by
  unfold createTable
  simp only [String.append_assoc]
  refine Begins.append ?_ _
  rfl

theorem begins_createIndex (ix : Index) : Begins 'C' (createIndex d t ix) := by
  unfold createIndex
  simp only [String.append_assoc]
  refine Begins.append ?_ _
  rfl

theorem begins_addForeignKey (k : ForeignKey) : Begins 'A' (addForeignKey t k) := by
  unfold addForeignKey
  simp only [String.append_assoc]
  refine Begins.append ?_ _
  rfl

theorem begins_insert : Begins 'I' (insert d t) := by
  unfold insert
  simp only [String.append_assoc]
  refine Begins.append ?_ _
  rfl

theorem begins_select (keys : List Field) : Begins 'S' (select d t keys) := by
  unfold select
  refine Begins.filtered ?_ _
  simp only [String.append_assoc]
  refine Begins.append ?_ _
  rfl

theorem begins_selectRange (keys : List Field) : Begins 'S' (selectRange d t keys) := by
  unfold selectRange
  simp only [String.append_assoc]
  exact (begins_select d t keys).append _

theorem begins_selectCount (keys : List Field) : Begins 'S' (selectCount d t keys) := by
  unfold selectCount
  refine Begins.filtered ?_ _
  refine Begins.append ?_ _
  rfl

theorem begins_update (keys : List Field) : Begins 'U' (update d t keys) := by
  unfold update
  refine Begins.filtered ?_ _
  simp only [String.append_assoc]
  refine Begins.append ?_ _
  rfl

theorem begins_delete (keys : List Field) : Begins 'D' (delete d t keys) := by
  unfold delete
  refine Begins.filtered ?_ _
  refine Begins.append ?_ _
  rfl

end Sql

namespace Identifier

/-- What follows the first of several texts with a separator between them does not matter. -/
theorem begins_intercalate {c : Char} {first : String} (h : Begins c first) (sep : String)
    (rest : List String) : Begins c (sep.intercalate (first :: rest)) := by
  unfold Begins at h ⊢
  rw [String.toList_intercalate, List.map_cons]
  cases rest with
  | nil => rw [List.map_nil, List.intercalate_singleton, h]
  | cons next rest =>
    rw [List.map_cons, List.intercalate_cons_cons, List.append_assoc, List.head?_append, h]
    rfl

/-- A lowercase letter and its uppercase form, where neither has another form in other
places. -/
def CasePair (c C : Char) : Prop :=
  Letter.isAlphanumeric c = true ∧ Letter.upper c = [C] ∧
    Letter.isAlphanumeric C = true ∧ C ≠ 'Σ' ∧ Letter.lower C = [c]

instance (c C : Char) : Decidable (CasePair c C) :=
  inferInstanceAs (Decidable (_ ∧ _))

/-- A label begins with the first letter of its first segment, in lowercase or in
uppercase. -/
theorem begins_label {c C : Char} (hpair : CasePair c C) {verb : String} (h : Begins c verb)
    (segments : List String) :
    Begins c (label (verb :: segments)) ∨ Begins C (label (verb :: segments)) := by
  obtain ⟨hc, hupper, hC, hsigma, hlower⟩ := hpair
  obtain ⟨rest, hrest⟩ := List.head?_eq_some_iff.mp (begins_intercalate h "_" segments)
  have hname : Begins C (Text.upperCamel ("_".intercalate (verb :: segments))) := by
    unfold Begins Text.upperCamel
    rw [String.toList_ofList, hrest]
    exact Text.head?_upperCamelChars hc hupper rest
  unfold label
  dsimp only
  split
  · -- With the statement ending the words are read again, from the uppercase letter on.
    obtain ⟨chars, hchars⟩ := List.head?_eq_some_iff.mp hname
    left
    unfold Begins Text.lowerCamel
    rw [String.toList_ofList, hchars]
    exact Text.head?_lowerCamelChars hC hsigma hlower chars
  · exact Or.inr hname

end Identifier

end RecordSql
