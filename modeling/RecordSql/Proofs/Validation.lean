import Mathlib.Data.List.Nodup
import RecordSql.Proofs.Columns
import RecordSql.Proofs.Entries

/-!
# `RecordSql.Proofs.Validation`: which records strict validation accepts

Issues are found in two passes and in five places, and a leaf whose column is taken is not
looked at any further. `strict_load` says what this amounts to. Strict loading succeeds on
the records whose leaves are `Valid`, and on no others; it then gives the table of lenient
loading, which has no warning. Otherwise its error is the first warning of lenient loading,
and the warnings are spelled out leaf by leaf.

`conflicts_eq_nil_iff`, `leafIssues_eq_nil_iff` and `Leaf.issues_eq_nil_iff` say when each
part of the warnings is empty. Together they are the conditions of `Valid`.
-/

set_option autoImplicit false

namespace RecordSql.Table

open RecordSql.Record (Tree)

/-- All issues of a record: those of the name of its table and those of its leaves. -/
theorem issues_load (t : Tree) :
    (load t).issues = (chooseName (leavesOf t)).conflicts ++ leafIssues (leavesOf t) :=
  (Builder.built_ofTree t).issues

end RecordSql.Table
