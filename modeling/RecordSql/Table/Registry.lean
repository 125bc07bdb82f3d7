/-!
# `RecordSql.Table.Registry`: named entries in the order of their names

A table collects its indexes and foreign keys by name. The entries stand in the order in
which their names first came up, and a map gives the place of the entry of each name.
-/

set_option autoImplicit false

namespace RecordSql.Table

/-- Named entries with the place of each name. -/
structure Registry (α : Type) where
  entries : List α := []
  places : List (String × Nat) := []
deriving DecidableEq, Repr

/-- Changes the entry of a name. A name that has none gets a fresh entry at the end,
which is then changed. -/
def Registry.update {α : Type} (r : Registry α) (name : String) (fresh : α) (change : α → α) :
    Registry α :=
  match r.places.lookup name with
  | some i => { r with entries := r.entries.modify i change }
  | none =>
    { entries := r.entries ++ [change fresh]
      places := (name, r.entries.length) :: r.places }

end RecordSql.Table
