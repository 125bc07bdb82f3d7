import RecordSql.Catalog.Offer

/-!
# `RecordSql.Catalog.Draft`: making a catalog from offers

Offers are taken up one after the other. A label belongs to the first statement that has
it. A later offer of the same text is passed over; one of another text is tried once more
with its qualifier in the label, and is dropped with a warning if that does not help.
-/

set_option autoImplicit false

namespace RecordSql.Catalog

/-- A statement that was dropped, by the label that it had last. -/
structure Dropped where
  table : String
  label : String
deriving DecidableEq, Repr

/-- The wording of the warning about a dropped statement. -/
def Dropped.message : String :=
  "Dropping statement whose label is taken by different SQL"

/-- A catalog in the making. -/
structure Draft where
  table : String
  statements : List Statement := []
  /-- The place of the statement of each label. -/
  labels : List (String × Nat) := []
  dropped : List Dropped := []
deriving DecidableEq, Repr

namespace Draft

/-- The statement to which a label belongs. -/
def holder? (r : Draft) (label : String) : Option Statement :=
  (r.labels.lookup label).bind fun i => r.statements[i]?

/-- Appends a statement and records its label. -/
def add (r : Draft) (s : Statement) : Draft :=
  { r with
    statements := r.statements ++ [s]
    labels := (s.label, r.statements.length) :: r.labels }

/-- Records that a statement is dropped. -/
def drop (r : Draft) (label : String) : Draft :=
  { r with dropped := r.dropped ++ [⟨r.table, label⟩] }

/-- Takes up a statement under a label; `otherwise` says what to do with it if the label
belongs to another text. -/
def offerAs (r : Draft) (kind : StatementKind) (sql label : String) (otherwise : Draft) :
    Draft :=
  match r.holder? label with
  | none => r.add ⟨label, kind, sql⟩
  | some s => if s.sql = sql then r else otherwise

/-- Takes up an offer. -/
def take (r : Draft) (o : Offer) : Draft :=
  let label := Identifier.label o.label
  r.offerAs o.kind o.sql label <|
    match o.qualifier with
    | none => r.drop label
    | some q =>
      let label := Identifier.label (Offer.qualifiedLabel o.label q)
      r.offerAs o.kind o.sql label (r.drop label)

/-- The catalog of what has been taken up. -/
def toCatalog (r : Draft) : Catalog :=
  ⟨r.table, r.statements⟩

end Draft

/-- The draft that has taken up all that a table calls for. -/
def draft (d : Sql.Dialect) (t : Table) : Except English.CaseClash Draft :=
  (offers d t).map fun os => os.foldl Draft.take { table := t.name }

/-- The catalog of a table. -/
def build (d : Sql.Dialect) (t : Table) : Except English.CaseClash Catalog :=
  (draft d t).map Draft.toCatalog

end RecordSql.Catalog
