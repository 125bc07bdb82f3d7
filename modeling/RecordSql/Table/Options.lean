/-!
# `RecordSql.Table.Options`: settings of loading

Validation is lenient unless it is asked to be strict.
-/

set_option autoImplicit false

namespace RecordSql.Table

/-- How issues are dealt with. -/
inductive Validation where
  /-- They are passed over. -/
  | lenient
  /-- The first one is an error. -/
  | strict
deriving DecidableEq, Repr, Inhabited

/-- The settings of loading. -/
structure LoadOptions where
  validation : Validation := .lenient
deriving DecidableEq, Repr, Inhabited

namespace LoadOptions

/-- The settings with strict validation. -/
def strict (o : LoadOptions) : LoadOptions :=
  { o with validation := .strict }

/-- The settings with lenient validation. -/
def lenient (o : LoadOptions) : LoadOptions :=
  { o with validation := .lenient }

/-- Whether validation is strict. -/
def isStrict (o : LoadOptions) : Bool :=
  o.validation = .strict

end LoadOptions

end RecordSql.Table
