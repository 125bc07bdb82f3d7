import RecordSql.Text.Blank
import RecordSql.Text.Case

/-!
# `RecordSql.Tag.Operator`: comparisons in a condition

A condition compares a column with a bound value: by equality, by `LIKE`, or by a
function of the two.
-/

set_option autoImplicit false

namespace RecordSql.Tag

/-- A comparison of a column with a bound value. -/
inductive Operator where
  | equal
  | like
  /-- A function with a given name. -/
  | call (function : String)
deriving DecidableEq, Repr, Inhabited

/-- The operator that a trimmed text denotes: nothing and `=` mean equality, `like` in any
case means `LIKE`, and anything else is a function. -/
def Operator.ofWord (word : List Char) : Operator :=
  if word = [] || word = ['='] then equal
  else if Text.sameIgnoringAsciiCase word ['l', 'i', 'k', 'e'] then like
  else call (String.ofList word)

/-- The operator that a text denotes. White space around it does not count. -/
def Operator.ofToken (token : String) : Operator :=
  ofWord (Text.trim token.toList)

end RecordSql.Tag
