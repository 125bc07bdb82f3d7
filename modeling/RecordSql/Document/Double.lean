/-!
# `RecordSql.Document.Double`: rounding to double precision

A natural number has double precision if it is a number of at most 53 binary digits times
a power of two. Fractions are left out: only large numbers can be too large.
-/

set_option autoImplicit false

namespace RecordSql.Document.Double

/-- How many binary digits double precision has. -/
def precision : Nat := 53

/-- The nearest number of double precision; of two, the one whose last digit is even. -/
def nearest (n : Nat) : Nat :=
  let unit := Nat.pow 2 (n.log2 + 1 - precision)
  let count := n / unit
  let rest := n % unit
  if unit < 2 * rest || (unit == 2 * rest && count % 2 == 1) then (count + 1) * unit
  else count * unit

/-- The least number that rounds to infinity, `2 ^ 1024 - 2 ^ 970`. -/
def overflowBound : Nat :=
  Nat.pow 2 1024 - Nat.pow 2 970

/-- The greatest exponent of a finite power of ten. -/
def maxDecimalExponent : Nat := 308

end RecordSql.Document.Double
