/-!
# `RecordSql.Letter.Run`: evenly spaced code points

Properties of characters are stored as lists of runs. A run with step 1 is an
interval; a run with step 2 takes every other code point, which is how paired
lowercase and uppercase letters lie in most scripts.
-/

set_option autoImplicit false

namespace RecordSql.Letter

/-- The code points `first`, `first + step`, … up to `last`. -/
structure Run where
  first : Nat
  last : Nat
  step : Nat
deriving DecidableEq, Repr

namespace Run

/-- Whether a code point belongs to the run. -/
def contains (r : Run) (n : Nat) : Bool :=
  r.first ≤ n && n ≤ r.last && (n - r.first) % r.step == 0

/-- Whether a code point belongs to one of the runs. -/
def anyContains (rs : List Run) (n : Nat) : Bool :=
  rs.any (·.contains n)

end Run

/-- A run whose characters all map to the character `distance` code points further on. -/
structure Shift where
  run : Run
  distance : Int
deriving DecidableEq, Repr

/-- The image of a character under the first shift that covers it, or the character itself. -/
def Shift.apply (shifts : List Shift) (c : Char) : Char :=
  match shifts.find? (·.run.contains c.toNat) with
  | some s => Char.ofNat ((c.toNat : Int) + s.distance).toNat
  | none => c

end RecordSql.Letter
