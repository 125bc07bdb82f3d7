import RecordSql.Letter.Age
import RecordSql.Letter.Alphabetic
import RecordSql.Letter.WordMark
import RecordSql.Letter.Cased
import RecordSql.Letter.Mapping

/-!
# `RecordSql.Letter.Basic`: classes and case forms of one character

Letters, numbers and case after the properties of Unicode 17.0. Characters up to U+007F are
decided directly; the others are looked up in the tables, so a statement about ASCII
text never has to open a table.
-/

set_option autoImplicit false

namespace RecordSql.Letter

/-- Whether a character lies in the ASCII range. -/
def isAscii (c : Char) : Bool :=
  c.toNat < 0x80

/-- A letter: the property Alphabetic. -/
def isAlphabetic (c : Char) : Bool :=
  if isAscii c then c.isAlpha else Run.anyContains alphabeticRuns c.toNat

/-- A number: one of the categories Nd, Nl and No. -/
def isNumber (c : Char) : Bool :=
  if isAscii c then c.isDigit else Run.anyContains numberRuns c.toNat

/-- A letter or a number; every other character separates words. -/
def isAlphanumeric (c : Char) : Bool :=
  isAlphabetic c || isNumber c

/-- A character that continues a word for the purpose of a word boundary. Characters of
the latest age do not. -/
def isWordPart (c : Char) : Bool :=
  if isAscii c then c.isAlphanum || c == '_'
  else (isAlphabetic c || Run.anyContains wordMarkRuns c.toNat)
    && !Run.anyContains latestAgeRuns c.toNat

/-- The property Lowercase. -/
def isLower (c : Char) : Bool :=
  if isAscii c then c.isLower else Run.anyContains lowercaseRuns c.toNat

/-- The property Uppercase. -/
def isUpper (c : Char) : Bool :=
  if isAscii c then c.isUpper else Run.anyContains uppercaseRuns c.toNat

/-- A letter that has case: lowercase, uppercase or titlecase. -/
def isCased (c : Char) : Bool :=
  isLower c || isUpper c || Run.anyContains titlecaseRuns c.toNat

/-- A character that is passed over when looking for the nearest cased letter. -/
def isCaseIgnorable (c : Char) : Bool :=
  Run.anyContains caseIgnorableRuns c.toNat

/-- The form of a character in a table of longer forms and a table of shifts. -/
def mapped (forms : List (Nat × List Nat)) (shifts : List Shift) (c : Char) : List Char :=
  match forms.lookup c.toNat with
  | some ns => ns.map Char.ofNat
  | none => [Shift.apply shifts c]

/-- The full lowercase form of a character: one character, or two for `İ`. -/
def lower (c : Char) : List Char :=
  if isAscii c then [c.toLower] else mapped lowerForms lowerShifts c

/-- The full uppercase form of a character: up to three characters, `SS` for `ß`. -/
def upper (c : Char) : List Char :=
  if isAscii c then [c.toUpper] else mapped upperForms upperShifts c

end RecordSql.Letter
