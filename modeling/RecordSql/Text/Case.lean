import RecordSql.Letter.Basic

/-!
# `RecordSql.Text.Case`: lowercase and uppercase of a whole text

Every character takes its full case form. The one letter that needs its surroundings is
the capital sigma: at the end of a word its lowercase form is `ς`, elsewhere `σ`.
-/

set_option autoImplicit false

namespace RecordSql.Text

/-- Whether the first character that is not case-ignorable is a cased letter. -/
def meetsCased (cs : List Char) : Bool :=
  match cs.dropWhile Letter.isCaseIgnorable with
  | [] => false
  | c :: _ => Letter.isCased c

/-- A capital sigma ends a word when a cased letter stands before it and none after it. -/
def isFinalSigma (before after : List Char) : Bool :=
  meetsCased before && !meetsCased after

/-- Lowercase of a text whose preceding characters, last one first, are `before`. -/
def lowerAfter (before : List Char) : List Char → List Char
  | [] => []
  | c :: cs =>
    (if c == 'Σ' then [if isFinalSigma before cs then 'ς' else 'σ'] else Letter.lower c)
      ++ lowerAfter (c :: before) cs

/-- The text in lowercase. -/
def lower (cs : List Char) : List Char :=
  lowerAfter [] cs

/-- The text in uppercase. -/
def upper (cs : List Char) : List Char :=
  cs.flatMap Letter.upper

/-- The text with the ASCII letters in lowercase and everything else unchanged. -/
def asciiLower (cs : List Char) : List Char :=
  cs.map Char.toLower

/-- Equality up to the case of ASCII letters. -/
def sameIgnoringAsciiCase (cs ds : List Char) : Bool :=
  asciiLower cs == asciiLower ds

end RecordSql.Text
