import RecordSql.Document.Double

/-!
# `RecordSql.Document.Numeral`: the numbers of a document

The grammar of JSON numbers as a small machine that takes one character at a time, and
the limit on their size. A number is read as a significand of 64 bits, made of the leading
digits that fit, times a power of ten. Significand, power and product are rounded to double
precision one after the other, and the product may not become infinite.
-/

set_option autoImplicit false

namespace RecordSql.Document.Numeral

/-- How far a number has been read. -/
inductive Phase where
  /-- After the sign. -/
  | minus
  /-- After a leading zero. -/
  | zero
  /-- After a digit of an integer part without leading zero. -/
  | integer
  /-- After the decimal point. -/
  | point
  /-- After a digit of the fraction. -/
  | fraction
  /-- After the exponent mark. -/
  | mark
  /-- After the sign of the exponent. -/
  | sign
  /-- After a digit of the exponent. -/
  | exponent
  /-- After a digit that follows a leading zero; nothing can mend that. -/
  | spoilt
deriving DecidableEq, Repr

/-- The phase after one more character, or `none` if the number ends before it. -/
def Phase.next? : Phase → Char → Option Phase
  | minus, c => if c == '0' then some zero else if c.isDigit then some integer else none
  | zero, c =>
    if c == '.' then some point else if c == 'e' || c == 'E' then some mark
    else if c.isDigit then some spoilt else none
  | integer, c =>
    if c.isDigit then some integer else if c == '.' then some point
    else if c == 'e' || c == 'E' then some mark else none
  | point, c => if c.isDigit then some fraction else none
  | fraction, c =>
    if c.isDigit then some fraction else if c == 'e' || c == 'E' then some mark else none
  | mark, c =>
    if c == '+' || c == '-' then some sign else if c.isDigit then some exponent else none
  | sign, c => if c.isDigit then some exponent else none
  | exponent, c => if c.isDigit then some exponent else none
  | spoilt, _ => none

/-- Whether a number may end in this phase. -/
def Phase.isComplete : Phase → Bool
  | zero | integer | fraction | exponent => true
  | minus | point | mark | sign | spoilt => false

/-- The natural number that decimal digits denote. -/
def ofDigits (cs : List Char) : Nat :=
  Nat.ofDigitChars 10 cs 0

/-- The least number that is too large for a significand. -/
def significandBound : Nat :=
  Nat.pow 2 64

/-- Appends digits to a significand as far as there is room. Also gives the digits that are
left over. -/
def appendDigits (significand : Nat) : List Char → Nat × List Char
  | [] => (significand, [])
  | c :: cs =>
    let next := 10 * significand + ofDigits [c]
    if next < significandBound then appendDigits next cs else (significand, c :: cs)

/-- Whether `significand · 10 ^ scale` becomes infinite. With a negative scale it is less
than the significand. -/
def isTooLarge (significand : Nat) : Int → Bool
  | .negSucc _ => false
  | .ofNat scale =>
    if significand == 0 then false
    else if Double.maxDecimalExponent < scale then true
    else Double.overflowBound ≤ Double.nearest significand * Double.nearest (Nat.pow 10 scale)

/-- The exponent that the text after an exponent mark denotes. -/
def exponentOf : List Char → Int
  | '-' :: ds => -(ofDigits ds : Int)
  | '+' :: ds => ofDigits ds
  | ds => ofDigits ds

/-- Whether a complete number, given by its characters, is too large. Digits of the integer
part for which there is no room raise the scale, and those of the fraction are ignored. -/
def overflows (literal : List Char) : Bool :=
  let unsigned := literal.dropWhile (· == '-')
  let mantissa := unsigned.takeWhile fun c => c != 'e' && c != 'E'
  let exponent := exponentOf ((unsigned.drop mantissa.length).drop 1)
  let whole := mantissa.takeWhile (· != '.')
  let fraction := (mantissa.drop whole.length).drop 1
  let (integer, beyond) := appendDigits 0 whole
  let (significand, ignored) := appendDigits integer fraction
  isTooLarge significand (exponent + beyond.length + ignored.length - fraction.length)

end RecordSql.Document.Numeral
