/-!
# `RecordSql.Text.Blank`: white space

White space is the Unicode property White_Space, 25 characters in all. Names and tag
parts are read with the white space around them removed; index tags drop it
everywhere.
-/

set_option autoImplicit false

namespace RecordSql.Text

/-- The property White_Space. -/
def isBlank (c : Char) : Bool :=
  let n := c.toNat
  (0x09 ≤ n && n ≤ 0x0D) || n == 0x20 || n == 0x85 || n == 0xA0 || n == 0x1680
    || (0x2000 ≤ n && n ≤ 0x200A) || n == 0x2028 || n == 0x2029 || n == 0x202F
    || n == 0x205F || n == 0x3000

/-- The text without the white space at its end. -/
def trimEnd (cs : List Char) : List Char :=
  (cs.reverse.dropWhile isBlank).reverse

/-- The text without the white space at its two ends. -/
def trim (cs : List Char) : List Char :=
  trimEnd (cs.dropWhile isBlank)

/-- The text without any white space. -/
def removeBlanks (cs : List Char) : List Char :=
  cs.filter (!isBlank ·)

/-- The string without the white space at its two ends. -/
def trimmed (s : String) : String :=
  String.ofList (trim s.toList)

end RecordSql.Text
