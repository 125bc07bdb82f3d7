import RecordSql.Document.Numeral
import RecordSql.Document.Value

/-!
# `RecordSql.Proofs.Grammar`: which texts are documents of which values

The grammar of JSON as a relation between a text and the value that it spells. The relation says
where white space may stand, how numbers and strings are written, and that commas stand between
items and entries only. It knows nothing of the scanner, the reader or the printer: what these
do is compared with it.

The same value has many spellings, as white space and escapes are free. A number keeps the way
it is written, unless it has digits only. A number that is too large for double precision spells
nothing.
-/

set_option autoImplicit false

namespace RecordSql.Document

/-! ### White space and numbers -/

/-- White space between tokens. -/
def IsGap (text : List Char) : Prop :=
  ∀ c ∈ text, c ∈ [' ', '\t', '\n', '\r']

/-- At least one digit, and nothing else. -/
def AreDigits (text : List Char) : Prop :=
  text ≠ [] ∧ ∀ c ∈ text, c.isDigit = true

/-- The whole part of a number: a zero, or digits that do not begin with it. -/
def IsWhole (text : List Char) : Prop :=
  text = ['0'] ∨ AreDigits text ∧ text.head? ≠ some '0'

/-- The fraction of a number, which may be missing. -/
def IsFraction (text : List Char) : Prop :=
  text = [] ∨ ∃ digits, AreDigits digits ∧ text = '.' :: digits

/-- The exponent of a number, which may be missing. -/
def IsExponent (text : List Char) : Prop :=
  text = [] ∨ ∃ mark ∈ ['e', 'E'], ∃ sign ∈ [[], ['+'], ['-']], ∃ digits,
    AreDigits digits ∧ text = mark :: (sign ++ digits)

/-- A number. -/
def IsNumber (text : List Char) : Prop :=
  ∃ sign ∈ [[], ['-']], ∃ whole fraction exponent,
    IsWhole whole ∧ IsFraction fraction ∧ IsExponent exponent ∧
      text = sign ++ (whole ++ (fraction ++ exponent))

/-! ### Strings -/

/-- The hexadecimal digits in the order of their values, in each case. -/
def hexDigits : List (List Char) :=
  ["0123456789abcdef".toList, "0123456789ABCDEF".toList]

/-- The character is a hexadecimal digit with this value. -/
def IsHexDigit (c : Char) (n : Nat) : Prop :=
  ∃ digits ∈ hexDigits, digits[n]? = some c

/-- Four hexadecimal digits with this value. -/
def IsHexUnit (text : List Char) (n : Nat) : Prop :=
  ∃ a b c d i j k l, text = [a, b, c, d] ∧ IsHexDigit a i ∧ IsHexDigit b j ∧ IsHexDigit c k ∧
    IsHexDigit d l ∧ n = 16 * (16 * (16 * i + j) + k) + l

/-- The letters that may follow a backslash, with the characters that they stand for. -/
def shortEscapes : List (Char × Char) :=
  [('"', '"'), ('\\', '\\'), ('/', '/'), ('b', '\x08'), ('f', '\x0c'), ('n', '\n'), ('r', '\r'),
    ('t', '\t')]

/-- The text between two quotes spells these characters. A character stands for itself unless it
is a quote, a backslash or a control character. Any character may be given by its code instead,
and one above U+FFFF by two surrogates. -/
inductive SpellsChars : List Char → List Char → Prop where
  | nil : SpellsChars [] []
  | plain {c : Char} {text cs : List Char} (hquote : c ≠ '"') (hbackslash : c ≠ '\\')
      (hcontrol : 0x20 ≤ c.toNat) (h : SpellsChars text cs) : SpellsChars (c :: text) (c :: cs)
  | short {letter c : Char} {text cs : List Char} (hletter : (letter, c) ∈ shortEscapes)
      (h : SpellsChars text cs) : SpellsChars ('\\' :: letter :: text) (c :: cs)
  | unit {c : Char} {digits text cs : List Char} (hdigits : IsHexUnit digits c.toNat)
      (h : SpellsChars text cs) : SpellsChars ('\\' :: 'u' :: (digits ++ text)) (c :: cs)
  | pair {c : Char} {first second text cs : List Char} (hpair : 0x10000 ≤ c.toNat)
      (hfirst : IsHexUnit first (0xD800 + (c.toNat - 0x10000) / 0x400))
      (hsecond : IsHexUnit second (0xDC00 + (c.toNat - 0x10000) % 0x400))
      (h : SpellsChars text cs) :
      SpellsChars ('\\' :: 'u' :: (first ++ '\\' :: 'u' :: (second ++ text))) (c :: cs)

/-- The text spells a string, with its quotes. -/
def SpellsString (text : List Char) (s : String) : Prop :=
  ∃ inner, SpellsChars inner s.toList ∧ text = '"' :: (inner ++ ['"'])

/-! ### Values -/

/-- What a part of a document may stand for. -/
inductive Phrase where
  | value (v : Value)
  /-- All items of an array, of which there is at least one. -/
  | items (v : Value) (vs : List Value)
  | entry (e : String × Value)
  /-- All entries of an object, of which there is at least one. -/
  | entries (e : String × Value) (es : List (String × Value))

/-- The text spells the phrase. -/
inductive Spells : List Char → Phrase → Prop where
  | null : Spells ['n', 'u', 'l', 'l'] (.value .null)
  | true : Spells ['t', 'r', 'u', 'e'] (.value (.bool true))
  | false : Spells ['f', 'a', 'l', 's', 'e'] (.value (.bool false))
  | natural {text : List Char} (hwhole : IsWhole text) (hsize : Numeral.overflows text = false) :
      Spells text (.value (.natural (Numeral.ofDigits text)))
  | real {text : List Char} (hnumber : IsNumber text) (hmore : text.all Char.isDigit = false)
      (hsize : Numeral.overflows text = false) :
      Spells text (.value (.real (String.ofList text)))
  | string {text : List Char} {s : String} (h : SpellsString text s) :
      Spells text (.value (.string s))
  | emptyArray {gap : List Char} (hgap : IsGap gap) :
      Spells ('[' :: (gap ++ [']'])) (.value (.array []))
  | array {text : List Char} {v : Value} {vs : List Value} (h : Spells text (.items v vs)) :
      Spells ('[' :: (text ++ [']'])) (.value (.array (v :: vs)))
  | lastItem {before text after : List Char} {v : Value} (hbefore : IsGap before)
      (h : Spells text (.value v)) (hafter : IsGap after) :
      Spells (before ++ (text ++ after)) (.items v [])
  | item {before text after more : List Char} {v w : Value} {vs : List Value}
      (hbefore : IsGap before) (h : Spells text (.value v)) (hafter : IsGap after)
      (hmore : Spells more (.items w vs)) :
      Spells (before ++ (text ++ (after ++ ',' :: more))) (.items v (w :: vs))
  | emptyObject {gap : List Char} (hgap : IsGap gap) :
      Spells ('\x7b' :: (gap ++ ['\x7d'])) (.value (.object []))
  | object {text : List Char} {e : String × Value} {es : List (String × Value)}
      (h : Spells text (.entries e es)) :
      Spells ('\x7b' :: (text ++ ['\x7d'])) (.value (.object (e :: es)))
  | entry {key before after text : List Char} {name : String} {v : Value}
      (hkey : SpellsString key name) (hbefore : IsGap before) (hafter : IsGap after)
      (h : Spells text (.value v)) :
      Spells (key ++ (before ++ ':' :: (after ++ text))) (.entry (name, v))
  | lastEntry {before text after : List Char} {e : String × Value} (hbefore : IsGap before)
      (h : Spells text (.entry e)) (hafter : IsGap after) :
      Spells (before ++ (text ++ after)) (.entries e [])
  | entries {before text after more : List Char} {e f : String × Value}
      {es : List (String × Value)} (hbefore : IsGap before) (h : Spells text (.entry e))
      (hafter : IsGap after) (hmore : Spells more (.entries f es)) :
      Spells (before ++ (text ++ (after ++ ',' :: more))) (.entries e (f :: es))

/-- The text is a document of the value: white space may stand around it. -/
def IsDocument (text : String) (v : Value) : Prop :=
  ∃ before inner after, IsGap before ∧ Spells inner (.value v) ∧ IsGap after ∧
    text.toList = before ++ (inner ++ after)

/-- The value can be read where so many arrays and objects may still be opened, and it can be
written: its numbers are numbers of documents. -/
inductive Value.Fits : Nat → Value → Prop where
  | null {room : Nat} : Value.Fits room .null
  | bool {room : Nat} {b : Bool} : Value.Fits room (.bool b)
  | natural {room n : Nat} (hsize : Numeral.overflows (Nat.toDigits 10 n) = false) :
      Value.Fits room (.natural n)
  | real {room : Nat} {literal : String} (hnumber : IsNumber literal.toList)
      (hmore : literal.toList.all Char.isDigit = false)
      (hsize : Numeral.overflows literal.toList = false) : Value.Fits room (.real literal)
  | string {room : Nat} {s : String} : Value.Fits room (.string s)
  | array {room : Nat} {vs : List Value} (h : ∀ v ∈ vs, Value.Fits room v) :
      Value.Fits (room + 1) (.array vs)
  | object {room : Nat} {es : List (String × Value)} (h : ∀ e ∈ es, Value.Fits room e.2) :
      Value.Fits (room + 1) (.object es)

end RecordSql.Document
