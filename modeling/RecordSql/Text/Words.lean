import RecordSql.Letter.Basic
import RecordSql.Text.Split

/-!
# `RecordSql.Text.Words`: words of an identifier and the ways to write them

An identifier is cut into words at every character that is neither letter nor number
and at changes of case: after a lowercase letter that an uppercase one follows, and
before the last capital of a row of capitals that a lowercase letter follows.

```text
HTTPServer_v2Name   has the words   HTTP Server v2 Name
                    snake case      http_server_v2_name
                    upper camel     HttpServerV2Name
                    lower camel     httpServerV2Name
```
-/

set_option autoImplicit false

namespace RecordSql.Text

/-- The case of the word read so far: not known yet, or that of its last cased letter. -/
inductive CaseMode where
  | unknown
  | lower
  | upper
deriving DecidableEq, Repr

/-- The mode after a character that continues the word. -/
def CaseMode.next (mode : CaseMode) (c : Char) : CaseMode :=
  if Letter.isLower c then .lower else if Letter.isUpper c then .upper else mode

/-- The words of a piece without separators. `word` holds the characters of the current
word, last one first. -/
def wordsOfPiece (mode : CaseMode) (word : List Char) : List Char → List (List Char)
  | [] => []
  | [c] => [(c :: word).reverse]
  | c :: d :: rest =>
    -- `blogPost`: the word ends after `g`. A digit keeps the mode, so `v2Name` is cut too.
    if mode.next c = .lower && Letter.isUpper d then
      (c :: word).reverse :: wordsOfPiece .unknown [] (d :: rest)
    -- `HTTPServer`: the word ends before `S`, which starts the next one.
    else if mode = .upper && Letter.isUpper c && Letter.isLower d then
      word.reverse :: wordsOfPiece .unknown [c] (d :: rest)
    else
      wordsOfPiece (mode.next c) (c :: word) (d :: rest)

/-- The words of a text, in order. -/
def words (cs : List Char) : List (List Char) :=
  (split (!Letter.isAlphanumeric ·) cs).flatMap (wordsOfPiece .unknown [])

/-- A word in lowercase. A capital sigma at the very end becomes `ς`. -/
def lowerWord : List Char → List Char
  | [] => []
  | [c] => if c == 'Σ' then ['ς'] else Letter.lower c
  | c :: d :: rest => Letter.lower c ++ lowerWord (d :: rest)

/-- A word with its first character in uppercase and the rest in lowercase. -/
def capitalize : List Char → List Char
  | [] => []
  | c :: rest => Letter.upper c ++ lowerWord rest

/-- The words in lowercase with underscores between them. -/
def snakeChars (cs : List Char) : List Char :=
  ['_'].intercalate ((words cs).map lowerWord)

/-- The words capitalized, with nothing between them. -/
def upperCamelChars (cs : List Char) : List Char :=
  (words cs).flatMap capitalize

/-- The words with nothing between them, all but the first capitalized. -/
def lowerCamelChars (cs : List Char) : List Char :=
  match words cs with
  | [] => []
  | first :: rest => lowerWord first ++ rest.flatMap capitalize

/-- Snake case: `BlogPost` becomes `blog_post`. -/
def snake (s : String) : String :=
  String.ofList (snakeChars s.toList)

/-- Upper camel case: `blog_post` becomes `BlogPost`. -/
def upperCamel (s : String) : String :=
  String.ofList (upperCamelChars s.toList)

/-- Lower camel case: `blog_post` becomes `blogPost`. -/
def lowerCamel (s : String) : String :=
  String.ofList (lowerCamelChars s.toList)

end RecordSql.Text
