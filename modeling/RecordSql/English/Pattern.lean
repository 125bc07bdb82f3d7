import RecordSql.Letter.Basic

/-!
# `RecordSql.English.Pattern`: patterns over word endings

A small pattern language without repetition: characters and classes of characters,
sequences, choices, remembered groups, the two ends of the text and word boundaries.
A pattern has finitely many outcomes at a place, listed in order of preference: an
earlier branch of a choice before a later one. A search takes the first outcome at the
first place that has one. Case never matters.
-/

set_option autoImplicit false

namespace RecordSql.English

/-- A pattern over the characters of a word. -/
inductive Pattern where
  /-- The empty text. -/
  | nothing
  /-- One letter, given in lowercase, in either case. -/
  | letter (c : Char)
  /-- One of the letters, given in lowercase, in either case. -/
  | oneOf (cs : List Char)
  /-- A character that is none of the letters in either case. -/
  | noneOf (cs : List Char)
  /-- A character outside ASCII that is not the other case of an ASCII letter. -/
  | foreign
  /-- A character that is no part of a word. -/
  | gap
  /-- One pattern, then another. -/
  | seq (p q : Pattern)
  /-- One pattern or, by lower preference, another. -/
  | alt (p q : Pattern)
  /-- A pattern whose text is remembered. -/
  | group (p : Pattern)
  /-- The place before the first character. -/
  | start
  /-- The place after the last character. -/
  | finish
  /-- A place with a word character on exactly one side. -/
  | edge
deriving DecidableEq, Repr

namespace Pattern

/-- The pattern of a fixed text. -/
def text (s : String) : Pattern :=
  s.toList.foldr (fun c p => seq (letter c) p) nothing

/-- The patterns one after the other. -/
def chain (ps : List Pattern) : Pattern :=
  ps.foldr seq nothing

/-- The patterns one after the other at the end of the text. -/
def ending (ps : List Pattern) : Pattern :=
  chain (ps ++ [finish])

/-- The first of the patterns that leads to a match. -/
def choice : List Pattern → Pattern
  | [] => nothing
  | [p] => p
  | p :: ps => alt p (choice ps)

/-- One of the fixed texts, the earlier ones first. -/
def anyText (ss : List String) : Pattern :=
  choice (ss.map text)

/-- The pattern or, by lower preference, nothing. -/
def maybe (p : Pattern) : Pattern :=
  alt p nothing

/-- One of the letters of a string. -/
def among (s : String) : Pattern :=
  oneOf s.toList

/-- A character that is none of the letters of a string. -/
def except (s : String) : Pattern :=
  noneOf s.toList

/-- The lowercase letter of which a character is a case form, as far as patterns
distinguish letters: ASCII letters with the long s and the Kelvin sign, and `é`. -/
def fold (c : Char) : Char :=
  if c == 'ſ' then 's' else if c == '\u212A' then 'k' else if c == 'É' then 'é' else c.toLower

/-- One way to match: the matched text, what follows it, and the remembered texts in the
order in which their groups open. -/
structure Outcome where
  taken : List Char
  rest : List Char
  groups : List (List Char)
deriving DecidableEq, Repr

/-- The outcome that takes the next character. -/
def takeIf (ok : Char → Bool) : List Char → List Outcome
  | [] => []
  | c :: cs => if ok c then [⟨[c], cs, []⟩] else []

/-- The outcome that takes nothing, if the place is right. -/
def stayIf (ok : Bool) (rest : List Char) : List Outcome :=
  if ok then [⟨[], rest, []⟩] else []

/-- Whether the nearest character is a word character. -/
def touchesWord : List Char → Bool
  | [] => false
  | c :: _ => Letter.isWordPart c

/-- The outcomes of a pattern at a place, the preferred ones first. `before` holds the
characters in front of the place, nearest first. -/
def outcomes : Pattern → (before rest : List Char) → List Outcome
  | nothing, _, rest => stayIf true rest
  | letter c, _, rest => takeIf (fold · == c) rest
  | oneOf cs, _, rest => takeIf (fun c => cs.contains (fold c)) rest
  | noneOf cs, _, rest => takeIf (fun c => !cs.contains (fold c)) rest
  | foreign, _, rest => takeIf (fun c => !Letter.isAscii (fold c)) rest
  | gap, _, rest => takeIf (fun c => !Letter.isWordPart c) rest
  | seq p q, before, rest =>
    (outcomes p before rest).flatMap fun o =>
      (outcomes q (o.taken.reverse ++ before) o.rest).map fun o' =>
        ⟨o.taken ++ o'.taken, o'.rest, o.groups ++ o'.groups⟩
  | alt p q, before, rest => outcomes p before rest ++ outcomes q before rest
  | group p, before, rest =>
    (outcomes p before rest).map fun o => ⟨o.taken, o.rest, o.taken :: o.groups⟩
  | start, before, rest => stayIf before.isEmpty rest
  | finish, _, rest => stayIf rest.isEmpty rest
  | edge, before, rest => stayIf (touchesWord before != touchesWord rest) rest

/-- The preferred outcome at the first place that has one, with the characters in front
of that place, nearest first. -/
def searchAfter (p : Pattern) (before : List Char) :
    List Char → Option (List Char × Outcome)
  | [] => ((outcomes p before []).head?).map (before, ·)
  | c :: cs =>
    match outcomes p before (c :: cs) with
    | o :: _ => some (before, o)
    | [] => searchAfter p (c :: before) cs

/-- The leftmost match of a pattern in a text: what stands before it, and its outcome. -/
def search (p : Pattern) (cs : List Char) : Option (List Char × Outcome) :=
  (searchAfter p [] cs).map fun (before, o) => (before.reverse, o)

end Pattern

end RecordSql.English
