import RecordSql.English.Irregular
import RecordSql.English.Rule
import RecordSql.Text.Case

/-!
# `RecordSql.English.Number`: singular and plural of a noun

A word is first looked up among the irregular nouns, then among the uncountable ones;
then the first ending rule that matches changes it. The result takes the case of the
word it comes from. Plurals are made of lowercase words only. Singulars are made of words
in any case, and there is no singular if a part of a capitalized word that has to keep its
case does not begin in ASCII: `Réus` has none, for its ending begins with `é`.
-/

set_option autoImplicit false

namespace RecordSql.English

/-- Why a word has no singular: it is capitalized, and a part of it that has to keep its
case does not begin in ASCII. -/
structure CaseClash where
  word : String
  part : String
deriving DecidableEq, Repr

/-- The wording of a clash. -/
def CaseClash.message (c : CaseClash) : String :=
  "cannot keep the case of '" ++ c.part ++ "' in '" ++ c.word ++ "'"

/-- Gives `text` the case of `word`: all lowercase, all uppercase, left as it is after a
word with a capital first letter, and lowercase otherwise. -/
def restoreCase (word text : List Char) : Except CaseClash (List Char) :=
  if word = text then .ok text
  else if word = Text.lower word then .ok (Text.lower text)
  else if word = Text.upper word then .ok (Text.upper text)
  else if (word.head?).any Letter.isUpper then
    if (text.head?).all Letter.isAscii then .ok text
    else .error ⟨String.ofList word, String.ofList text⟩
  else .ok (Text.lower text)

/-- Replaces every `$` that the given digit follows, together with the digit. -/
def fillSlot (digit : Char) (filling : List Char) : List Char → List Char
  | '$' :: d :: rest =>
    if d = digit then filling ++ fillSlot digit filling rest
    else '$' :: fillSlot digit filling (d :: rest)
  | c :: rest => c :: fillSlot digit filling rest
  | [] => []

/-- Fills the slots of a replacement one after the other, beginning with the given
number. A filling may bring a later slot with it. -/
def fillSlots (number : Nat) (fillings : List (List Char)) (text : List Char) : List Char :=
  match fillings with
  | [] => text
  | f :: fs => fillSlots (number + 1) fs (fillSlot (Nat.digitChar number) f text)

/-- Removes every `$` with the character after it, if there is one. -/
def dropSlots : List Char → List Char
  | '$' :: _ :: rest => dropSlots rest
  | ['$'] => []
  | c :: rest => c :: dropSlots rest
  | [] => []

section

/-! How a text takes the case of the word is left open here: `restore` gives it that case,
or fails. -/

variable {m : Type → Type} [Monad m] (restore : List Char → m (List Char))

/-- The word with the leftmost match of the rule replaced, if there is a match. -/
def Rule.replace? (rule : Rule) (word : List Char) : Option (m (List Char)) :=
  (rule.pattern.search word).map fun (before, o) => do
    let fillings ← (o.taken :: o.groups).mapM restore
    let text ← restore rule.replacement.toList
    -- Slots that are left over go, and so does a `$` of the word itself.
    return dropSlots (before ++ fillSlots 0 fillings text ++ o.rest)

/-- The word as the first rule that matches changes it, or unchanged. -/
def applyFirst (rules : List Rule) (word : List Char) : m (List Char) :=
  (rules.findSome? (·.replace? restore word)).getD (pure word)

/-- One number of a noun. `isForm` recognises irregular words that have this number
already and `form?` gives the irregular ones their form. -/
def inflect (isForm : String → Bool) (form? : String → Option String) (rules : List Rule)
    (word : List Char) : m (List Char) :=
  let key := String.ofList (Text.lower word)
  if isForm key then restore key.toList
  else match form? key with
    | some form => restore form.toList
    | none =>
      if key.isEmpty || uncountableWords.contains key then pure word
      else applyFirst restore (unchangedRules ++ rules) word

end

/-- The singular of a noun: `categories` becomes `category`. -/
def singular (noun : String) : Except CaseClash String :=
  let word := noun.toList
  (inflect (restoreCase word) (fun w => (irregularPlural? w).isSome) irregularSingular?
    singularRules word).map String.ofList

/-- The plural of a noun in lowercase: `category` becomes `categories`. -/
def plural (noun : String) : String :=
  String.ofList (Id.run (inflect (fun text => pure (Text.lower text))
    (fun w => (irregularSingular? w).isSome) irregularPlural? pluralRules noun.toList))

end RecordSql.English
