import RecordSql.English.Pattern

/-!
# `RecordSql.English.Rule`: endings and what becomes of them

Each rule replaces the text that its pattern matches. In a replacement, `$0` stands for
the matched text and `$1`, `$2`, … for the texts of the groups that took part. The
lists are in order of trial, special endings before general ones.
-/

set_option autoImplicit false

namespace RecordSql.English

open Pattern

/-- A pattern and the text that replaces its match. -/
structure Rule where
  pattern : Pattern
  replacement : String
deriving DecidableEq, Repr

/-- Endings of words whose singular and plural are the same. -/
def unchangedRules : List Rule := [
  ⟨ending [text "sheep"], "$0"⟩,
  ⟨ending [text "pox"], "$0"⟩,
  ⟨ending [text "o", among "iu", text "s"], "$0"⟩,
  ⟨ending [text "measles"], "$0"⟩,
  ⟨ending [text "fish"], "$0"⟩,
  ⟨ending [text "deer"], "$0"⟩,
  ⟨ending [except "aeiou", text "ese"], "$0"⟩,
  ⟨ending [text "pok", among "eé", text "mon"], "$0"⟩]

/-- Endings and their plurals. The last rule applies to every word. -/
def pluralRules : List Rule := [
  ⟨ending [start, text "thou"], "you"⟩,
  ⟨ending [text "m", among "ae", text "n"], "men"⟩,
  ⟨ending [text "eaux"], "$0"⟩,
  ⟨ending [group (text "child"), maybe (text "ren")], "$1ren"⟩,
  ⟨ending [group (text "pe"), anyText ["rson", "ople"]], "$1ople"⟩,
  ⟨ending [edge, group (choice [chain [maybe (text "tit"), text "m"], text "l"]),
    anyText ["ice", "ouse"]], "$1ice"⟩,
  ⟨ending [group (anyText ["matr", "cod", "mur", "sil", "vert", "ind", "append"]),
    anyText ["ix", "ex"]], "$1ices"⟩,
  ⟨ending [group (anyText ["x", "ch", "ss", "sh", "zz"])], "$1es"⟩,
  ⟨ending [group (chain [except "ch", among "ieo", among "ln"]), text "ey"], "$1ies"⟩,
  ⟨ending [group (choice [except "aeiouy", text "qu"]), text "y"], "$1ies"⟩,
  ⟨ending [choice [chain [group (anyText ["kni", "wi", "li"]), text "fe"],
    chain [group (anyText ["ar", "l", "ea", "eo", "oa", "hoo"]), text "f"]]], "$1$2ves"⟩,
  ⟨ending [text "sis"], "ses"⟩,
  ⟨ending [group (anyText ["apheli", "hyperbat", "periheli", "asyndet", "noumen", "phenomen",
    "criteri", "organ", "prolegomen", "hedr", "automat"]), anyText ["a", "on"]], "$1a"⟩,
  ⟨ending [group (anyText ["agend", "addend", "millenni", "dat", "extrem", "bacteri",
    "desiderat", "strat", "candelabr", "errat", "ov", "symposi", "curricul", "automat",
    "quor"]), anyText ["a", "um"]], "$1a"⟩,
  ⟨ending [group (anyText ["her", "at", "gr"]), text "o"], "$1oes"⟩,
  ⟨ending [group (anyText ["seraph", "cherub"]), maybe (text "im")], "$1im"⟩,
  ⟨ending [group (anyText ["alumn", "alg", "vertebr"]), anyText ["a", "ae"]], "$1ae"⟩,
  ⟨ending [group (anyText ["alumn", "syllab", "vir", "radi", "nucle", "fung", "cact", "stimul",
    "termin", "bacill", "foc", "uter", "loc", "strat"]), anyText ["us", "i"]], "$1i"⟩,
  ⟨ending [group (choice [chain [except "l", text "ias"], chain [among "aeiou", text "las"],
    chain [among "ejzr", text "as"], chain [among "iu", text "am"]])], "$1"⟩,
  ⟨ending [group (chain [text "e", among "mn", text "u"]), maybe (text "s")], "$1s"⟩,
  ⟨ending [group (choice [text "alias", chain [except "aou", text "us"], chain [text "t",
    among "lm", text "as"], text "gas", text "ris"])], "$1es"⟩,
  ⟨ending [group (anyText ["ax", "test"]), text "is"], "$1es"⟩,
  ⟨ending [group (chain [except "aeiou", text "ese"])], "$1"⟩,
  ⟨ending [foreign], "$0"⟩,
  ⟨ending [maybe (text "s")], "s"⟩]

/-- Endings and their singulars. -/
def singularRules : List Rule := [
  ⟨ending [text "men"], "man"⟩,
  ⟨ending [group (text "eau"), maybe (text "x")], "$1"⟩,
  ⟨ending [group (text "child"), text "ren"], "$1"⟩,
  ⟨ending [group (text "pe"), group (anyText ["rson", "ople"])], "$1rson"⟩,
  ⟨ending [group (anyText ["matr", "append"]), text "ices"], "$1ix"⟩,
  ⟨ending [group (anyText ["cod", "mur", "sil", "vert", "ind"]), text "ices"], "$1ex"⟩,
  ⟨ending [group (anyText ["alumn", "alg", "vertebr"]), text "ae"], "$1a"⟩,
  ⟨ending [group (anyText ["apheli", "hyperbat", "periheli", "asyndet", "noumen", "phenomen",
    "criteri", "organ", "prolegomen", "hedr", "automat"]), text "a"], "$1on"⟩,
  ⟨ending [group (anyText ["agend", "addend", "millenni", "dat", "extrem", "bacteri",
    "desiderat", "strat", "candelabr", "errat", "ov", "symposi", "curricul", "quor"]),
    text "a"], "$1um"⟩,
  ⟨ending [group (anyText ["alumn", "syllab", "vir", "radi", "nucle", "fung", "cact", "stimul",
    "termin", "bacill", "foc", "uter", "loc", "strat"]), anyText ["us", "i"]], "$1us"⟩,
  ⟨ending [group (text "test"), anyText ["is", "es"]], "$1is"⟩,
  ⟨ending [group (choice [text "movie", text "twelve", text "abuse", chain [text "e",
    among "mn", text "u"]]), text "s"], "$1"⟩,
  ⟨ending [group (anyText ["analy", "diagno", "parenthe", "progno", "synop", "the", "empha",
    "cri", "ne"]), anyText ["sis", "ses"]], "$1sis"⟩,
  ⟨ending [group (choice [text "x", text "ch", text "ss", text "sh", text "zz", text "tto",
    text "go", text "cho", text "alias", chain [except "aou", text "us"], chain [text "t",
    among "lm", text "as"], text "gas", chain [anyText ["her", "at", "gr"], text "o"],
    chain [among "aeiou", text "ris"]]), maybe (text "es")], "$1"⟩,
  ⟨ending [group (anyText ["seraph", "cherub"]), text "im"], "$1"⟩,
  ⟨ending [edge, group (choice [chain [maybe (text "tit"), text "m"], text "l"]), text "ice"],
    "$1ouse"⟩,
  ⟨ending [edge, group (anyText ["mon", "smil"]), text "ies"], "$1ey"⟩,
  ⟨ending [edge, group (choice [text "l", chain [maybe (anyText ["neck", "cross", "hog",
    "aun"]), text "t"], text "coll", text "faer", text "food", text "gen", text "goon",
    text "group", text "hipp", text "junk", text "vegg", chain [maybe (text "pork"), text "p"],
    text "charl", text "calor", text "cut"]), text "ies"], "$1ie"⟩,
  ⟨ending [group (anyText ["dg", "ss", "ois", "lk", "ok", "wn", "mb", "th", "ch", "ec", "oal",
    "is", "ck", "ix", "sser", "ts", "wb"]), text "ies"], "$1ie"⟩,
  ⟨ending [text "ies"], "y"⟩,
  ⟨ending [group (choice [text "ar", chain [choice [text "wo", among "ae"], text "l"],
    chain [among "eo", among "ao"]]), text "ves"], "$1f"⟩,
  ⟨ending [group (choice [text "wi", text "kni", chain [choice [text "after", text "half",
    text "high", text "low", text "mid", text "non", text "night", gap, start], text "li"]]),
    text "ves"], "$1fe"⟩,
  ⟨ending [group (text "ss")], "$1"⟩,
  ⟨ending [text "s"], ""⟩]

end RecordSql.English
