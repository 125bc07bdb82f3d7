/-!
# `RecordSql.English.Irregular`: words that follow no rule

Pairs of a singular and its plural that no ending rule covers, and words whose singular
and plural are the same. Several singulars may share a plural; the last pair with that
plural then gives its singular.
-/

set_option autoImplicit false

namespace RecordSql.English

/-- Irregular nouns and pronouns, singular first. -/
def irregularPairs : List (String × String) := [
  ("I", "we"), ("me", "us"), ("he", "they"), ("she", "they"), ("them", "them"),
  ("myself", "ourselves"), ("yourself", "yourselves"), ("itself", "themselves"),
  ("herself", "themselves"), ("himself", "themselves"), ("themself", "themselves"),
  ("is", "are"), ("was", "were"), ("has", "have"), ("this", "these"), ("that", "those"),
  ("my", "our"), ("its", "their"), ("his", "their"), ("her", "their"), ("echo", "echoes"),
  ("dingo", "dingoes"), ("volcano", "volcanoes"), ("tornado", "tornadoes"),
  ("torpedo", "torpedoes"), ("genus", "genera"), ("viscus", "viscera"), ("stigma", "stigmata"),
  ("stoma", "stomata"), ("dogma", "dogmata"), ("lemma", "lemmata"), ("schema", "schemata"),
  ("anathema", "anathemata"), ("ox", "oxen"), ("axe", "axes"), ("die", "dice"),
  ("yes", "yeses"), ("foot", "feet"), ("eave", "eaves"), ("goose", "geese"),
  ("tooth", "teeth"), ("quiz", "quizzes"), ("human", "humans"), ("proof", "proofs"),
  ("carve", "carves"), ("valve", "valves"), ("looey", "looies"), ("thief", "thieves"),
  ("groove", "grooves"), ("pickaxe", "pickaxes"), ("passerby", "passersby"),
  ("canvas", "canvases")]

/-- Words that have no plural of their own. -/
def uncountableWords : List String := [
  "adulthood", "advice", "agenda", "aid", "aircraft", "alcohol", "ammo", "analytics", "anime",
  "athletics", "audio", "bison", "blood", "bream", "buffalo", "butter", "carp", "cash",
  "chassis", "chess", "clothing", "cod", "commerce", "cooperation", "corps", "debris",
  "diabetes", "digestion", "elk", "energy", "equipment", "excretion", "expertise", "firmware",
  "flounder", "fun", "gallows", "garbage", "graffiti", "hardware", "headquarters", "health",
  "herpes", "highjinks", "homework", "housework", "information", "jeans", "justice", "kudos",
  "labour", "literature", "machinery", "mackerel", "mail", "media", "mews", "moose", "music",
  "mud", "manga", "news", "only", "personnel", "pike", "plankton", "pliers", "police",
  "pollution", "premises", "rain", "research", "rice", "salmon", "scissors", "series",
  "sewage", "shambles", "shrimp", "software", "staff", "swine", "tennis", "traffic",
  "transportation", "trout", "tuna", "wealth", "welfare", "whiting", "wildebeest", "wildlife",
  "you"]

/-- The plural of an irregular singular. -/
def irregularPlural? (word : String) : Option String :=
  (irregularPairs.find? (·.1 == word)).map (·.2)

/-- The singular of an irregular plural. -/
def irregularSingular? (word : String) : Option String :=
  (irregularPairs.reverse.find? (·.2 == word)).map (·.1)

end RecordSql.English
