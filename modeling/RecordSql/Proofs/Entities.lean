import Mathlib.Data.List.Infix
import RecordSql.Proofs.Draft

/-!
# `RecordSql.Proofs.Entities`: names without an entity

The entity of a name is its singular. What becomes of an ending is put into the case of the word,
and that fails in a capitalized word of mixed case for a text that does not begin in ASCII. The
texts that take the case of a word are traced back to it:

* `Pattern.cuts_of_mem_outcomes`: a match cuts the word in two, and what its groups remember are
  pieces of what it takes.
* `inflect_eq_error`: an inflection fails only for a piece of the word, for an irregular word or for
  a replacement (`TakesCase`).
* `singular_eq_error`: irregular words and replacements are ASCII, so it is a piece of the word that
  cannot take its case, as the clash says (`CaseClash.Justified`).

So tables whose names are ASCII or in lowercase have all entities (`hasEntities_of_plain`). If a
table has not, the clash is that of one of its names (`clash_of_draft_eq_error`).
-/

set_option autoImplicit false

namespace RecordSql.English

namespace Pattern

/-! ### Matches -/

/-- An outcome cuts a text into what it takes and what follows. What it remembers are pieces of what
it takes. -/
structure Outcome.Cuts (o : Outcome) (cs : List Char) : Prop where
  cut : o.taken ++ o.rest = cs
  groups : ∀ g ∈ o.groups, g <:+: o.taken

variable {cs before : List Char} {o o' : Outcome}

/-- A match of one character takes it. -/
theorem cuts_of_mem_takeIf {ok : Char → Bool} (h : o ∈ takeIf ok cs) : o.Cuts cs := by
  cases cs with
  | nil => cases h
  | cons c cs =>
    rw [takeIf] at h
    split at h
    · rw [List.mem_singleton] at h
      subst h
      exact ⟨rfl, by simp⟩
    · cases h

/-- A match of a place takes nothing. -/
theorem cuts_of_mem_stayIf {ok : Bool} (h : o ∈ stayIf ok cs) : o.Cuts cs := by
  unfold stayIf at h
  split at h
  · rw [List.mem_singleton] at h
    subst h
    exact ⟨rfl, by simp⟩
  · cases h

/-- Two matches after each other take what both of them take. -/
theorem Outcome.Cuts.seq (h : o.Cuts cs) (h' : o'.Cuts o.rest) :
    Outcome.Cuts ⟨o.taken ++ o'.taken, o'.rest, o.groups ++ o'.groups⟩ cs where
  cut := by
    show o.taken ++ o'.taken ++ o'.rest = cs
    rw [List.append_assoc, h'.cut, h.cut]
  groups := by
    intro g hg
    rcases List.mem_append.mp hg with hg | hg
    · exact (h.groups g hg).trans (List.prefix_append _ _).isInfix
    · exact (h'.groups g hg).trans (List.suffix_append _ _).isInfix

/-- A group remembers what it takes. -/
theorem Outcome.Cuts.group (h : o.Cuts cs) :
    Outcome.Cuts ⟨o.taken, o.rest, o.taken :: o.groups⟩ cs where
  cut := h.cut
  groups := List.forall_mem_cons.mpr ⟨List.infix_refl _, h.groups⟩

/-- Every outcome of a pattern cuts the text in front of which the pattern is tried. -/
theorem cuts_of_mem_outcomes {p : Pattern} (h : o ∈ outcomes p before cs) : o.Cuts cs := by
  -- The second pattern of a sequence is tried in front of what the first one leaves.
  induction p generalizing before cs o with
  | nothing | start | finish | edge => exact cuts_of_mem_stayIf h
  | letter | oneOf | noneOf | foreign | gap => exact cuts_of_mem_takeIf h
  | seq p q ihp ihq =>
    obtain ⟨o₁, h₁, h⟩ := List.mem_flatMap.mp h
    obtain ⟨o₂, h₂, rfl⟩ := List.mem_map.mp h
    exact (ihp h₁).seq (ihq h₂)
  | alt p q ihp ihq =>
    rcases List.mem_append.mp h with h | h
    · exact ihp h
    · exact ihq h
  | group p ih =>
    obtain ⟨o₁, h₁, rfl⟩ := List.mem_map.mp h
    exact (ih h₁).group

/-- A search from a place on finds an outcome that cuts an end of the text. -/
theorem exists_suffix_of_searchAfter {p : Pattern} {b : List Char}
    (h : p.searchAfter before cs = some (b, o)) : ∃ tail, tail <:+ cs ∧ o.Cuts tail := by
  induction cs generalizing before with
  | nil =>
    obtain ⟨o', ho, heq⟩ := Option.map_eq_some_iff.mp h
    cases heq
    exact ⟨[], List.suffix_refl _, cuts_of_mem_outcomes (List.mem_of_mem_head? ho)⟩
  | cons c cs ih =>
    unfold searchAfter at h
    split at h
    · rename_i o' os hos
      cases h
      exact ⟨c :: cs, List.suffix_refl _, cuts_of_mem_outcomes (hos ▸ List.mem_cons_self)⟩
    · obtain ⟨tail, htail, hcuts⟩ := ih h
      exact ⟨tail, htail.trans (List.suffix_cons c cs), hcuts⟩

/-- What a match takes and what it remembers are pieces of the text. -/
theorem isInfix_of_search {p : Pattern} (h : p.search cs = some (before, o)) :
    ∀ g ∈ o.taken :: o.groups, g <:+: cs := by
  obtain ⟨⟨b, o'⟩, hsearch, heq⟩ := Option.map_eq_some_iff.mp h
  cases heq
  obtain ⟨tail, htail, hcuts⟩ := exists_suffix_of_searchAfter hsearch
  have hprefix : o.taken <+: tail := ⟨o.rest, hcuts.cut⟩
  have htaken : o.taken <:+: cs := hprefix.isInfix.trans htail.isInfix
  intro g hg
  rcases List.mem_cons.mp hg with rfl | hg
  · exact htaken
  · exact (hcuts.groups g hg).trans htaken

end Pattern

/-! ### Texts that take the case of a word -/

/-- The texts that an inflection puts into the case of a word. -/
inductive TakesCase (isForm : String → Bool) (form? : String → Option String) (rules : List Rule)
    (word : List Char) : List Char → Prop
  /-- The word itself, if it is irregular and has the number already. -/
  | key (h : isForm (String.ofList (Text.lower word)) = true) :
      TakesCase isForm form? rules word (Text.lower word)
  /-- The form of an irregular word. -/
  | form {form : String} (h : form? (String.ofList (Text.lower word)) = some form) :
      TakesCase isForm form? rules word form.toList
  /-- A text that a rule takes or remembers. -/
  | piece {text : List Char} (h : text <:+: word) : TakesCase isForm form? rules word text
  /-- What a rule puts in its place. -/
  | replacement {rule : Rule} (h : rule ∈ rules) :
      TakesCase isForm form? rules word rule.replacement.toList

section

variable {ε : Type} {restore : List Char → Except ε (List Char)} {isForm : String → Bool}
  {form? : String → Option String} {rules : List Rule} {word : List Char} {e : ε}

/-- A rule fails only because a text does not take the case of the word. -/
theorem exists_of_replace?_eq_error {rule : Rule} (hrule : rule ∈ rules)
    (h : rule.replace? restore word = some (.error e)) :
    ∃ text, TakesCase isForm form? rules word text ∧ restore text = .error e := by
  obtain ⟨⟨before, o⟩, hsearch, h⟩ := Option.map_eq_some_iff.mp h
  rcases bind_eq_error_iff.mp h with hfillings | ⟨fillings, -, h⟩
  · obtain ⟨text, htext, he⟩ := exists_of_mapM_eq_error hfillings
    exact ⟨text, .piece (Pattern.isInfix_of_search hsearch text htext), he⟩
  · rcases bind_eq_error_iff.mp h with he | ⟨text, -, h⟩
    · exact ⟨_, .replacement hrule, he⟩
    · cases h

/-- So do several rules, of which the first one counts that matches. -/
theorem exists_of_applyFirst_eq_error (h : applyFirst restore rules word = .error e) :
    ∃ text, TakesCase isForm form? rules word text ∧ restore text = .error e := by
  unfold applyFirst at h
  cases hfind : rules.findSome? (·.replace? restore word) with
  | none =>
    rw [hfind] at h
    cases h
  | some x =>
    rw [hfind, Option.getD_some] at h
    obtain ⟨rule, hrule, hx⟩ := List.exists_of_findSome?_eq_some hfind
    exact exists_of_replace?_eq_error hrule (h ▸ hx)

/-- So does an inflection. -/
theorem inflect_eq_error (h : inflect restore isForm form? rules word = .error e) :
    ∃ text, TakesCase isForm form? (unchangedRules ++ rules) word text ∧
      restore text = .error e := by
  unfold inflect at h
  dsimp only at h
  split at h
  · rename_i hkey
    rw [String.toList_ofList] at h
    exact ⟨_, .key hkey, h⟩
  · split at h
    · rename_i form hform
      exact ⟨_, .form hform, h⟩
    · split at h
      · cases h
      · exact exists_of_applyFirst_eq_error h

end

/-! ### Singulars -/

/-- Irregular singulars are ASCII. -/
theorem isAscii_of_mem_irregularPairs {p : String × String} (h : p ∈ irregularPairs) :
    p.1.toList.all Letter.isAscii = true := by
  have hpairs : irregularPairs.all (fun p => p.1.toList.all Letter.isAscii) = true := by
    decide +kernel
  exact List.all_eq_true.mp hpairs p h

/-- So are the replacements of the rules for singulars. -/
theorem isAscii_of_mem_singularRules {rule : Rule} (h : rule ∈ unchangedRules ++ singularRules) :
    rule.replacement.toList.all Letter.isAscii = true := by
  have hrules : (unchangedRules ++ singularRules).all
      (fun r => r.replacement.toList.all Letter.isAscii) = true := by
    decide +kernel
  exact List.all_eq_true.mp hrules rule h

/-- A text that takes the case of a word in its singular is ASCII or a piece of the word. -/
theorem isAscii_or_isInfix_of_takesCase {word text : List Char}
    (h : TakesCase (fun w => (irregularPlural? w).isSome) irregularSingular?
      (unchangedRules ++ singularRules) word text) :
    text.all Letter.isAscii = true ∨ text <:+: word := by
  cases h with
  | key hkey =>
    -- The word need not be ASCII, for the Kelvin sign has the form `k`, but its lowercase is then.
    left
    obtain ⟨plural, hplural⟩ := Option.isSome_iff_exists.mp hkey
    obtain ⟨p, hp, -⟩ := Option.map_eq_some_iff.mp hplural
    have hword : p.1 = String.ofList (Text.lower word) := by simpa using List.find?_some hp
    have hascii := isAscii_of_mem_irregularPairs (List.mem_of_find?_eq_some hp)
    rwa [hword, String.toList_ofList] at hascii
  | form hform =>
    left
    obtain ⟨p, hp, rfl⟩ := Option.map_eq_some_iff.mp hform
    exact isAscii_of_mem_irregularPairs (List.mem_reverse.mp (List.mem_of_find?_eq_some hp))
  | piece hpiece => exact Or.inr hpiece
  | replacement hrule => exact Or.inl (isAscii_of_mem_singularRules hrule)

/-- A clash is right about its word: this begins with a capital, is neither in lowercase nor in
uppercase, and the part is a piece of it that does not begin in ASCII. -/
structure CaseClash.Justified (clash : CaseClash) : Prop where
  capital : (clash.word.toList.head?).any Letter.isUpper = true
  notLower : clash.word.toList ≠ Text.lower clash.word.toList
  notUpper : clash.word.toList ≠ Text.upper clash.word.toList
  piece : clash.part.toList <:+: clash.word.toList
  foreign : ∃ c cs, clash.part.toList = c :: cs ∧ Letter.isAscii c = false

/-- Its word is not all ASCII. -/
theorem CaseClash.Justified.exists_not_isAscii {clash : CaseClash} (h : clash.Justified) :
    ∃ c ∈ clash.word.toList, Letter.isAscii c = false := by
  obtain ⟨c, cs, hpart, hc⟩ := h.foreign
  exact ⟨c, h.piece.subset (hpart ▸ List.mem_cons_self), hc⟩

/-- When a text does not take the case of a word. -/
theorem restoreCase_eq_error {word text : List Char} {clash : CaseClash}
    (h : restoreCase word text = .error clash) :
    clash = ⟨String.ofList word, String.ofList text⟩ ∧ (word.head?).any Letter.isUpper = true ∧
      word ≠ Text.lower word ∧ word ≠ Text.upper word ∧
      ∃ c cs, text = c :: cs ∧ Letter.isAscii c = false := by
  unfold restoreCase at h
  split_ifs at h with _ hlower hupper hcapital hfirst
  -- There is an error in one case only.
  cases h
  refine ⟨rfl, hcapital, hlower, hupper, ?_⟩
  cases text with
  | nil => exact absurd rfl hfirst
  | cons c cs => exact ⟨c, cs, rfl, eq_false_of_ne_true hfirst⟩

/-- A word without a singular is the word of the clash, and the clash is right about it. -/
theorem singular_eq_error {noun : String} {clash : CaseClash} (h : singular noun = .error clash) :
    clash.word = noun ∧ clash.Justified := by
  unfold singular at h
  obtain ⟨text, htakes, he⟩ := inflect_eq_error (map_eq_error_iff.mp h)
  obtain ⟨rfl, hcapital, hlower, hupper, c, cs, rfl, hforeign⟩ := restoreCase_eq_error he
  rw [String.ofList_toList]
  refine ⟨rfl, hcapital, hlower, hupper, ?_, c, cs, String.toList_ofList, hforeign⟩
  rcases isAscii_or_isInfix_of_takesCase htakes with hascii | hpiece
  · -- This text does not begin in ASCII.
    rw [List.all_cons, hforeign] at hascii
    cases hascii
  · rwa [String.toList_ofList]

end RecordSql.English

namespace RecordSql.Catalog

/-! ### Names in labels -/

/-- The names that stand in the labels of a table as entities: its own, and for each foreign key
that of the other table and that of the key. -/
def labelNames (t : Table) : List String :=
  t.name :: t.foreignKeys.flatMap fun k => [k.toTable, k.name]

variable {t : Table}

theorem mem_labelNames {name : String} :
    name ∈ labelNames t ↔ name = t.name ∨ ∃ k ∈ t.foreignKeys, name = k.toTable ∨ name = k.name := by
  simp [labelNames]

/-- A table has its entities if all these names have one. -/
theorem hasEntities_of_labelNames
    (h : ∀ name ∈ labelNames t, ∃ entity, Identifier.entity name = .ok entity) : HasEntities t where
  table := h _ (mem_labelNames.mpr (.inl rfl))
  targets k hk := h _ (mem_labelNames.mpr (.inr ⟨k, hk, .inl rfl⟩))
  keys k hk := h _ (mem_labelNames.mpr (.inr ⟨k, hk, .inr rfl⟩))

/-- So it has them if these names are ASCII or in lowercase. -/
theorem hasEntities_of_plain
    (h : ∀ name ∈ labelNames t, (∀ c ∈ name.toList, Letter.isAscii c = true) ∨
      name.toList = Text.lower name.toList) : HasEntities t := by
  refine hasEntities_of_labelNames ?_
  intro name hname
  cases hentity : Identifier.entity name with
  | ok entity => exact ⟨entity, rfl⟩
  | error clash =>
    obtain ⟨rfl, hclash⟩ := English.singular_eq_error hentity
    rcases h _ hname with hascii | hlower
    · obtain ⟨c, hc, hforeign⟩ := hclash.exists_not_isAscii
      rw [hascii c hc] at hforeign
      cases hforeign
    · exact absurd hlower hclash.notLower

/-- If nothing is offered, one of the names has no entity. -/
theorem offers_eq_error {d : Sql.Dialect} {clash : English.CaseClash}
    (h : offers d t = .error clash) :
    ∃ name ∈ labelNames t, Identifier.entity name = .error clash := by
  rcases bind_eq_error_iff.mp h with htable | ⟨entity, -, h⟩
  · exact ⟨t.name, mem_labelNames.mpr (.inl rfl), htable⟩
  · rcases bind_eq_error_iff.mp h with hkeys | ⟨ofKeys, -, h⟩
    · obtain ⟨k, hk, h⟩ := exists_of_mapM_eq_error hkeys
      rcases bind_eq_error_iff.mp h with htarget | ⟨target, -, h⟩
      · exact ⟨k.toTable, mem_labelNames.mpr (.inr ⟨k, hk, .inl rfl⟩), htarget⟩
      · rcases bind_eq_error_iff.mp h with hown | ⟨own, -, h⟩
        · exact ⟨k.name, mem_labelNames.mpr (.inr ⟨k, hk, .inr rfl⟩), hown⟩
        · cases h
    · cases h

/-- The name is the word of the clash, and the clash is right about it. -/
theorem clash_of_draft_eq_error {d : Sql.Dialect} {clash : English.CaseClash}
    (h : draft d t = .error clash) :
    clash.word ∈ labelNames t ∧ Identifier.entity clash.word = .error clash ∧
      clash.Justified := by
  obtain ⟨name, hname, hentity⟩ := offers_eq_error (map_eq_error_iff.mp h)
  obtain ⟨rfl, hclash⟩ := English.singular_eq_error hentity
  exact ⟨hname, hentity, hclash⟩

end RecordSql.Catalog
