import RecordSql.Proofs.BaseStatements
import RecordSql.Proofs.LabelCharacters

/-!
# `RecordSql.Proofs.StatementLabels`: labels as identifiers

Every label of a statement is made of segments that are `Framed`: a verb comes first and the ending
`stmt` last. Between them stand names, which may be empty, have punctuation or digits in them, or
contain the ending themselves.

Camel case reads the segments twice. The first reading keeps their letters and numbers and makes
titles of the verb and the ending; the second one cuts everything into words again, and there the
ending has to be cut off from whatever the first reading has put before it. After letters and
numbers alone it always is (`Text.camelAfter_append_title`), for the verb has small letters: what
comes after them has a known case until the next word begins.

So it matters that nothing else comes out of the first reading. With ASCII segments nothing does,
but the uppercase form of another letter may contain a mark, and digits after that begin a piece of
their own, which has no case. Then the ending is read on.
-/

set_option autoImplicit false

namespace RecordSql.Catalog

open RecordSql.Identifier (IsWord camel isWord_of_mem_titles)
open RecordSql.Text (camelAfter lowerCamelChars upperCamelChars)

/-! ### Segments of labels -/

/-- Segments as those of a label: the first one is the verb and the last one is the ending. -/
structure Framed (verb : String) (segments : List String) : Prop where
  mem_verbs : verb ∈ labelVerbs
  head? : segments.head? = some verb
  getLast? : segments.getLast? = some Offer.ending

/-- No verb is the ending, so both are there, with other segments between them or none. -/
theorem Framed.exists_eq {verb : String} {segments : List String} (h : Framed verb segments) :
    ∃ middle, segments = verb :: (middle ++ [Offer.ending]) := by
  have hending : Offer.ending ∉ labelVerbs := by decide
  obtain ⟨front, hfront⟩ := List.getLast?_eq_some_iff.mp h.getLast?
  have hhead := h.head?
  rw [hfront] at hhead ⊢
  cases front with
  | nil =>
    obtain rfl : Offer.ending = verb := Option.some.inj hhead
    exact absurd h.mem_verbs hending
  | cons first middle =>
    obtain rfl : first = verb := Option.some.inj hhead
    exact ⟨middle, rfl⟩

/-- The verb and the segments between it and the ending can be any. -/
theorem framed_of_mem {verb : String} (h : verb ∈ labelVerbs) (middle : List String) :
    Framed verb (verb :: (middle ++ [Offer.ending])) where
  mem_verbs := h
  head? := rfl
  getLast? := by rw [← List.cons_append, List.getLast?_concat]

/-- All labels under which an offer is tried have such segments. -/
theorem Offer.Formed.exists_framed {o : Offer} (ho : o.Formed) {label : String}
    (h : label ∈ o.labels) :
    ∃ verb segments, Framed verb segments ∧ label = Identifier.label segments := by
  obtain ⟨verb, hverb, middle, hlabel⟩ := ho.label
  have hmem : verb ∈ labelVerbs := by
    unfold labelVerbs
    cases hkind : o.kind <;> rw [hkind] at hverb <;> simp [hverb]
  rw [Offer.labels, hlabel] at h
  rcases List.mem_cons.mp h with h | h
  · exact ⟨verb, _, framed_of_mem hmem middle, h⟩
  · -- The qualifier stands before the ending.
    obtain ⟨q, -, hq⟩ := Option.map_eq_some_iff.mp (Option.mem_toList.mp h)
    refine ⟨verb, _, framed_of_mem hmem (middle ++ ["via", q]), ?_⟩
    rw [← hq, Offer.qualifiedLabel_concat, List.cons_append, List.append_assoc]
    rfl

/-! ### The label -/

/-- A label keeps its ending if camel case makes letters and numbers alone of the segments before
it. -/
theorem toList_label_of_framed {verb : String} (hverb : IsWord verb) {middle : List String}
    (hmiddle : ∀ c ∈ camel middle, Letter.isAlphanumeric c = true) :
    (Identifier.label (verb :: (middle ++ [Offer.ending]))).toList =
      verb.toList ++ (camelAfter (camel middle) ++ Identifier.statementEnding.toList) := by
  have hending : IsWord Offer.ending := isWord_of_mem_titles (by decide)
  have hlast : (verb :: (middle ++ [Offer.ending])).getLast? = some Offer.ending := by
    rw [← List.cons_append, List.getLast?_concat]
  have hcamel : camel (verb :: (middle ++ [Offer.ending])) =
      upperCamelChars verb.toList ++ (camel middle ++ (upperCamelChars Offer.ending.toList ++ [])) := by
    simp [camel]
  have hnothing : camelAfter [] = [] := rfl
  rw [Identifier.toList_label hlast, hcamel, Text.lowerCamelChars_title_append hverb.1, hverb.2,
    Text.camelAfter_append_title hmiddle hending.1, Identifier.upperCamelChars_ending, hnothing,
    List.append_nil]

/-- Segments of ASCII characters become ASCII letters and digits. -/
theorem isAlphanum_of_mem_camel {segments : List String}
    (h : ∀ s ∈ segments, ∀ c ∈ s.toList, Letter.isAscii c = true) :
    ∀ c ∈ camel segments, Letter.isAscii c = true ∧ c.isAlphanum = true := by
  intro c hc
  obtain ⟨s, hs, hc⟩ := List.mem_flatMap.mp hc
  exact (Text.holdsOfForms_isAlphanum (h s hs)).of_mem_upperCamel hc

/-- What the labels of statements look like.

Every statement of a catalog has a label with framed segments, also one under which it has been
tried again with a qualifier.

The label of framed segments of ASCII characters begins with the verb, ends in `Stmt`, and has
nothing but ASCII letters and digits, whatever the segments between the two are. -/
theorem label_of_framed :
    (∀ (d : Sql.Dialect) (t : Table) (c : Catalog), build d t = .ok c → ∀ s ∈ c.statements,
      ∃ verb segments, Framed verb segments ∧ s.label = Identifier.label segments) ∧
    ∀ (verb : String) (segments : List String), Framed verb segments →
      (∀ s ∈ segments, ∀ c ∈ s.toList, Letter.isAscii c = true) →
      (∃ middle, (Identifier.label segments).toList = verb.toList ++ (middle ++ "Stmt".toList)) ∧
        ∀ c ∈ (Identifier.label segments).toList, c.isAlphanum = true := by
  constructor
  · intro d t c hc s hs
    obtain ⟨o, ho, hgives⟩ := exists_offer_of_mem_build hc hs
    exact (formed_of_mem_allOffers ho).exists_framed hgives.label
  · intro verb segments hframed hascii
    constructor
    · have hverb : IsWord verb := (word_of_mem_labelVerbs hframed.mem_verbs).1
      obtain ⟨middle, rfl⟩ := hframed.exists_eq
      have hmiddle : ∀ c ∈ camel middle, Letter.isAlphanumeric c = true := by
        intro c hc
        have hletter := isAlphanum_of_mem_camel (fun s hs => hascii s (by simp [hs])) c hc
        exact Letter.isAlphanumeric_of_isAlphanum hletter.1 hletter.2
      exact ⟨_, toList_label_of_framed hverb hmiddle⟩
    · -- Both readings keep letters and digits, so it does not matter where the words are cut.
      intro c hc
      have hcamel : ∀ e ∈ camel segments, Letter.isAscii e = true :=
        fun e he => (isAlphanum_of_mem_camel hascii e he).1
      rw [Identifier.toList_label hframed.getLast?] at hc
      exact ((Text.holdsOfForms_isAlphanum hcamel).of_mem_lowerCamel hc).2

/-- The five statements of a table without columns, and segments with punctuation, a row of capitals
before a digit, the ending itself, and nothing at all. -/
theorem label_of_framed_select :
    (∃ c, build .sqlite { name := "tags" } = .ok c ∧ c.statements.length = 5 ∧
      ∀ s ∈ c.statements,
        ∃ verb segments, Framed verb segments ∧ s.label = Identifier.label segments) ∧
    let segments := ["select", "--HTTP-2", "", "Stmt9", "stmt"]
    Framed "select" segments ∧
      (∀ s ∈ segments, ∀ c ∈ s.toList, Letter.isAscii c = true) ∧
      Identifier.label segments = "selectHttp2Stmt9Stmt" ∧
      ∀ c ∈ (Identifier.label segments).toList, c.isAlphanum = true := by
  constructor
  · obtain ⟨c, hc, hlength⟩ : ∃ c, build .sqlite { name := "tags" } = .ok c ∧
        c.statements.length = 5 :=
      Generate.exists_ok_of_checked (by decide +kernel)
    exact ⟨c, hc, hlength, label_of_framed.1 .sqlite _ c hc⟩
  · intro segments
    have hframed : Framed "select" segments := framed_of_mem (by decide) ["--HTTP-2", "", "Stmt9"]
    have hall : segments.all (·.toList.all Letter.isAscii) = true := by decide
    have hascii : ∀ s ∈ segments, ∀ c ∈ s.toList, Letter.isAscii c = true :=
      fun s hs => List.all_eq_true.mp (List.all_eq_true.mp hall s hs)
    exact ⟨hframed, hascii, by decide +kernel, (label_of_framed.2 _ _ hframed hascii).2⟩

/-- The uppercase form of the letter contains a mark, and the digit after it takes the capital of the
ending away. -/
example : Identifier.label ["select", "ǰ1", "stmt"] = "selectJ1stmt" := by
  decide +kernel

end RecordSql.Catalog
