import Mathlib.Data.List.DropRight
import Mathlib.Data.List.Infix
import RecordSql.Proofs.Camel
import RecordSql.Proofs.Runs
import RecordSql.Proofs.Schema

/-!
# `RecordSql.Proofs.SharedLabels`: labels of several tables

Labels are told apart within one catalog only. Those of two tables of one run can be equal, because
a label is not always made of the table: that of an index or a foreign key holds its name alone.

`label_shared_cases` says which labels two catalogs can share. Either both tables create something
under the label. Or a query of both has it, and then the tables themselves are created under the
same label, or the label of the one goes on after that of the other in the way in which the labels
of queries go on (`Continues`). So tables that are `Apart` share nothing, and all labels of a run
of such tables are distinct (`labels_of_run`).

The proof reads labels from left to right. A label is its verb, then what camel case makes of the
entity, then a joint or the ending (`Identifier.exists_reads`). A joint does not overlap with
another one, so two labels are equal only if their joints stand in the same place or one of them
stands within the entity of the other (`eq_nil_or_prefix_of_mem_marks`).
-/

set_option autoImplicit false

namespace RecordSql.Identifier

open RecordSql.Text (IsTitle camelAfter lowerWord upperCamelChars lowerCamelChars)

/-! ### How a label is composed -/

/-- Segments in upper camel case, one after the other. -/
def camel (segments : List String) : List Char :=
  segments.flatMap fun s => upperCamelChars s.toList

/-- Joined segments in upper camel case are the segments in upper camel case. -/
theorem upperCamelChars_intercalate (segments : List String) :
    upperCamelChars ("_".intercalate segments).toList = camel segments := by
  unfold upperCamelChars camel
  rw [String.toList_intercalate, Text.words_intercalate (by simp) Text.allSeparators_underscore,
    List.flatMap_assoc, List.flatMap_map]
  rfl

/-- A segment of small letters that upper camel case makes a title. -/
def IsWord (s : String) : Prop :=
  IsTitle (upperCamelChars s.toList) ∧ lowerWord (upperCamelChars s.toList) = s.toList

/-- The segments that labels are made of besides names, and the titles that they become. -/
def titles : List (String × List Char) :=
  [("create", ['C', 'r', 'e', 'a', 't', 'e']), ("insert", ['I', 'n', 's', 'e', 'r', 't']),
    ("select", ['S', 'e', 'l', 'e', 'c', 't']), ("update", ['U', 'p', 'd', 'a', 't', 'e']),
    ("delete", ['D', 'e', 'l', 'e', 't', 'e']), ("by", ['B', 'y']), ("of", ['O', 'f']),
    ("range", ['R', 'a', 'n', 'g', 'e']), ("count", ['C', 'o', 'u', 'n', 't']),
    ("stmt", ['S', 't', 'm', 't'])]

/-- They are words. -/
theorem isWord_of_mem_titles {s : String} (h : s ∈ titles.map Prod.fst) : IsWord s := by
  have htitles : ∀ p ∈ titles,
      upperCamelChars p.1.toList = p.2 ∧ IsTitle p.2 ∧ lowerWord p.2 = p.1.toList := by
    decide +kernel
  obtain ⟨p, hp, rfl⟩ := List.mem_map.mp h
  obtain ⟨hupper, htitle, hlower⟩ := htitles p hp
  unfold IsWord
  rw [hupper]
  exact ⟨htitle, hlower⟩

/-- The ending of labels is what camel case makes of their last segment. -/
theorem upperCamelChars_ending :
    upperCamelChars Catalog.Offer.ending.toList = statementEnding.toList := by
  decide +kernel

/-- A label that ends as all labels of statements do is in lower camel case. -/
theorem toList_label {segments : List String} (h : segments.getLast? = some Catalog.Offer.ending) :
    (label segments).toList = lowerCamelChars (camel segments) := by
  obtain ⟨front, rfl⟩ := List.getLast?_eq_some_iff.mp h
  have hname : (Text.upperCamel ("_".intercalate (front ++ [Catalog.Offer.ending]))).toList =
      camel (front ++ [Catalog.Offer.ending]) := by
    rw [Text.upperCamel, String.toList_ofList, upperCamelChars_intercalate]
  have hsuffix : statementEnding.toList.isSuffixOf (camel (front ++ [Catalog.Offer.ending])) := by
    rw [List.isSuffixOf_iff_suffix, ← upperCamelChars_ending]
    exact ⟨camel front, by simp [camel]⟩
  unfold label
  dsimp only
  rw [hname, if_pos hsuffix, Text.lowerCamel, String.toList_ofList, hname]

/-- How labels read in which an entity is the second segment: the verb, what camel case makes of
the entity, the third segment, and what camel case makes of the rest. The third segment is a title
or has lost its capital. -/
structure Reads (entity : String) (stem : List Char) (form : String → List Char) : Prop where
  isForm : form = (fun s => upperCamelChars s.toList) ∨ form = String.toList
  reads : ∀ verb next, IsWord verb → IsWord next → ∀ segments,
    (next :: segments).getLast? = some Catalog.Offer.ending →
    (label (verb :: entity :: next :: segments)).toList =
      verb.toList ++ (stem ++ (form next ++ camelAfter (camel segments)))

/-- Labels with the same entity read in the same way. -/
theorem exists_reads (entity : String) : ∃ stem form, Reads entity stem form := by
  have hcompose : ∀ verb next, IsWord verb → ∀ segments,
      (next :: segments).getLast? = some Catalog.Offer.ending →
      (label (verb :: entity :: next :: segments)).toList =
        verb.toList ++ camelAfter (upperCamelChars entity.toList ++
          (upperCamelChars next.toList ++ camel segments)) := by
    intro verb next hverb segments hlast
    rw [toList_label (by simpa using hlast), camel, List.flatMap_cons, List.flatMap_cons,
      List.flatMap_cons, Text.lowerCamelChars_title_append hverb.1, hverb.2]
    rfl
  -- What the title after the entity looks like is up to the entity, so one form is right for all.
  rcases Text.camelAfter_append_cases (upperCamelChars entity.toList) with hkept | hlost
  · refine ⟨camelAfter (upperCamelChars entity.toList), _, Or.inl rfl, ?_⟩
    intro verb next hverb hnext segments hlast
    rw [hcompose verb next hverb segments hlast, hkept _ hnext.1]
  · refine ⟨camelAfter (upperCamelChars entity.toList), _, Or.inr rfl, ?_⟩
    intro verb next hverb hnext segments hlast
    rw [hcompose verb next hverb segments hlast, hlost _ hnext.1, hnext.2]

end RecordSql.Identifier

namespace RecordSql.Catalog

open RecordSql.Identifier (IsWord Reads camel exists_reads isWord_of_mem_titles)
open RecordSql.Text (camelAfter upperCamelChars)

/-! ### Joints -/

/-- The segments that can follow the entity in the label of a query. -/
def joints : List String :=
  ["by", "of", "range", "count"]

/-- Their forms in labels. -/
def jointForms : List String :=
  ["By", "Of", "Range", "Count", "by", "of", "range", "count"]

/-- What can follow the entity in a label. -/
def marks : List (List Char) :=
  (jointForms ++ ["Stmt", "stmt"]).map String.toList

/-- A mark has no letters in common with the end of another one. -/
theorem marks_apart : ∀ m ∈ marks, ∀ m' ∈ marks, ∀ a ∈ m.tails,
    a = [] ∨ a = m ∨ ¬(a <+: m' ∨ m' <+: a) := by
  decide +kernel

/-- So a mark that begins before another one ends before it begins. -/
theorem eq_nil_or_prefix_of_mem_marks {m m' w r r' : List Char} (hm : m ∈ marks)
    (hm' : m' ∈ marks) (h : m ++ r = w ++ (m' ++ r')) : w = [] ∨ m <+: w := by
  rcases List.append_eq_append_iff.mp h with ⟨a, hw, -⟩ | ⟨a, hma, hr⟩
  · exact Or.inr ⟨a, hw.symm⟩
  · have htail : a ∈ m.tails := (List.mem_tails _ _).mpr ⟨w, hma.symm⟩
    rcases marks_apart m hm m' hm' a htail with rfl | rfl | hapart
    · exact Or.inr ⟨[], by simpa using hma⟩
    · exact Or.inl (by simpa using hma)
    · have ha : a <+: m' ++ r' := ⟨r, hr.symm⟩
      exact absurd (List.prefix_or_prefix_of_prefix ha (List.prefix_append m' r')) hapart

/-- What can follow the entity in the label of a query: the ending, or a joint and further segments
up to the ending. -/
inductive Follows : String → List String → Prop
  | ending : Follows Offer.ending []
  | joint {next : String} (h : next ∈ joints) (segments : List String) :
      Follows next (segments ++ [Offer.ending])

namespace Follows

variable {next : String} {segments : List String}

/-- It is the ending or a joint. -/
theorem mem (h : Follows next segments) : next ∈ joints ++ [Offer.ending] := by
  cases h with
  | ending => simp
  | joint h segments => exact List.mem_append_left _ h

/-- The ending comes last. -/
theorem getLast? (h : Follows next segments) :
    (next :: segments).getLast? = some Offer.ending := by
  cases h with
  | ending => rfl
  | joint h segments => rw [← List.cons_append, List.getLast?_concat]

/-- Joints and the ending are words. -/
theorem isWord (h : Follows next segments) : IsWord next := by
  have htitles : ∀ s ∈ joints ++ [Offer.ending], s ∈ Identifier.titles.map Prod.fst := by decide
  exact isWord_of_mem_titles (htitles next h.mem)

end Follows

/-! ### Labels of one entity and of another -/

/-- The label under which something is created. -/
def createLabel (name : String) : String :=
  Identifier.label ["create", name, Offer.ending]

/-- A label without its ending. -/
def beforeEnding (label : String) : List Char :=
  label.toList.rdrop Offer.ending.length

/-- The label under which a table is created goes on after that of another one, with a joint. -/
def Continues (entity entity' : String) : Prop :=
  ∃ joint ∈ jointForms,
    beforeEnding (createLabel entity) ++ joint.toList <+: beforeEnding (createLabel entity')

instance (entity entity' : String) : Decidable (Continues entity entity') :=
  inferInstanceAs (Decidable (∃ joint ∈ jointForms, _))

/-- `createUserByIdStmt` goes on after `createUserStmt`. -/
example : Continues "user" "user_by_id" := by
  decide +kernel

section

variable {entity entity' : String} {stem stem' : List Char} {form form' : String → List Char}

/-- The forms of what can follow an entity are marks of the same length. -/
theorem form_mem_marks (h : Reads entity stem form) {next : String}
    (hnext : next ∈ joints ++ [Offer.ending]) :
    form next ∈ marks ∧ (form next).length = next.toList.length := by
  have hmarks : ∀ s ∈ joints ++ [Offer.ending],
      upperCamelChars s.toList ∈ marks ∧ (upperCamelChars s.toList).length = s.toList.length ∧
        s.toList ∈ marks := by
    decide +kernel
  obtain ⟨hupper, hlength, hlower⟩ := hmarks next hnext
  rcases h.isForm with rfl | rfl
  · exact ⟨hupper, hlength⟩
  · exact ⟨hlower, rfl⟩

/-- A capital tells the two forms apart. -/
theorem form_eq (h : Reads entity stem form) (h' : Reads entity' stem' form')
    {next next' : String} (hnext : next ∈ joints ++ [Offer.ending])
    (hnext' : next' ∈ joints ++ [Offer.ending]) {r r' : List Char}
    (heq : form next ++ r = form' next' ++ r') : form = form' := by
  have hapart : ∀ s ∈ joints ++ [Offer.ending], ∀ s' ∈ joints ++ [Offer.ending],
      ¬(upperCamelChars s.toList <+: s'.toList ∨ s'.toList <+: upperCamelChars s.toList) := by
    decide +kernel
  have hor : form next <+: form' next' ∨ form' next' <+: form next :=
    List.prefix_or_prefix_of_prefix (List.prefix_append _ r) (heq ▸ List.prefix_append _ r')
  rcases h.isForm with rfl | rfl <;> rcases h'.isForm with rfl | rfl
  · rfl
  · exact absurd hor (hapart next hnext next' hnext')
  · exact absurd hor.symm (hapart next' hnext' next hnext)
  · rfl

/-- The label under which something is created has nothing behind the ending. -/
theorem toList_createLabel (h : Reads entity stem form) :
    (createLabel entity).toList = "create".toList ++ (stem ++ form Offer.ending) := by
  have hcreate : IsWord "create" := isWord_of_mem_titles (by decide)
  have hending : IsWord Offer.ending := isWord_of_mem_titles (by decide)
  have hnothing : camelAfter (camel []) = [] := rfl
  rw [createLabel, h.reads _ _ hcreate hending [] rfl, hnothing, List.append_nil]

/-- Before its ending there is what camel case makes of the name. -/
theorem beforeEnding_createLabel (h : Reads entity stem form) :
    beforeEnding (createLabel entity) = "create".toList ++ stem := by
  have hlength : (form Offer.ending).length = Offer.ending.length :=
    (form_mem_marks h (by decide)).2
  rw [beforeEnding, toList_createLabel h, ← List.append_assoc, List.rdrop, ← hlength,
    List.length_append, Nat.add_sub_cancel, List.take_left]

/-- The forms of joints, apart from the ending. -/
theorem exists_jointForm (h : Reads entity stem form) {next : String} (hnext : next ∈ joints) :
    ∃ joint ∈ jointForms, joint.toList = form next := by
  have hforms : ∀ s ∈ joints, (∃ joint ∈ jointForms, joint.toList = upperCamelChars s.toList) ∧
      ∃ joint ∈ jointForms, joint.toList = s.toList := by
    decide +kernel
  rcases h.isForm with rfl | rfl
  · exact (hforms next hnext).1
  · exact (hforms next hnext).2

/-- Two entities in labels that are equal after their verbs. If the joint in the one label does not
come after that in the other, the entities are created under the same label, or the label of the
second one goes on after that of the first. -/
theorem eq_or_continues (h : Reads entity stem form) (h' : Reads entity' stem' form')
    {next next' : String} {segments segments' : List String} (hfollows : Follows next segments)
    (hfollows' : Follows next' segments') {w : List Char} (hstem : stem' = stem ++ w)
    (heq : form next ++ camelAfter (camel segments) =
      w ++ (form' next' ++ camelAfter (camel segments'))) :
    createLabel entity = createLabel entity' ∨ Continues entity entity' := by
  have hmark := (form_mem_marks h hfollows.mem).1
  have hmark' := (form_mem_marks h' hfollows'.mem).1
  rcases eq_nil_or_prefix_of_mem_marks hmark hmark' heq with rfl | hprefix
  · left
    have hform := form_eq h h' hfollows.mem hfollows'.mem heq
    rw [← String.toList_inj, toList_createLabel h, toList_createLabel h', hstem, hform,
      List.append_nil]
  · right
    cases hfollows with
    | ending =>
      -- Nothing follows the ending, but in the other label there is a mark after it.
      have hnothing : camelAfter (camel []) = [] := rfl
      have hpositive : ∀ m ∈ marks, 0 < m.length := by decide +kernel
      have hlength := congrArg List.length heq
      rw [hnothing, List.append_nil, List.length_append, List.length_append] at hlength
      have hle := hprefix.length_le
      have hlt := hpositive _ hmark'
      omega
    | joint hjoint segments =>
      obtain ⟨joint, hmem, hform⟩ := exists_jointForm h hjoint
      obtain ⟨rest, rfl⟩ := hprefix
      refine ⟨joint, hmem, rest, ?_⟩
      rw [beforeEnding_createLabel h, beforeEnding_createLabel h', hstem, hform]
      simp only [List.append_assoc]

/-- If a mark stands at the same distance from the end, it is the same mark. -/
theorem stem_form_eq (h : Reads entity stem form) (h' : Reads entity' stem' form') {next : String}
    (hnext : next ∈ joints ++ [Offer.ending]) {r : List Char}
    (heq : stem ++ (form next ++ r) = stem' ++ (form' next ++ r)) :
    stem = stem' ∧ form = form' := by
  have hlength := congrArg List.length heq
  have hform := (form_mem_marks h hnext).2
  have hform' := (form_mem_marks h' hnext).2
  simp only [List.length_append] at hlength
  obtain ⟨hstem, hrest⟩ := List.append_inj heq (by omega)
  exact ⟨hstem, form_eq h h' hnext hnext hrest⟩

/-- Verbs are words of the same length. -/
theorem word_of_mem_verbs {kind : StatementKind} {verb : String} (h : verb ∈ verbs kind) :
    IsWord verb ∧ verb.toList.length = 6 := by
  have hverbs : ∀ v ∈ verbs kind,
      v ∈ Identifier.titles.map Prod.fst ∧ v.toList.length = 6 := by
    cases kind <;> decide
  exact ⟨isWord_of_mem_titles (hverbs verb h).1, (hverbs verb h).2⟩

/-- Equal queries of two entities have the same label exactly if the entities are created under the
same label. -/
theorem label_eq_iff {verb next : String} {segments : List String} (hverb : verb ∈ verbs .query)
    (hfollows : Follows next segments) :
    Identifier.label (verb :: entity :: next :: segments) =
      Identifier.label (verb :: entity' :: next :: segments) ↔
        createLabel entity = createLabel entity' := by
  obtain ⟨stem, form, h⟩ := exists_reads entity
  obtain ⟨stem', form', h'⟩ := exists_reads entity'
  have hword := (word_of_mem_verbs hverb).1
  rw [← String.toList_inj, ← String.toList_inj, toList_createLabel h, toList_createLabel h',
    h.reads _ _ hword hfollows.isWord _ hfollows.getLast?,
    h'.reads _ _ hword hfollows.isWord _ hfollows.getLast?]
  constructor
  · intro heq
    obtain ⟨rfl, rfl⟩ := stem_form_eq h h' hfollows.mem (List.append_cancel_left heq)
    rfl
  · intro heq
    have hending : Offer.ending ∈ joints ++ [Offer.ending] := by decide
    have hcreate := List.append_cancel_left heq
    rw [← List.append_nil (form _), ← List.append_nil (form' _)] at hcreate
    obtain ⟨rfl, rfl⟩ := stem_form_eq h h' hending hcreate
    rfl

/-- Equal labels begin with the same verb, and their entities are created under the same label or
the label of one of them goes on after that of the other. -/
theorem label_eq_cases {verb verb' next next' : String} {segments segments' : List String}
    (hverb : verb ∈ verbs .query) (hverb' : verb' ∈ verbs .query)
    (hfollows : Follows next segments) (hfollows' : Follows next' segments')
    (heq : Identifier.label (verb :: entity :: next :: segments) =
      Identifier.label (verb' :: entity' :: next' :: segments')) :
    verb = verb' ∧ (createLabel entity = createLabel entity' ∨ Continues entity entity' ∨
      Continues entity' entity) := by
  obtain ⟨stem, form, h⟩ := exists_reads entity
  obtain ⟨stem', form', h'⟩ := exists_reads entity'
  obtain ⟨hword, hlength⟩ := word_of_mem_verbs hverb
  obtain ⟨hword', hlength'⟩ := word_of_mem_verbs hverb'
  rw [← String.toList_inj, h.reads _ _ hword hfollows.isWord _ hfollows.getLast?,
    h'.reads _ _ hword' hfollows'.isWord _ hfollows'.getLast?] at heq
  obtain ⟨hv, hrest⟩ := List.append_inj heq (hlength.trans hlength'.symm)
  refine ⟨String.toList_inj.mp hv, ?_⟩
  -- One of the two stems begins with the other one.
  rcases List.append_eq_append_iff.mp hrest with ⟨w, hstem, hw⟩ | ⟨w, hstem, hw⟩
  · rcases eq_or_continues h h' hfollows hfollows' hstem hw with hsame | hcontinues
    · exact Or.inl hsame
    · exact Or.inr (Or.inl hcontinues)
  · rcases eq_or_continues h' h hfollows' hfollows hstem hw with hsame | hcontinues
    · exact Or.inl hsame.symm
    · exact Or.inr (Or.inr hcontinues)

end

/-! ### Labels of a catalog -/

/-- A query of an entity: a verb alone, or a verb with a joint and further segments, and perhaps a
qualifier. -/
inductive Asks (entity : String) : Offer → Prop
  | plain {sql verb : String} (hverb : verb ∈ verbs .query) :
      Asks entity (.query sql [verb, entity])
  | joint {sql verb next : String} (hverb : verb ∈ verbs .query) (hnext : next ∈ joints)
      (more : List String) (qualifier : Option String) :
      Asks entity (.query sql (verb :: entity :: next :: more) qualifier)

/-- The labels of a query have its entity behind the verb. -/
theorem Asks.exists_of_mem_labels {entity : String} {o : Offer} (h : Asks entity o)
    {label : String} (hlabel : label ∈ o.labels) :
    ∃ verb ∈ verbs .query, ∃ next segments, Follows next segments ∧
      label = Identifier.label (verb :: entity :: next :: segments) := by
  cases h with
  | plain hverb =>
    rw [List.mem_singleton.mp hlabel]
    exact ⟨_, hverb, _, _, .ending, rfl⟩
  | @joint sql verb next hverb hnext more qualifier =>
    rcases List.mem_cons.mp hlabel with h | h
    · exact ⟨_, hverb, _, _, .joint hnext more, h⟩
    · obtain ⟨q, -, hq⟩ := Option.map_eq_some_iff.mp (Option.mem_toList.mp h)
      refine ⟨_, hverb, _, _, .joint hnext (more ++ ["via", q]), ?_⟩
      rw [← hq, Offer.query, Offer.qualifiedLabel_concat]
      simp

variable {d d' : Sql.Dialect} {t t' : Table} {c c' : Catalog}

/-- The queries of a table are queries of its entity. -/
theorem asks_of_mem_allOffers {o : Offer} (h : o ∈ allOffers d t) (hkind : o.kind = .query) :
    Asks (entityOf t.name) o := by
  rcases mem_allOffers.mp h with h | h | ⟨ix, -, h⟩ | ⟨k, -, h⟩
  · unfold baseOffers at h
    simp only [List.mem_cons, List.not_mem_nil, or_false] at h
    rcases h with rfl | rfl | rfl | rfl | rfl
    · cases hkind
    · exact .plain (by decide)
    · exact .plain (by decide)
    · exact .joint (by decide) (by decide) _ _
    · exact .joint (by decide) (by decide) _ _
  · unfold primaryOffers at h
    split at h
    · cases h
    · simp only [List.mem_cons, List.not_mem_nil, or_false] at h
      rcases h with rfl | rfl | rfl
      · exact .joint (by decide) (by decide) _ _
      · exact .joint (by decide) (by decide) _ _
      · exact .joint (by decide) (by decide) _ _
  · unfold indexOffers at h
    rcases List.mem_append.mp h with h | h
    · simp only [List.mem_cons, List.not_mem_nil, or_false] at h
      rcases h with rfl | rfl | rfl
      · cases hkind
      · exact .joint (by decide) (by decide) _ _
      · exact .joint (by decide) (by decide) _ _
    · split at h
      · simp only [List.mem_cons, List.not_mem_nil, or_false] at h
        rcases h with rfl | rfl
        · exact .joint (by decide) (by decide) _ _
        · exact .joint (by decide) (by decide) _ _
      · rw [List.mem_singleton] at h
        subst h
        exact .joint (by decide) (by decide) _ _
  · unfold offersOfKey foreignKeyOffers at h
    rcases List.mem_append.mp h with h | h
    · simp only [List.mem_cons, List.not_mem_nil, or_false] at h
      rcases h with rfl | rfl
      · cases hkind
      · exact .joint (by decide) (by decide) _ _
    · split at h
      · rw [List.mem_singleton] at h
        subst h
        exact .joint (by decide) (by decide) _ _
      · cases h

/-- The labels of a catalog. -/
def labels (c : Catalog) : List String :=
  c.statements.map (·.label)

/-- The labels of its queries. -/
def queryLabels (c : Catalog) : List String :=
  (c.statements.filter (·.kind = .query)).map (·.label)

/-- The labels of what a table creates: itself, its indexes and its foreign keys. -/
def createLabels (t : Table) : List String :=
  createLabel (entityOf t.name) :: t.indexes.map (createLabel ·.name) ++
    t.foreignKeys.map fun k => createLabel (entityOf k.name)

/-- They are the labels of the creates, in any dialect. -/
theorem map_label_creates (d : Sql.Dialect) (t : Table) :
    (creates d t).map (·.statement.label) = createLabels t := by
  simp [creates, createLabels, createLabel, Offer.create, Function.comp_def]

/-- A label of a catalog is that of something that is created, or that of a query. -/
theorem mem_labels_cases (hc : build d t = .ok c) {label : String} (h : label ∈ labels c) :
    ∃ o ∈ allOffers d t, label ∈ o.labels ∧
      ((o.kind = .schema ∧ label ∈ createLabels t) ∨
        (o.kind = .query ∧ label ∈ queryLabels c ∧ Asks (entityOf t.name) o)) := by
  obtain ⟨s, hs, rfl⟩ := List.mem_map.mp h
  obtain ⟨o, ho, hgives⟩ := exists_offer_of_mem_build hc hs
  refine ⟨o, ho, hgives.label, ?_⟩
  cases hkind : o.kind with
  | query =>
    have hquery : s.kind = .query := hgives.kind.trans hkind
    have hmem : s ∈ c.statements.filter (·.kind = .query) := List.mem_filter.mpr ⟨hs, by simpa⟩
    exact Or.inr ⟨rfl, List.mem_map_of_mem hmem, asks_of_mem_allOffers ho hkind⟩
  | schema =>
    have hlabel := hgives.label
    rw [(formed_of_mem_allOffers ho).labels_of_schema hkind, List.mem_singleton] at hlabel
    rw [← map_label_creates d t, hlabel]
    exact Or.inl ⟨rfl, List.mem_map_of_mem (mem_creates_iff.mpr ⟨ho, hkind⟩)⟩

/-- Everything that a table creates has its label in the catalog, though it may stand there for
another statement of the table. -/
theorem createLabels_subset (hc : build d t = .ok c) : createLabels t ⊆ labels c := by
  obtain ⟨-, rfl⟩ := build_eq_ok_iff.mp hc
  intro label hlabel
  have hfirst : label ∈ (finished d t).toCatalog.schema.map (·.label) := by
    rw [schema_finished, mem_labels_firstOfLabel_iff, List.map_map]
    rwa [← map_label_creates d t] at hlabel
  obtain ⟨s, hs, rfl⟩ := List.mem_map.mp hfirst
  exact List.mem_map_of_mem (List.mem_of_mem_filter hs)

/-! ### Labels of two catalogs -/

/-- How the labels of queries of two tables can be equal: the tables are created under the same
label, or the label of the one goes on after that of the other. -/
def Meets (t t' : Table) : Prop :=
  createLabel (entityOf t.name) = createLabel (entityOf t'.name) ∨
    Continues (entityOf t.name) (entityOf t'.name) ∨
    Continues (entityOf t'.name) (entityOf t.name)

/-- A label of two catalogs is that of something which both tables create. Or it is that of a query
of both, and then these meet. -/
theorem label_shared_cases (hc : build d t = .ok c) (hc' : build d' t' = .ok c') {label : String}
    (h : label ∈ labels c) (h' : label ∈ labels c') :
    (label ∈ createLabels t ∧ label ∈ createLabels t') ∨
      (label ∈ queryLabels c ∧ label ∈ queryLabels c' ∧ Meets t t') := by
  obtain ⟨o, ho, hlabel, hkind⟩ := mem_labels_cases hc h
  obtain ⟨o', ho', hlabel', hkind'⟩ := mem_labels_cases hc' h'
  have hsame := (formed_of_mem_allOffers ho).kind_eq_of_mem_labels (formed_of_mem_allOffers ho')
    hlabel hlabel'
  rcases hkind with ⟨hk, hcreate⟩ | ⟨hk, hquery, hasks⟩ <;>
    rcases hkind' with ⟨hk', hcreate'⟩ | ⟨hk', hquery', hasks'⟩
  · exact Or.inl ⟨hcreate, hcreate'⟩
  · rw [hk, hk'] at hsame
    cases hsame
  · rw [hk, hk'] at hsame
    cases hsame
  · obtain ⟨verb, hverb, next, segments, hfollows, heq⟩ := hasks.exists_of_mem_labels hlabel
    obtain ⟨verb', hverb', next', segments', hfollows', heq'⟩ :=
      hasks'.exists_of_mem_labels hlabel'
    have hmeets := (label_eq_cases hverb hverb' hfollows hfollows' (heq.symm.trans heq')).2
    exact Or.inr ⟨hquery, hquery', hmeets⟩

/-- Nothing is created under a label of both tables, and their queries do not meet. -/
structure Apart (t t' : Table) : Prop where
  creates : ∀ label ∈ createLabels t, label ∉ createLabels t'
  forward : ¬Continues (entityOf t.name) (entityOf t'.name)
  backward : ¬Continues (entityOf t'.name) (entityOf t.name)

instance (t t' : Table) : Decidable (Apart t t') :=
  decidable_of_iff ((∀ label ∈ createLabels t, label ∉ createLabels t') ∧
      ¬Continues (entityOf t.name) (entityOf t'.name) ∧
      ¬Continues (entityOf t'.name) (entityOf t.name))
    ⟨fun ⟨hcreates, hforward, hbackward⟩ => ⟨hcreates, hforward, hbackward⟩,
      fun h => ⟨h.creates, h.forward, h.backward⟩⟩

/-- Tables that are apart do not meet. -/
theorem Apart.not_meets (h : Apart t t') : ¬Meets t t' := by
  rintro (hsame | hforward | hbackward)
  · have hmem : createLabel (entityOf t.name) ∈ createLabels t := List.mem_cons_self
    have hmem' : createLabel (entityOf t'.name) ∈ createLabels t' := List.mem_cons_self
    rw [← hsame] at hmem'
    exact h.creates _ hmem hmem'
  · exact h.forward hforward
  · exact h.backward hbackward

/-- Their catalogs have no label in common. -/
theorem Apart.disjoint (h : Apart t t') (hc : build d t = .ok c) (hc' : build d' t' = .ok c') :
    List.Disjoint (labels c) (labels c') := by
  intro label hlabel hlabel'
  rcases label_shared_cases hc hc' hlabel hlabel' with ⟨hcreate, hcreate'⟩ | ⟨-, -, hmeets⟩
  · exact h.creates label hcreate hcreate'
  · exact h.not_meets hmeets

end RecordSql.Catalog

namespace RecordSql.Generate

open RecordSql.Catalog (Apart Follows Meets build createLabel createLabels createLabels_subset
  entityOf label_eq_iff label_shared_cases labels queryLabels verbs)
open RecordSql.Record (Node Tree)

/-- Each catalog of a run is that of its table. -/
theorem build_of_mem_all {s : Settings} {ts : List Tree} {gs : List Generated}
    (h : all s ts = .ok gs) {g : Generated} (hg : g ∈ gs) :
    build s.dialect g.table = .ok g.catalog := by
  obtain ⟨t, -, hmakes⟩ := Catalog.exists_of_mem_forall₂ (all_eq_ok_iff.mp h).2 hg
  exact hmakes.catalog

/-- The labels of a run. Two catalogs share a label only if both tables create something under it,
or if it is that of a query in both and the queries of the tables meet; and they do share the labels
under which both tables create something.
Equal queries of two tables have the same label exactly if the tables are created under the same
label. If the tables are apart from each other, no two statements of the run have the same
label. -/
theorem labels_of_run {s : Settings} {ts : List Tree} {gs : List Generated}
    (h : all s ts = .ok gs) :
    (∀ g ∈ gs, ∀ g' ∈ gs, ∀ label ∈ labels g.catalog, label ∈ labels g'.catalog →
      (label ∈ createLabels g.table ∧ label ∈ createLabels g'.table) ∨
        (label ∈ queryLabels g.catalog ∧ label ∈ queryLabels g'.catalog ∧
          Meets g.table g'.table)) ∧
    (∀ g ∈ gs, ∀ g' ∈ gs, ∀ label ∈ createLabels g.table, label ∈ createLabels g'.table →
      label ∈ labels g.catalog ∧ label ∈ labels g'.catalog) ∧
    (∀ g ∈ gs, ∀ g' ∈ gs, ∀ verb ∈ verbs .query, ∀ next segments, Follows next segments →
      (Identifier.label (verb :: entityOf g.table.name :: next :: segments) =
          Identifier.label (verb :: entityOf g'.table.name :: next :: segments) ↔
        createLabel (entityOf g.table.name) = createLabel (entityOf g'.table.name))) ∧
    (gs.Pairwise (fun g g' => Apart g.table g'.table) →
      (gs.flatMap fun g => labels g.catalog).Nodup) := by
  have hbuild := fun g (hg : g ∈ gs) => build_of_mem_all h hg
  refine ⟨?_, ?_, ?_, ?_⟩
  · intro g hg g' hg' label hlabel hlabel'
    exact label_shared_cases (hbuild g hg) (hbuild g' hg') hlabel hlabel'
  · intro g hg g' hg' label hlabel hlabel'
    exact ⟨createLabels_subset (hbuild g hg) hlabel, createLabels_subset (hbuild g' hg') hlabel'⟩
  · intro g _ g' _ verb hverb next segments hfollows
    exact label_eq_iff hverb hfollows
  · intro hapart
    rw [List.nodup_flatMap]
    refine ⟨?_, ?_⟩
    · intro g hg
      obtain ⟨-, hcatalog⟩ := Catalog.build_eq_ok_iff.mp (hbuild g hg)
      rw [hcatalog]
      exact (Catalog.accounts_finished s.dialect g.table).placed.nodup
    · refine hapart.imp_of_mem ?_
      intro g g' hg hg' hapart
      exact hapart.disjoint (hbuild g hg) (hbuild g' hg')

/-- A record with an index of its names. -/
def indexed (typeName index : String) : Tree :=
  (Tree.new typeName typeName).push 0
    { name := "Name", kind := .string, typeName := "string", tags := some { index := some index } }

/-- All labels of two records are distinct if their indexes have names of their own. -/
theorem labels_of_users_and_orgs :
    ∃ gs, all {} [indexed "User" "users_by_name", indexed "Org" "orgs_by_name"] = .ok gs ∧
      gs.length = 2 ∧ gs.Pairwise (fun g g' => Apart g.table g'.table) ∧
      (gs.flatMap fun g => labels g.catalog).Nodup := by
  obtain ⟨gs, hall, hlength, hapart⟩ :
      ∃ gs, all {} [indexed "User" "users_by_name", indexed "Org" "orgs_by_name"] = .ok gs ∧
        gs.length = 2 ∧ gs.Pairwise fun g g' => Apart g.table g'.table :=
    exists_ok_of_checked (by decide +kernel)
  exact ⟨gs, hall, hlength, hapart, (labels_of_run hall).2.2.2 hapart⟩

/-- Tables with different names share a label if their indexes have the same name. -/
theorem label_of_namesakes :
    ∃ gs, all {} [indexed "User" "by_name", indexed "Org" "by_name"] = .ok gs ∧
      gs.Pairwise (fun g g' => g.table.name ≠ g'.table.name) ∧
      ¬gs.Pairwise fun g g' => ∀ label ∈ labels g.catalog, label ∉ labels g'.catalog :=
  exists_ok_of_checked (by decide +kernel)

end RecordSql.Generate
