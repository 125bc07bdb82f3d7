import RecordSql.Proofs.Conditions
import RecordSql.Proofs.Openings
import RecordSql.Proofs.PrimaryKey

/-!
# `RecordSql.Proofs.Forms`: what the text of a statement tells about it

All statements about one table have a `Form`, which says what they do without the words of a
dialect. Some forms differ only in ways that no text shows: an index may list other columns of
the same names, and a key may have another type. `Form.Same` leaves these differences out.

`text_eq_iff_same` says that two statements of a table have the same text exactly if their forms
are the same in this sense. As no dialect occurs in it, statements that have the same text in one
dialect have the same text in all of them (`text_eq_text_iff`).
-/

set_option autoImplicit false

namespace RecordSql.Sql

open RecordSql.Text (EmptyOr append_inj_of_emptyOr)

/-! ### Forms -/

/-- What a statement with a condition does. -/
inductive Verb where
  | select
  | count
  | update
  | delete
deriving DecidableEq, Repr

/-- What a statement does. -/
inductive Form where
  | createTable
  | createIndex (ix : Index)
  | addForeignKey (k : ForeignKey)
  | insert
  /-- A statement about the rows where the keys compare, or about a range of them. -/
  | query (verb : Verb) (keys : List Field) (range : Bool)
deriving DecidableEq, Repr

section

variable (d : Dialect) (t : Table)

/-- What stands before the condition. -/
def Verb.head : Verb → String
  | select => "SELECT " ++ columnList t.fields ++ "\nFROM " ++ t.name
  | count => "SELECT count(1)\nFROM " ++ t.name
  | update => "UPDATE " ++ t.name ++ " SET " ++ ",".intercalate (assignments d t.fields)
  | delete => "DELETE FROM " ++ t.name

/-- The number of values before the condition. -/
def Verb.offset : Verb → Nat
  | update => t.fields.length
  | select | count | delete => 0

/-- The bounds of a range after a number of values. -/
def bounds (count : Nat) : String :=
  "\nLIMIT " ++ d.placeholder count ++ " OFFSET " ++ d.placeholder (count + 1)

/-- What stands after the condition. -/
def tail (keys : List Field) (range : Bool) : String :=
  if range then bounds d keys.length else ""

/-- The text of a statement. -/
def Form.text : Form → String
  | createTable => Sql.createTable d t
  | createIndex ix => Sql.createIndex d t ix
  | addForeignKey k => Sql.addForeignKey t k
  | insert => Sql.insert d t
  | query verb keys range =>
    verb.head d t ++ (condition d keys (verb.offset t) ++ tail d keys range)

/-! ### The statements with a condition -/

variable (keys : List Field)

/-- Without a range nothing stands after the condition. -/
theorem text_query (verb : Verb) : (Form.query verb keys false).text d t
    = filtered (verb.head d t) (clause d keys (verb.offset t)) := by
  rw [filtered_eq_append]
  show verb.head d t ++ (condition d keys (verb.offset t) ++ "") = _
  rw [String.append_empty]

theorem select_eq : select d t keys = (Form.query .select keys false).text d t :=
  (text_query d t keys .select).symm

theorem selectCount_eq : selectCount d t keys = (Form.query .count keys false).text d t :=
  (text_query d t keys .count).symm

theorem update_eq_text : update d t keys = (Form.query .update keys false).text d t :=
  (text_query d t keys .update).symm

theorem delete_eq_text : delete d t keys = (Form.query .delete keys false).text d t :=
  (text_query d t keys .delete).symm

theorem selectRange_eq : selectRange d t keys = (Form.query .select keys true).text d t := by
  have hselect : select d t keys = Verb.head d t .select ++ condition d keys 0 :=
    filtered_eq_append _ keys 0
  show _ = Verb.head d t .select ++ (condition d keys 0 ++ bounds d keys.length)
  rw [selectRange, hselect, bounds]
  simp only [String.append_assoc]

end

variable {d : Dialect} {t : Table}

/-! ### How the text of a form begins -/

/-- The letter with which the text of a verb begins. -/
def Verb.opening : Verb → Char
  | select | count => 'S'
  | update => 'U'
  | delete => 'D'

/-- The letter with which the text of a form begins. -/
def Form.opening : Form → Char
  | createTable | createIndex _ => 'C'
  | addForeignKey _ => 'A'
  | insert => 'I'
  | query verb _ _ => verb.opening

theorem begins_head (d : Dialect) (t : Table) (verb : Verb) :
    Begins verb.opening (verb.head d t) := by
  cases verb with
  | select =>
    unfold Verb.head
    simp only [String.append_assoc]
    refine Begins.append ?_ _
    rfl
  | count =>
    refine Begins.append ?_ _
    rfl
  | update =>
    unfold Verb.head
    simp only [String.append_assoc]
    refine Begins.append ?_ _
    rfl
  | delete =>
    refine Begins.append ?_ _
    rfl

theorem begins_text (d : Dialect) (t : Table) (f : Form) : Begins f.opening (f.text d t) := by
  cases f with
  | createTable => exact begins_createTable d t
  | createIndex ix => exact begins_createIndex d t ix
  | addForeignKey k => exact begins_addForeignKey t k
  | insert => exact begins_insert d t
  | query verb keys range => exact (begins_head d t verb).append _

/-- Forms with the same text have the same opening. -/
theorem opening_eq_of_text_eq {f g : Form} (h : f.text d t = g.text d t) :
    f.opening = g.opening := by
  have hf := begins_text d t f
  rw [h] at hf
  exact hf.eq (begins_text d t g)

/-! ### Forms that are the same -/

/-- What `CREATE INDEX` says about an index apart from whether it is unique. -/
def indexSubject (t : Table) (ix : Index) : String :=
  ix.name ++ " ON " ++ t.name ++ " (" ++ columnList ix.fields ++ ")"

/-- Two forms of statements of a table are the same but for what no text shows. -/
def Form.Same (t : Table) : Form → Form → Prop
  | createTable, createTable => True
  | createIndex ix, createIndex ix' =>
    ix.unique = ix'.unique ∧ indexSubject t ix = indexSubject t ix'
  | addForeignKey k, addForeignKey k' => Sql.addForeignKey t k = Sql.addForeignKey t k'
  | insert, insert => True
  | query verb keys range, query verb' keys' range' =>
    verb = verb' ∧ List.Forall₂ Field.ComparesAs keys keys' ∧ range = range'
  | _, _ => False

/-- The keys of a form are legible. -/
def Form.Legible : Form → Prop
  | query _ keys _ => ∀ k ∈ keys, k.Legible
  | createTable | createIndex _ | addForeignKey _ | insert => True

/-- What follows `CREATE` for an index. -/
def indexRest (d : Dialect) (t : Table) (ix : Index) : String :=
  (if ix.unique then "UNIQUE INDEX " else "INDEX ") ++
    (d.indexGuard ++ (indexSubject t ix ++ d.indexEnd))

theorem createIndex_eq (d : Dialect) (t : Table) (ix : Index) :
    createIndex d t ix = "CREATE " ++ indexRest d t ix := by
  unfold createIndex indexRest indexSubject
  simp only [String.append_assoc]

theorem begins_indexRest (d : Dialect) (t : Table) (ix : Index) :
    Begins (if ix.unique then 'U' else 'I') (indexRest d t ix) := by
  refine Begins.append ?_ _
  cases ix.unique <;> rfl

/-- An index is not a table. -/
theorem createTable_ne_createIndex (ix : Index) : createTable d t ≠ createIndex d t ix := by
  intro h
  have htable : (createTable d t).toList[7]? = some 'T' := by
    rw [createTable_eq, String.append_assoc, String.append_assoc, String.toList_append]
    rfl
  have hindex : (createIndex d t ix).toList[7]? = some (if ix.unique then 'U' else 'I') := by
    rw [createIndex_eq, String.toList_append, ← begins_indexRest d t ix, List.head?_eq_getElem?]
    rfl
  rw [h, hindex] at htable
  split at htable <;> cases htable

/-- Indexes have the same text exactly if they are the same but for what no text shows. -/
theorem createIndex_eq_iff {ix ix' : Index} : createIndex d t ix = createIndex d t ix' ↔
    ix.unique = ix'.unique ∧ indexSubject t ix = indexSubject t ix' := by
  rw [createIndex_eq, createIndex_eq, String.append_right_inj]
  constructor
  · intro h
    have hunique : ix.unique = ix'.unique := by
      have hfirst := begins_indexRest d t ix
      rw [h] at hfirst
      have hsame := hfirst.eq (begins_indexRest d t ix')
      cases hu : ix.unique <;> cases hu' : ix'.unique <;> simp [hu, hu'] at hsame ⊢
    unfold indexRest at h
    rw [hunique, String.append_right_inj, String.append_right_inj, String.append_left_inj] at h
    exact ⟨hunique, h⟩
  · rintro ⟨hunique, hsubject⟩
    rw [indexRest, indexRest, hunique, hsubject]

/-- The columns of a select are not a count. -/
theorem select_head_ne_count (hfields : ∀ f ∈ t.fields, f.Legible) (r r' : String) :
    Verb.select.head d t ++ r ≠ Verb.count.head d t ++ r' := by
  intro h
  have hnot : ∀ c, IsMark c → c ≠ ',' → c ∉ (columnList t.fields).toList := by
    intro c hc hcomma
    exact not_mem_columnList hcomma fun f hf => (hfields f hf).not_mem_name hc
  have hcount : "SELECT count(1)\nFROM ".toList
      = "SELECT ".toList ++ ("count(1)".toList ++ '\n' :: "FROM ".toList) := by
    decide
  have htexts := congrArg String.toList h
  unfold Verb.head at htexts
  simp only [String.toList_append, hcount, List.append_assoc] at htexts
  have hcut := append_inj_of_emptyOr (hnot '\n' (by decide) (by decide)) (by decide)
    (Or.inr ⟨_, rfl⟩) (Or.inr ⟨_, rfl⟩) (List.append_cancel_left htexts)
  have hopen : '(' ∉ (columnList t.fields).toList := hnot '(' (by decide) (by decide)
  rw [hcut.1] at hopen
  exact absurd hopen (by decide)

/-- Statements with the same text have the same verb. -/
theorem verb_eq_of_text_eq (hfields : ∀ f ∈ t.fields, f.Legible) {verb verb' : Verb}
    {r r' : String} (h : verb.head d t ++ r = verb'.head d t ++ r') : verb = verb' := by
  have hopening : verb.opening = verb'.opening := by
    have hverb := (begins_head d t verb).append r
    rw [h] at hverb
    exact hverb.eq ((begins_head d t verb').append r')
  cases verb <;> cases verb'
  case select.count => exact absurd h (select_head_ne_count hfields r r')
  case count.select => exact absurd h.symm (select_head_ne_count hfields r' r)
  all_goals first | rfl | exact absurd hopening (by decide)

/-- The bounds of a range are on a line of their own. -/
theorem toList_tail_true (keys : List Field) :
    ∃ more, (tail d keys true).toList = ['\n', 'L'] ++ more := by
  refine ⟨("IMIT " ++ d.placeholder keys.length ++ " OFFSET "
    ++ d.placeholder (keys.length + 1)).toList, ?_⟩
  show (bounds d keys.length).toList = _
  rw [bounds]
  simp

/-- Statements with a condition have the same text exactly if they do the same where the same
columns compare alike. -/
theorem text_query_eq_iff (hfields : ∀ f ∈ t.fields, f.Legible) {verb verb' : Verb}
    {keys keys' : List Field} (hkeys : ∀ k ∈ keys, k.Legible) (hkeys' : ∀ k ∈ keys', k.Legible)
    {range range' : Bool} :
    (Form.query verb keys range).text d t = (Form.query verb' keys' range').text d t ↔
      verb = verb' ∧ List.Forall₂ Field.ComparesAs keys keys' ∧ range = range' := by
  have htail : ∀ ks range, EmptyOr ['\n', 'L'] (tail d ks range).toList := by
    intro ks range
    cases range with
    | false => exact Or.inl rfl
    | true =>
      obtain ⟨more, hmore⟩ := toList_tail_true (d := d) ks
      exact Or.inr ⟨more, hmore.symm⟩
  unfold Form.text
  constructor
  · intro h
    have hverb := verb_eq_of_text_eq hfields h
    subst hverb
    have hrest := congrArg String.toList ((String.append_right_inj _).mp h)
    rw [String.toList_append, String.toList_append] at hrest
    obtain ⟨hcompare, htails⟩ := condition_inj hkeys hkeys' (htail keys range)
      (htail keys' range') hrest
    refine ⟨rfl, hcompare, ?_⟩
    -- Only one of two tails would be empty if only one had a range.
    cases range <;> cases range'
    · rfl
    · obtain ⟨more, hmore⟩ := toList_tail_true (d := d) keys'
      rw [hmore] at htails
      cases htails
    · obtain ⟨more, hmore⟩ := toList_tail_true (d := d) keys
      rw [hmore] at htails
      cases htails
    · rfl
  · rintro ⟨rfl, hcompare, rfl⟩
    have hlength : keys.length = keys'.length := hcompare.length_eq
    dsimp only
    rw [condition_congr hcompare, tail, tail, hlength]

/-- A statement with a condition begins like no other. -/
theorem Verb.opening_ne (verb : Verb) :
    verb.opening ≠ 'C' ∧ verb.opening ≠ 'A' ∧ verb.opening ≠ 'I' := by
  cases verb <;> decide

/-- Statements of a table have the same text exactly if their forms are the same but for what no
text shows. -/
theorem text_eq_iff_same (hfields : ∀ f ∈ t.fields, f.Legible) {f g : Form} (hf : f.Legible)
    (hg : g.Legible) : f.text d t = g.text d t ↔ f.Same t g := by
  constructor
  · intro h
    have hopening := opening_eq_of_text_eq h
    cases f <;> cases g
    case createTable.createTable => trivial
    case createTable.createIndex ix => exact absurd h (createTable_ne_createIndex ix)
    case createIndex.createTable ix => exact absurd h.symm (createTable_ne_createIndex ix)
    case createIndex.createIndex => exact createIndex_eq_iff.mp h
    case addForeignKey.addForeignKey => exact h
    case insert.insert => trivial
    case query.query => exact (text_query_eq_iff hfields hf hg).mp h
    case query.createTable verb _ _ => exact absurd hopening verb.opening_ne.1
    case query.createIndex verb _ _ _ => exact absurd hopening verb.opening_ne.1
    case query.addForeignKey verb _ _ _ => exact absurd hopening verb.opening_ne.2.1
    case query.insert verb _ _ => exact absurd hopening verb.opening_ne.2.2
    case createTable.query verb _ _ => exact absurd hopening.symm verb.opening_ne.1
    case createIndex.query verb _ _ => exact absurd hopening.symm verb.opening_ne.1
    case addForeignKey.query verb _ _ => exact absurd hopening.symm verb.opening_ne.2.1
    case insert.query verb _ _ => exact absurd hopening.symm verb.opening_ne.2.2
    -- All others begin with different letters.
    all_goals simp [Form.opening] at hopening
  · intro h
    cases f <;> cases g
    case createTable.createTable => rfl
    case createIndex.createIndex => exact createIndex_eq_iff.mpr h
    case addForeignKey.addForeignKey => exact h
    case insert.insert => rfl
    case query.query => exact (text_query_eq_iff hfields hf hg).mpr h
    all_goals cases h

/-- Statements of a table that have the same text in one dialect have the same text in all. -/
theorem text_eq_text_iff (hfields : ∀ f ∈ t.fields, f.Legible) {f g : Form} (hf : f.Legible)
    (hg : g.Legible) (d d' : Dialect) :
    f.text d t = g.text d t ↔ f.text d' t = g.text d' t := by
  rw [text_eq_iff_same hfields hf hg, text_eq_iff_same hfields hf hg]

end RecordSql.Sql
