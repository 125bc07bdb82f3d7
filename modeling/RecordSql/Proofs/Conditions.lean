import RecordSql.Proofs.Comparisons
import RecordSql.Proofs.ForeignKeys
import RecordSql.Proofs.IndexTags
import RecordSql.Proofs.Indexes
import RecordSql.Proofs.Writes

/-!
# `RecordSql.Proofs.Conditions`: what a condition says

The condition of a statement has one comparison for each key, with `AND` between them, on a line
of its own. `condition_inj` reads the line back with whatever follows it in the statement, one
comparison after the other. So two conditions have the same text in one dialect exactly if they
have the same text in another: if their keys compare alike (`condition_congr`). `clause_eq_iff` says
the same of the clause on its own.

This needs legible keys. `legible_of_mem_fields` and what follows it say that loaded tables have
no others, although the functions of an index are whatever stands in a tag.
-/

set_option autoImplicit false

namespace RecordSql

open RecordSql.Text (EmptyOr append_inj_of_emptyOr)

namespace Sql

variable {d : Dialect}

/-! ### Conditions -/

/-- The comparisons with `AND` before each of them. -/
def continued (d : Dialect) (keys : List Field) (offset : Nat) : List Char :=
  (predicates d keys offset).flatMap (" AND ".toList ++ ·.toList)

/-- The first key has the first position. -/
theorem predicates_cons (d : Dialect) (k : Field) (keys : List Field) (offset : Nat) :
    predicates d (k :: keys) offset = predicate d k offset :: predicates d keys (offset + 1) := by
  rw [predicates_eq, predicates_eq, List.zipIdx_cons, List.map_cons]

/-- Texts with `AND` between them, with one more before them. -/
theorem and_append_intercalate {texts : List String} (h : texts ≠ []) :
    " AND ".toList ++ (" AND ".intercalate texts).toList
      = texts.flatMap (" AND ".toList ++ ·.toList) := by
  obtain ⟨text, texts, rfl⟩ := List.exists_cons_of_ne_nil h
  rw [String.toList_intercalate, List.map_cons, Text.intercalate_cons_eq_flatMap, List.flatMap_map,
    List.flatMap_cons, List.append_assoc]

theorem continued_cons (k : Field) (keys : List Field) (offset : Nat) :
    continued d (k :: keys) offset
      = " AND ".toList ++ ((predicate d k offset).toList ++ continued d keys (offset + 1)) := by
  rw [continued, predicates_cons, List.flatMap_cons, List.append_assoc]
  rfl

/-- What continues a condition cannot be taken for a part of a comparison. -/
theorem emptyOr_continued (keys : List Field) (offset : Nat) :
    EmptyOr [' ', 'A'] (continued d keys offset) := by
  cases keys with
  | nil => exact Or.inl rfl
  | cons k keys =>
    rw [continued_cons]
    exact Or.inr ⟨_, rfl⟩

/-- The comparisons of a condition, with one more `AND` before them. -/
theorem and_append_predicates {keys : List Field} (h : keys ≠ []) (offset : Nat) :
    " AND ".toList ++ (" AND ".intercalate (predicates d keys offset)).toList
      = continued d keys offset := by
  refine and_append_intercalate ?_
  rw [ne_eq, ← List.length_eq_zero_iff, length_predicates, List.length_eq_zero_iff]
  exact h

/-- All comparisons can be read back. -/
theorem comparesAs_of_continued {keys keys' : List Field} (hkeys : ∀ k ∈ keys, k.Legible)
    (hkeys' : ∀ k ∈ keys', k.Legible) {offset : Nat}
    (h : continued d keys offset = continued d keys' offset) :
    List.Forall₂ Field.ComparesAs keys keys' := by
  induction keys generalizing keys' offset with
  | nil =>
    cases keys' with
    | nil => exact List.Forall₂.nil
    | cons k' keys' =>
      rw [continued_cons] at h
      cases h
  | cons k keys ih =>
    cases keys' with
    | nil =>
      rw [continued_cons] at h
      cases h
    | cons k' keys' =>
      obtain ⟨hk, hkeys⟩ := List.forall_mem_cons.mp hkeys
      obtain ⟨hk', hkeys'⟩ := List.forall_mem_cons.mp hkeys'
      rw [continued_cons, continued_cons] at h
      obtain ⟨hcompares, hrest⟩ := predicate_inj hk hk' (emptyOr_continued keys _)
        (emptyOr_continued keys' _) (List.append_cancel_left h)
      exact List.Forall₂.cons hcompares (ih hkeys hkeys' hrest)

/-- What a condition adds to a statement. It begins a line, and there is none without keys. -/
def condition (d : Dialect) (keys : List Field) (offset : Nat) : String :=
  filtered "" (clause d keys offset)

/-- A statement with a condition is the statement and what the condition adds. -/
theorem filtered_eq_append (head : String) (keys : List Field) (offset : Nat) :
    filtered head (clause d keys offset) = head ++ condition d keys offset := by
  unfold condition filtered
  split <;> simp [String.append_assoc]

/-- Without keys nothing is added. -/
theorem condition_nil (offset : Nat) : condition d [] offset = "" :=
  filtered_clause_nil d "" offset

/-- With keys it is a line. -/
theorem toList_condition {keys : List Field} (h : keys ≠ []) (offset : Nat) :
    (condition d keys offset).toList
      = "\nWHERE ".toList ++ (" AND ".intercalate (predicates d keys offset)).toList := by
  rw [condition, filtered_clause d "" h]
  simp

/-- The comparisons do not go over the end of the line. -/
theorem not_mem_intercalate_predicates {keys : List Field} (hkeys : ∀ k ∈ keys, k.Legible)
    (offset : Nat) : '\n' ∉ (" AND ".intercalate (predicates d keys offset)).toList := by
  rw [predicates_eq]
  refine Text.not_mem_intercalate (by decide) (List.forall_mem_map.mpr ?_)
  rintro ⟨k, i⟩ hk
  exact not_mem_predicate (hkeys k (List.fst_mem_of_mem_zipIdx hk)) d i

/-- Conditions with the same text compare the same columns in the same ways, whatever else the
statement has after them. -/
theorem condition_inj {keys keys' : List Field} (hkeys : ∀ k ∈ keys, k.Legible)
    (hkeys' : ∀ k ∈ keys', k.Legible) {offset : Nat} {rs ss : List Char}
    (hr : EmptyOr ['\n', 'L'] rs) (hs : EmptyOr ['\n', 'L'] ss)
    (h : (condition d keys offset).toList ++ rs = (condition d keys' offset).toList ++ ss) :
    List.Forall₂ Field.ComparesAs keys keys' ∧ rs = ss := by
  -- Only a condition begins a line with `WHERE`.
  have hwhere : ∀ {ts : List Char}, EmptyOr ['\n', 'L'] ts → ∀ more,
      ts ≠ "\nWHERE ".toList ++ more := by
    rintro ts (rfl | ⟨rest, rfl⟩) more heq
    · cases heq
    · cases heq
  by_cases hnil : keys = []
  · by_cases hnil' : keys' = []
    · subst hnil hnil'
      exact ⟨List.Forall₂.nil, List.append_cancel_left h⟩
    · rw [hnil, condition_nil, toList_condition hnil', List.append_assoc] at h
      exact absurd h (hwhere hr _)
  · by_cases hnil' : keys' = []
    · rw [hnil', condition_nil, toList_condition hnil, List.append_assoc] at h
      exact absurd h.symm (hwhere hs _)
    · rw [toList_condition hnil, toList_condition hnil', List.append_assoc, List.append_assoc] at h
      obtain ⟨hall, hrest⟩ := append_inj_of_emptyOr (not_mem_intercalate_predicates hkeys offset)
        (not_mem_intercalate_predicates hkeys' offset) hr.first hs.first
        (List.append_cancel_left h)
      have hsame : continued d keys offset = continued d keys' offset := by
        rw [← and_append_predicates hnil, ← and_append_predicates hnil', hall]
      exact ⟨comparesAs_of_continued hkeys hkeys' hsame, hrest⟩

/-- Keys that compare alike have the same clause in every dialect. -/
theorem clause_congr {keys keys' : List Field} (h : List.Forall₂ Field.ComparesAs keys keys')
    (d : Dialect) (offset : Nat) : clause d keys offset = clause d keys' offset := by
  have hpredicates : ∀ o, predicates d keys o = predicates d keys' o := by
    induction h with
    | nil => intro o; rfl
    | cons hk _ ih =>
      intro o
      rw [predicates_cons, predicates_cons, hk.predicate_eq d o, ih]
  have hempty : keys.isEmpty = keys'.isEmpty := by cases h <;> rfl
  unfold clause
  rw [hpredicates, hempty]

/-- So they have the same condition. -/
theorem condition_congr {keys keys' : List Field} (h : List.Forall₂ Field.ComparesAs keys keys')
    (d : Dialect) (offset : Nat) : condition d keys offset = condition d keys' offset := by
  rw [condition, clause_congr h, condition]

/-- A clause determines what it compares, and nothing else. If two lists of legible keys have the
same clause from one position on in one dialect, then they are equally long, and the keys at each
place have the same name and the same operator; if this is a call, then the value has the same place
among its arguments. -/
theorem clause_eq_iff {keys keys' : List Field} (hkeys : ∀ k ∈ keys, k.Legible)
    (hkeys' : ∀ k ∈ keys', k.Legible) (d : Dialect) (offset : Nat) :
    clause d keys offset = clause d keys' offset ↔
      List.Forall₂ Field.ComparesAs keys keys' := by
  constructor
  · intro h
    have hcondition : condition d keys offset = condition d keys' offset := by
      rw [condition, h, condition]
    -- A clause is a condition with nothing after it.
    exact (condition_inj hkeys hkeys' (Or.inl rfl) (Or.inl rfl) (by rw [hcondition])).1
  · intro h
    exact clause_congr h d offset

/-- The place of the value is told apart also where the function ends in something that could be a
call itself. -/
theorem clause_eq_iff_max :
    let f : Field :=
      { node := 1, name := "f_a", type := .long, operator := .call "max(?,f_a)=f_a,min" }
    let g : Field := { f with valueFirst := true }
    (f.Legible ∧ g.Legible) ∧
      clause .sqlite [f, f] 0 =
        "WHERE max(?,f_a)=f_a,min(f_a,?) AND max(?,f_a)=f_a,min(f_a,?)" ∧
      clause .sqlite [f, f] 0 ≠ clause .sqlite [f, g] 0 := by
  intro f g
  have hname : ∀ c ∈ "f_a".toList, ¬IsMark c := by
    have hall : "f_a".toList.all (fun c => !decide (IsMark c)) = true := by decide
    simpa using hall
  have hfunction : ∀ c ∈ "max(?,f_a)=f_a,min".toList, Text.isBlank c = false :=
    (Text.removeBlanks_eq_self_iff _).mp (by decide)
  have hlegible : ∀ k ∈ [f, g], k.Legible := by
    intro k hk
    have hk' : k.name = "f_a" ∧ k.operator = .call "max(?,f_a)=f_a,min" := by
      rcases List.mem_pair.mp hk with rfl | rfl <;> exact ⟨rfl, rfl⟩
    refine ⟨hk'.1 ▸ hname, fun function hcall => ?_⟩
    obtain rfl := Tag.Operator.call.inj (hk'.2.symm.trans hcall)
    exact hfunction
  have hf := hlegible f (by simp)
  refine ⟨⟨hf, hlegible g (by simp)⟩, by decide +kernel, fun hsame => ?_⟩
  have hall := (clause_eq_iff (by simpa using hf) hlegible .sqlite 0).mp hsame
  -- The second keys would have the value at the same place.
  obtain ⟨-, htail⟩ := List.forall₂_cons.mp hall
  obtain ⟨hcompares, -⟩ := List.forall₂_cons.mp htail
  cases hcompares.valueFirst _ rfl

end Sql

/-! ### The keys of loaded tables -/

namespace Tag

/-- The function of an entry of an index tag has no white space. -/
theorem isBlank_of_mem_function {tag : String} {e : IndexEntry}
    (he : e ∈ (readIndexTag tag).entries) {function : String} (h : e.operator = .call function)
    {c : Char} (hc : c ∈ function.toList) : Text.isBlank c = false := by
  have hpart := (IndexEntry.printable_of_mem_entries he).function function h
  exact (Text.removeBlanks_eq_self_iff _).mp hpart.clean_eq c hc

end Tag

namespace Table

open RecordSql.Record (Tree)

/-- The columns of a loaded table are legible. -/
theorem legible_of_mem_fields {t : Tree} {f : Field} (hf : f ∈ (load t).table.fields) :
    f.Legible where
  name _ hc := Sql.not_isMark_of_isNameChar (isNameChar_of_mem_fields hf hc)
  function _ h := by
    rw [operator_of_mem_fields hf] at h
    cases h

/-- The columns of its primary key are. -/
theorem legible_of_mem_primary {t : Tree} {f : Field} (hf : f ∈ (load t).table.primary) :
    f.Legible := by
  have hprimary : (load t).table.primary = (load t).table.fields.filter (·.primary) :=
    (Builder.built_ofTree t).primary
  rw [hprimary] at hf
  exact legible_of_mem_fields (List.mem_of_mem_filter hf)

/-- The name and the comparison of an item come from an entry of a tag. -/
theorem exists_entry_of_mem_indexItems {l : Leaf} {i : IndexItem} (h : i ∈ l.indexItems) :
    ∃ tag, ∃ e ∈ (Tag.readIndexTag tag).entries,
      i.name = e.name ∧ i.field.operator = e.operator := by
  -- Without the tag there are no entries.
  have htag : ∀ {tag : Option String} {e : Tag.IndexEntry},
      e ∈ ((tag.map Tag.readIndexTag).getD {}).entries →
        ∃ text, e ∈ (Tag.readIndexTag text).entries := by
    intro tag e he
    cases tag with
    | none => cases he
    | some text => exact ⟨text, he⟩
  rcases List.mem_append.mp h with h | h
  · obtain ⟨e, he, rfl⟩ := List.mem_map.mp h
    obtain ⟨text, he⟩ := htag he
    exact ⟨text, e, he, rfl, rfl⟩
  · obtain ⟨e, he, rfl⟩ := List.mem_map.mp h
    obtain ⟨text, he⟩ := htag he
    exact ⟨text, e, he, rfl, rfl⟩

/-- A column of an index has the name of a column of the table. -/
theorem exists_name_of_mem_index {t : Tree} {ix : Index} (hix : ix ∈ (load t).table.indexes)
    {f : Field} (hf : f ∈ ix.fields) : ∃ g ∈ (load t).table.fields, f.name = g.name := by
  obtain ⟨g, hg, hfg⟩ := exists_field_of_mem_index hix hf
  exact ⟨g, hg, by rw [hfg]; rfl⟩

/-- The columns of its indexes are legible. Each has the comparison of an entry. -/
theorem legible_of_mem_index {t : Tree} {ix : Index} (hix : ix ∈ (load t).table.indexes)
    {f : Field} (hf : f ∈ ix.fields) : f.Legible := by
  obtain ⟨g, hg, hname⟩ := exists_name_of_mem_index hix hf
  refine ⟨fun c hc => (legible_of_mem_fields hg).name c (hname ▸ hc), ?_⟩
  intro function hcall c hc
  rw [(eq_indexOf_of_mem hix).1, fields_indexOf] at hf
  obtain ⟨i, hi, rfl⟩ := List.mem_map.mp hf
  obtain ⟨l, -, hil⟩ := List.mem_flatMap.mp (List.mem_of_mem_filter hi)
  obtain ⟨tag, e, he, -, hop⟩ := exists_entry_of_mem_indexItems hil
  rw [hcall] at hop
  exact Tag.isBlank_of_mem_function he hop.symm hc

/-- The columns of its foreign keys are. -/
theorem legible_of_mem_foreignKey {t : Tree} {k : ForeignKey}
    (hk : k ∈ (load t).table.foreignKeys) {f : Field} (hf : f ∈ k.fromFields) : f.Legible :=
  legible_of_mem_fields (mem_fields_of_mem_foreignKey hk hf)

end Table

end RecordSql
