import Mathlib.Algebra.Order.BigOperators.Group.List
import Mathlib.Algebra.Order.Group.Nat
import RecordSql.Proofs.Entries
import RecordSql.Proofs.Retagging

/-!
# `RecordSql.Proofs.ForeignGroups`: two ways to name a foreign key

A field can name the foreign key of its references once, in its `foreignGroup` tag, or in each entry
of its foreign tag:

```text
foreign: "ID@users;Org@orgs"  foreignGroup: "author"
foreign: "ID@users@author;Org@orgs@author"
```

The second way needs room for one more part. `addGroup` writes the group into a tag, and
`readForeignTag_addGroup` says what is read then: the same entries, each with the group, if all of
them have two parts. An entry whose third part is there but blank is accepted, and has no room: with
the group it has four parts and is rejected (`exists_error_of_long`).

`load_foreignGroup` compares the records. The two ways come to the same if all entries have two
parts, and otherwise only at a field whose references are not looked at. The group is a text that an
entry can have as a part, so there is no white space around it.
-/

set_option autoImplicit false

namespace RecordSql.Tag

/-! ### A group for each entry -/

/-- A piece of a tag with one more part, unless it is blank. -/
def addPart (part raw : List Char) : List Char :=
  if Text.AllBlank raw then raw else raw ++ '@' :: part

/-- A foreign tag with a group appended to each of its entries. -/
def addGroup (group tag : String) : String :=
  String.ofList
    ([';'].intercalate ((Text.split (· == ';') tag.toList).map (addPart group.toList)))

/-- All entries of a foreign tag are accepted, and none of them names a foreign key. -/
structure Ungrouped (tag : String) : Prop where
  accepted : (readForeignTag tag).rejected = []
  group : ∀ e ∈ (readForeignTag tag).entries, e.group = none

/-- All entries of a foreign tag have a column and a table and nothing after them. -/
def TwoParts (tag : String) : Prop :=
  ∀ piece ∈ pieces Text.trim tag, (Text.split (· == '@') piece).length = 2

instance (tag : String) : Decidable (Ungrouped tag) :=
  decidable_of_iff ((readForeignTag tag).rejected = [] ∧
    ∀ e ∈ (readForeignTag tag).entries, e.group = none) ⟨fun ⟨h, h'⟩ => ⟨h, h'⟩, fun ⟨h, h'⟩ => ⟨h, h'⟩⟩

instance (tag : String) : Decidable (TwoParts tag) :=
  inferInstanceAs (Decidable (∀ piece ∈ _, _))

/-- The texts of the entries of a foreign tag, as they stand between its semicolons. -/
def rawEntries (tag : String) : List (List Char) :=
  (Text.split (· == ';') tag.toList).filter fun raw => ¬Text.AllBlank raw

/-- The pieces of a tag are its trimmed entries. -/
theorem pieces_eq_map_rawEntries (tag : String) :
    pieces Text.trim tag = (rawEntries tag).map Text.trim := by
  unfold pieces rawEntries
  rw [List.filter_map]
  refine congrArg _ (List.filter_congr fun raw _ => ?_)
  rw [Function.comp_apply, Bool.eq_iff_iff]
  simp [Text.trim_eq_nil_iff]

variable {group tag : String}

/-- A tag with a group is cut where the tag is. -/
theorem split_addGroup (hgroup : ';' ∉ group.toList) (tag : String) :
    Text.split (· == ';') (addGroup group tag).toList
      = (Text.split (· == ';') tag.toList).map (addPart group.toList) := by
  have hcut := Text.isCut_split ';' tag.toList
  rw [Text.split_eq_iff_isCut]
  refine ⟨?_, ?_, ?_⟩
  · rw [Ne, List.map_eq_nil_iff]
    exact hcut.ne_nil
  · rw [addGroup, String.toList_ofList]
  · -- No piece gets a semicolon, as there is none in the group.
    intro piece hpiece
    obtain ⟨raw, hraw, rfl⟩ := List.mem_map.mp hpiece
    have hfree := hcut.not_mem raw hraw
    unfold addPart
    split
    · exact hfree
    · simp [hfree, hgroup]

/-- Its pieces are the entries with the group. -/
theorem pieces_addGroup (hgroup : ';' ∉ group.toList) (tag : String) :
    pieces Text.trim (addGroup group tag)
      = (rawEntries tag).map fun raw => Text.trim (raw ++ '@' :: group.toList) := by
  unfold pieces rawEntries
  rw [split_addGroup hgroup]
  induction Text.split (· == ';') tag.toList with
  | nil => rfl
  | cons raw raws ih =>
    rw [List.map_cons, List.map_cons]
    by_cases hblank : Text.AllBlank raw
    · have hnil : Text.trim (addPart group.toList raw) = [] := by
        rw [addPart, if_pos hblank]
        exact (Text.trim_eq_nil_iff raw).mpr hblank
      rw [List.filter_cons_of_neg (by simp [hnil]), List.filter_cons_of_neg (by simp [hblank]), ih]
    · -- The mark before the group is no white space.
      have hmark : ¬Text.AllBlank (raw ++ '@' :: group.toList) := by
        intro hall
        exact absurd (hall '@' (by simp)) (by decide)
      have hne := mt (Text.trim_eq_nil_iff _).mp hmark
      rw [addPart, if_neg hblank, List.filter_cons_of_pos (by simpa using hne),
        List.filter_cons_of_pos (by simpa using hblank), List.map_cons, ih]

section

variable {raw source table part : List Char} {more : List (List Char)} {e : ForeignEntry}

/-- An entry with one more part is cut into its own parts and that one, but for white space. -/
theorem exists_isCut_append (hcut : Text.IsCut '@' (Text.trim raw) (source :: more))
    (hpart : '@' ∉ part) :
    ∃ source' more', Text.IsCut '@' (Text.trim (raw ++ '@' :: part)) (source' :: more') ∧
      Text.trim source' = Text.trim source ∧
      more'.map Text.trim = more.map Text.trim ++ [Text.trim part] := by
  have hat : ∀ c, Text.isBlank c = true → (c == '@') = false := Text.beq_of_isBlank rfl
  have hlast : Text.split (· == '@') part = [part] := by
    refine Text.split_of_forall_not fun c hc => ?_
    rw [beq_eq_false_iff_ne]
    rintro rfl
    exact hpart hc
  have hparts : (Text.split (· == '@') (Text.trim (raw ++ '@' :: part))).map Text.trim
      = Text.trim source :: (more.map Text.trim ++ [Text.trim part]) := by
    calc (Text.split (· == '@') (Text.trim (raw ++ '@' :: part))).map Text.trim
        = (Text.split (· == '@') (raw ++ '@' :: part)).map Text.trim :=
          ((Text.pads_trim _).map_trim_split hat).symm
      _ = (Text.split (· == '@') raw).map Text.trim ++ [Text.trim part] := by
          rw [Text.split_append raw (by rfl), hlast, List.map_append, List.map_singleton]
      _ = (Text.split (· == '@') (Text.trim raw)).map Text.trim ++ [Text.trim part] := by
          rw [(Text.pads_trim raw).map_trim_split hat]
      _ = Text.trim source :: (more.map Text.trim ++ [Text.trim part]) := by
          rw [(Text.split_eq_iff_isCut _ _ _).mpr hcut, List.map_cons, List.cons_append]
  obtain ⟨source', more', hsplit⟩ := List.exists_cons_of_ne_nil
    (Text.split_ne_nil (· == '@') (Text.trim (raw ++ '@' :: part)))
  rw [hsplit, List.map_cons, List.cons.injEq] at hparts
  exact ⟨source', more', (Text.split_eq_iff_isCut _ _ _).mp hsplit, hparts⟩

/-- An accepted entry has two parts or three. -/
theorem exists_isCut_of_ok (he : ForeignEntry.ofPiece (Text.trim raw) = .ok e) :
    ∃ source table more, Text.IsCut '@' (Text.trim raw) (source :: table :: more) ∧
      more.length ≤ 1 := by
  cases (ForeignEntry.ofPiece_eq_iff _ _).mp he with
  | entry hcut hfew _ _ _ => exact ⟨_, _, _, hcut, hfew⟩

/-- An accepted entry of two parts has the group as its third one. -/
theorem ofPiece_append_of_two (he : ForeignEntry.ofPiece (Text.trim raw) = .ok e)
    (htwo : (Text.split (· == '@') (Text.trim raw)).length = 2) (hpart : '@' ∉ part)
    (hblank : ¬Text.AllBlank part) :
    ForeignEntry.ofPiece (Text.trim (raw ++ '@' :: part))
      = .ok { e with group := some (String.ofList (Text.trim part)) } := by
  obtain ⟨source, table, more, hcut, hfew⟩ := exists_isCut_of_ok he
  rw [(Text.split_eq_iff_isCut _ _ _).mpr hcut] at htwo
  obtain rfl : more = [] := List.length_eq_zero_iff.mp (Nat.succ_injective (Nat.succ_injective htwo))
  obtain ⟨source', more', hcut', hsource, hmore⟩ := exists_isCut_append hcut hpart
  -- There are two more parts: the table and the group.
  obtain ⟨table', rest, rfl, htable, hrest⟩ := List.map_eq_cons_iff.mp hmore
  obtain ⟨part', nothing, rfl, hgroup, hnothing⟩ := List.map_eq_cons_iff.mp hrest
  obtain rfl := List.map_eq_nil_iff.mp hnothing
  have hne : Text.trim part ≠ [] := mt (Text.trim_eq_nil_iff part).mp hblank
  rw [ForeignEntry.ofPiece_of_isCut_cons hcut (Nat.zero_le 1)] at he
  rw [ForeignEntry.ofPiece_of_isCut_cons hcut' (Nat.le_refl 1), hsource, htable]
  split at he
  · cases he
  · split at he
    · cases he
    · cases he
      simp [Option.filter, *]

/-- With the group an entry of more parts has too many. -/
theorem exists_error_of_long (he : ForeignEntry.ofPiece (Text.trim raw) = .ok e)
    (hlong : (Text.split (· == '@') (Text.trim raw)).length ≠ 2) (hpart : '@' ∉ part) :
    ∃ r, ForeignEntry.ofPiece (Text.trim (raw ++ '@' :: part)) = .error r := by
  obtain ⟨source, table, more, hcut, -⟩ := exists_isCut_of_ok he
  rw [(Text.split_eq_iff_isCut _ _ _).mpr hcut] at hlong
  obtain ⟨source', more', hcut', -, hmore⟩ := exists_isCut_append hcut hpart
  have hlength := congrArg List.length hmore
  simp only [List.length_map, List.length_append, List.length_cons, List.length_nil] at hlength hlong
  -- There is the table, at least one more part, and the group.
  have hmany : 2 < more'.length := by omega
  rw [ForeignEntry.ofPiece_of_isCut hcut', if_pos hmany]
  exact ⟨_, rfl⟩

end

/-- The results of the entries of a tag whose entries are all accepted. -/
theorem Ungrouped.exists_ok (h : Ungrouped tag) {raw : List Char} (hraw : raw ∈ rawEntries tag) :
    ∃ e, ForeignEntry.ofPiece (Text.trim raw) = .ok e := by
  have hall := (rejected_ofResults_eq_nil_iff _).mp h.accepted
  rw [pieces_eq_map_rawEntries, List.map_map] at hall
  exact hall _ (List.mem_map_of_mem hraw)

/-- A tag of entries of two parts is read with a group as it is without, but for the group. -/
theorem readForeignTag_addGroup (htag : Ungrouped tag) (htwo : TwoParts tag)
    (hgroup : IsPart Text.trim group) :
    readForeignTag (addGroup group tag)
      = { entries := (readForeignTag tag).entries.map ({ · with group := some group })
          rejected := [] } := by
  have hresult : ∀ raw ∈ rawEntries tag, ∃ e, ForeignEntry.ofPiece (Text.trim raw) = .ok e ∧
      ForeignEntry.ofPiece (Text.trim (raw ++ '@' :: group.toList))
        = .ok { e with group := some group } := by
    intro raw hraw
    obtain ⟨e, he⟩ := htag.exists_ok hraw
    have hlength := htwo (Text.trim raw) (by
      rw [pieces_eq_map_rawEntries]
      exact List.mem_map_of_mem hraw)
    have hjoined := ofPiece_append_of_two he hlength hgroup.not_mem_at hgroup.not_allBlank
    rw [hgroup.clean_eq, String.ofList_toList] at hjoined
    exact ⟨e, he, hjoined⟩
  unfold readForeignTag
  rw [pieces_addGroup hgroup.not_mem_semicolon, pieces_eq_map_rawEntries, List.map_map, List.map_map]
  generalize rawEntries tag = raws at hresult
  induction raws with
  | nil => rfl
  | cons raw raws ih =>
    obtain ⟨⟨e, he, hjoined⟩, hrest⟩ := List.forall_mem_cons.mp hresult
    have htail := ih hrest
    unfold Parsed.ofResults at htail ⊢
    rw [List.map_cons, List.map_cons, List.foldr_cons, List.foldr_cons, htail, Function.comp_apply,
      Function.comp_apply, he, hjoined]
    rfl

/-- With a group there are not more entries than without, and there are fewer if one of them has
more than two parts. -/
theorem length_entries_addGroup (htag : Ungrouped tag) (hgroup : IsPart Text.trim group) :
    (readForeignTag (addGroup group tag)).entries.length ≤ (readForeignTag tag).entries.length ∧
      (¬TwoParts tag →
        (readForeignTag (addGroup group tag)).entries.length
          < (readForeignTag tag).entries.length) := by
  -- Both tags have as many pieces, and every piece is an entry or a rejection.
  have hbefore := length_ofResults ((pieces Text.trim tag).map ForeignEntry.ofPiece)
  have hafter := length_ofResults
    ((pieces Text.trim (addGroup group tag)).map ForeignEntry.ofPiece)
  change (readForeignTag tag).entries.length + (readForeignTag tag).rejected.length = _ at hbefore
  change (readForeignTag (addGroup group tag)).entries.length
    + (readForeignTag (addGroup group tag)).rejected.length = _ at hafter
  rw [htag.accepted, pieces_eq_map_rawEntries] at hbefore
  rw [pieces_addGroup hgroup.not_mem_semicolon] at hafter
  simp only [List.length_map, List.length_nil, Nat.add_zero] at hbefore hafter
  refine ⟨by omega, ?_⟩
  intro hlong
  -- An entry of more parts is rejected.
  have hrejected : (readForeignTag (addGroup group tag)).rejected ≠ [] := by
    unfold TwoParts at hlong
    push Not at hlong
    obtain ⟨piece, hpiece, hlength⟩ := hlong
    rw [pieces_eq_map_rawEntries] at hpiece
    obtain ⟨raw, hraw, rfl⟩ := List.mem_map.mp hpiece
    obtain ⟨e, he⟩ := htag.exists_ok hraw
    obtain ⟨r, hr⟩ := exists_error_of_long he hlength hgroup.not_mem_at
    intro hnil
    unfold readForeignTag at hnil
    rw [rejected_ofResults_eq_nil_iff, pieces_addGroup hgroup.not_mem_semicolon, List.map_map] at hnil
    obtain ⟨e', he'⟩ := hnil _ (List.mem_map_of_mem hraw)
    rw [Function.comp_apply, hr] at he'
    cases he'
  have hpos := List.length_pos_iff.mpr hrejected
  omega

end RecordSql.Tag

namespace RecordSql.Record.Tags

/-- The tags with references whose foreign key is named once, for all of them. -/
def nameOnce (tags : Tags) (text group : String) : Tags :=
  { tags with foreign := some text, foreignGroup := some group }

/-- The tags with references that name their foreign key one by one. -/
def nameEach (tags : Tags) (text group : String) : Tags :=
  { tags with foreign := some (Tag.addGroup group text), foreignGroup := none }

end RecordSql.Record.Tags

namespace RecordSql.Table

open RecordSql.Record (Tree NodeId Tags)

/-! ### The leaf with the references -/

section

variable {t : Tree} {id : NodeId} {l : Leaf}

/-- A leaf of the tree with other tags has them already, if it is the one. -/
theorem Leaf.retag_of_mem {tags : Option Tags} (h : l ∈ leavesOf (t.retag id tags)) :
    l.retag id tags = l := by
  by_cases hid : l.id = id
  · have hnode := (read_of_mem_leavesOf h).node
    rw [Tree.get?_retag, Option.map_eq_some_iff] at hnode
    obtain ⟨n, -, hn⟩ := hnode
    rw [if_pos hid] at hn
    rw [Leaf.retag, if_pos hid, ← hn]
    rcases l with ⟨i, m, c⟩
    cases hn
    rfl
  · exact Leaf.retag_of_ne hid tags

end

section

variable {l : Leaf} {id : NodeId} {text group : String}

/-- The leaf has the tags that it gets. -/
theorem Leaf.tags_retag (h : l.id = id) (tags : Tags) : (l.retag id (some tags)).tags = tags := by
  rw [Leaf.retag, if_pos h]
  rfl

/-- In the first way its foreign tag has the entries as they are. -/
theorem Leaf.foreignTag_nameOnce (h : l.id = id) (tags : Tags) :
    (l.retag id (some (tags.nameOnce text group))).foreignTag = Tag.readForeignTag text := by
  rw [Leaf.foreignTag, Leaf.tags_retag h, Tags.nameOnce, Option.map_some, Option.getD_some]

/-- In the second way they have the group. -/
theorem Leaf.foreignTag_nameEach (h : l.id = id) (tags : Tags) :
    (l.retag id (some (tags.nameEach text group))).foreignTag
      = Tag.readForeignTag (Tag.addGroup group text) := by
  rw [Leaf.foreignTag, Leaf.tags_retag h, Tags.nameEach, Option.map_some, Option.getD_some]

/-- Its column is the same in both ways. -/
theorem Leaf.field_nameEach (h : l.id = id) (tags : Tags) :
    (l.retag id (some (tags.nameEach text group))).field
      = (l.retag id (some (tags.nameOnce text group))).field := by
  rw [Leaf.retag, Leaf.retag, if_pos h, if_pos h]
  rfl

/-- A reference that names no foreign key has in the first way what it has in the second if it
names the group. -/
theorem Leaf.foreignItem_nameEach (h : l.id = id) (tags : Tags)
    (hgroup : Tag.IsPart Text.trim group) (tableName : String) {e : Tag.ForeignEntry}
    (he : e.group = none) :
    (l.retag id (some (tags.nameEach text group))).foreignItem tableName
        { e with group := some group }
      = (l.retag id (some (tags.nameOnce text group))).foreignItem tableName e := by
  have htrim : Text.trimmed group = group := by
    rw [Text.trimmed, hgroup.clean_eq, String.ofList_toList]
  have hname : (l.retag id (some (tags.nameOnce text group))).foreignName tableName e = group := by
    refine (names_foreignName _ tableName e).ofTag group he ?_ ?_
    · rw [Leaf.tags_retag h, Tags.nameOnce]
    · rw [htrim]
      exact hgroup.ne_empty
  unfold Leaf.foreignItem
  rw [hname, Leaf.tags_retag h, Leaf.tags_retag h, Leaf.field_nameEach h]
  rfl

/-- If its entries have two parts, the leaf makes the same of its column in both ways. -/
theorem Leaf.sameColumn_nameEach (l : Leaf) (id : NodeId) (tags : Tags)
    (htext : Tag.Ungrouped text) (htwo : Tag.TwoParts text)
    (hgroup : Tag.IsPart Text.trim group) :
    (l.retag id (some (tags.nameOnce text group))).SameColumn
      (l.retag id (some (tags.nameEach text group))) := by
  by_cases h : l.id = id
  · have hread := Tag.readForeignTag_addGroup htext htwo hgroup
    have hindexes : (l.retag id (some (tags.nameEach text group))).indexItems
        = (l.retag id (some (tags.nameOnce text group))).indexItems := by
      rw [Leaf.retag, Leaf.retag, if_pos h, if_pos h]
      rfl
    refine ⟨Leaf.field_nameEach h tags, hindexes, ?_, ?_⟩
    · intro tableName
      unfold Leaf.foreignItems
      rw [Leaf.foreignTag_nameEach h, Leaf.foreignTag_nameOnce h, hread, List.map_map]
      refine List.map_congr_left fun e he => ?_
      exact Leaf.foreignItem_nameEach h tags hgroup tableName (htext.group e he)
    · unfold Leaf.issues
      rw [Leaf.foreignTag_nameEach h, Leaf.foreignTag_nameOnce h, hread, htext.accepted]
      rw [Leaf.retag, Leaf.retag, if_pos h, if_pos h]
      rfl
  · rw [Leaf.retag_of_ne h, Leaf.retag_of_ne h]
    exact ⟨rfl, rfl, fun _ => rfl, rfl⟩

end

/-! ### The record -/

section

variable (t : Tree) (id : NodeId) (tags : Tags) (text group : String)

/-- From the first way to the second only the leaf itself changes. -/
theorem leavesOf_nameEach :
    leavesOf (t.retag id (some (tags.nameEach text group)))
      = (leavesOf (t.retag id (some (tags.nameOnce text group)))).map
          (·.retag id (some (tags.nameEach text group))) := by
  have hnode : ∀ n, (t.retag id (some (tags.nameOnce text group))).get? id = some n →
      n.tags = some (tags.nameOnce text group) := by
    intro n hn
    rw [Tree.get?_retag, Option.map_eq_some_iff] at hn
    obtain ⟨m, -, rfl⟩ := hn
    rw [if_pos rfl]
    rfl
  -- Skipping and the segment are the same in both ways, so the second one can follow the first.
  rw [← Tree.retag_retag t id (some (tags.nameOnce text group))]
  refine leavesOf_retag ?_ ?_
  · intro n hn
    unfold Record.Node.segment
    rw [hnode n hn]
    rfl
  · intro n hn
    unfold Record.Node.isSkipped
    rw [hnode n hn]
    rfl

/-- The entries of the foreign tags that count. -/
def foreignEntries (t : Tree) : List Tag.ForeignEntry :=
  (firstOfColumn (leavesOf t)).flatMap (·.foreignTag.entries)

/-- A table has as many pairs in its foreign keys as there are entries. -/
theorem length_foreignEntries (t : Tree) :
    (foreignEntries t).length
      = ((load t).table.foreignKeys.flatMap fun k => k.pairs.map fun p => (k.name, p)).length := by
  rw [foreignKeys_load, (flatMap_groupedBy_perm name_foreignKeyOf pairs_foreignKeyOf _).length_eq,
    List.length_map, foreignStream, foreignEntries, List.length_flatMap, List.length_flatMap]
  simp only [Leaf.foreignItems, List.length_map]

variable {t id tags text group}

/-- There are fewer of them in the second way, if those of the leaf count and one of them has more
than two parts. -/
theorem length_foreignEntries_nameEach (htext : Tag.Ungrouped text)
    (hgroup : Tag.IsPart Text.trim group) (hlong : ¬Tag.TwoParts text)
    (hid : id ∈ (firstOfColumn (leavesOf (t.retag id (some (tags.nameOnce text group))))).map
      (·.id)) :
    (foreignEntries (t.retag id (some (tags.nameEach text group)))).length
      < (foreignEntries (t.retag id (some (tags.nameOnce text group)))).length := by
  have hlength := Tag.length_entries_addGroup htext hgroup
  have hsame : ∀ l ∈ firstOfColumn (leavesOf (t.retag id (some (tags.nameOnce text group)))),
      l.id = id → l.foreignTag = Tag.readForeignTag text := by
    intro l hl h
    rw [← Leaf.retag_of_mem (mem_of_mem_firstOfColumn hl)]
    exact Leaf.foreignTag_nameOnce h tags
  rw [foreignEntries, foreignEntries, leavesOf_nameEach,
    firstOfColumn_map fun l => l.column_retag _ _, List.flatMap_map, List.length_flatMap,
    List.length_flatMap]
  -- Leaf by leaf there are not more, and at the one there are fewer.
  refine List.sum_lt_sum _ _ ?_ ?_
  · intro l hl
    by_cases h : l.id = id
    · rw [Leaf.foreignTag_nameEach h, hsame l hl h]
      exact hlength.1
    · rw [Leaf.retag_of_ne h]
  · obtain ⟨l, hl, h⟩ := List.mem_map.mp hid
    refine ⟨l, hl, ?_⟩
    rw [Leaf.foreignTag_nameEach h, hsame l hl h]
    exact hlength.2 hlong

/-- The table and its issues are the same in both ways, if the entries have two parts or nobody
looks at them. -/
theorem load_nameEach (htext : Tag.Ungrouped text) (hgroup : Tag.IsPart Text.trim group)
    (h : Tag.TwoParts text ∨
      id ∉ (firstOfColumn (leavesOf (t.retag id (some (tags.nameOnce text group))))).map (·.id)) :
    load (t.retag id (some (tags.nameEach text group)))
      = load (t.retag id (some (tags.nameOnce text group))) := by
  refine load_map ?_ (leavesOf_nameEach t id tags text group) (fun l => l.column_retag _ _)
    (fun l => l.name_retag _ _) ?_ ?_
  · rw [(Tree.root_retag t id _).1, (Tree.root_retag t id _).1]
  · intro l hl
    by_cases hid : l.id = id
    · have htags : l.tags = tags.nameOnce text group := by
        rw [← Leaf.retag_of_mem hl, Leaf.tags_retag hid]
      rw [Leaf.tableName?, Leaf.tableName?, Leaf.tags_retag hid, htags]
      rfl
    · rw [Leaf.retag_of_ne hid]
  · intro l hl
    by_cases hid : l.id = id
    · have htwo := h.resolve_right (not_not_intro (List.mem_map.mpr ⟨l, hl, hid⟩))
      have hsame := l.sameColumn_nameEach id tags htext htwo hgroup
      rw [Leaf.retag_of_mem (mem_of_mem_firstOfColumn hl)] at hsame
      exact hsame
    · rw [Leaf.retag_of_ne hid]
      exact ⟨rfl, rfl, fun _ => rfl, rfl⟩

end

/-- Two ways to name the foreign key of the references of a field, in any record and whatever the
other tags are. The tag has no entry that is rejected or names a foreign key, and the group is a
text that an entry can have as a part.

The table is the same in both ways exactly if all entries of the tag have two parts, or the field is
not the first leaf of a column, so that its references are not looked at. Then the issues are the
same as well. -/
theorem load_foreignGroup (t : Tree) (id : NodeId) (tags : Tags) {text group : String}
    (htext : Tag.Ungrouped text) (hgroup : Tag.IsPart Text.trim group) :
    let once := t.retag id (some (tags.nameOnce text group))
    let each := t.retag id (some (tags.nameEach text group))
    let same := Tag.TwoParts text ∨ id ∉ (firstOfColumn (leavesOf once)).map (·.id)
    ((load each).table = (load once).table ↔ same) ∧ (same → load each = load once) := by
  intro once each same
  have hload : same → load each = load once := load_nameEach htext hgroup
  refine ⟨⟨?_, fun h => congrArg Loaded.table (hload h)⟩, hload⟩
  intro htable
  by_contra hsame
  obtain ⟨hlong, hid⟩ := not_or.mp hsame
  have hless := length_foreignEntries_nameEach htext hgroup hlong (not_not.mp hid)
  -- Equal tables have equally many pairs of columns in their foreign keys.
  rw [length_foreignEntries, length_foreignEntries, htable] at hless
  exact Nat.lt_irrefl _ hless

/-- A record with two fields that refer to other tables. The second one names its foreign key. -/
def post : Tree :=
  ((Tree.new "Post" "Post").push 0
    { name := "Author", kind := .int64, typeName := "int64" }).push 0
    { name := "Editor", kind := .int64, typeName := "int64"
      tags := some { foreign := some "ID@users@author" } }

/-- Both fields can have one foreign key in common. -/
theorem load_foreignGroup_author :
    Tag.Ungrouped "ID@users; Org@orgs" ∧ Tag.TwoParts "ID@users; Org@orgs" ∧
      Tag.IsPart Text.trim "author" ∧
      load (post.retag 1 (some (Tags.nameEach {} "ID@users; Org@orgs" "author")))
        = load (post.retag 1 (some (Tags.nameOnce {} "ID@users; Org@orgs" "author"))) := by
  have htext : Tag.Ungrouped "ID@users; Org@orgs" := by decide +kernel
  have htwo : Tag.TwoParts "ID@users; Org@orgs" := by decide +kernel
  have hgroup : Tag.IsPart Text.trim "author" := by decide +kernel
  exact ⟨htext, htwo, hgroup, (load_foreignGroup post 1 {} htext hgroup).2 (Or.inl htwo)⟩

/-- There are entries and groups that are not blank for which the tables differ: a blank third part
leaves no room, and the reader of the tag drops white space around the group. -/
theorem nameEach_ne_nameOnce :
    (Tag.Ungrouped "ID@users@" ∧ Tag.IsPart Text.trim "author" ∧
      (load (post.retag 1 (some (Tags.nameEach {} "ID@users@" "author")))).table
        ≠ (load (post.retag 1 (some (Tags.nameOnce {} "ID@users@" "author")))).table) ∧
    (Tag.Ungrouped "ID@users" ∧ Text.trimmed " author " ≠ "" ∧ ';' ∉ " author ".toList ∧
      '@' ∉ " author ".toList ∧
      (load (post.retag 1 (some (Tags.nameEach {} "ID@users" " author ")))).table
        ≠ (load (post.retag 1 (some (Tags.nameOnce {} "ID@users" " author ")))).table) := by
  have hblank : (load (post.retag 1 (some (Tags.nameEach {} "ID@users@" "author")))).table
      ≠ (load (post.retag 1 (some (Tags.nameOnce {} "ID@users@" "author")))).table :=
    ne_of_apply_ne (·.foreignKeys.map (·.toColumns.length)) (by decide +kernel)
  have hpadded : (load (post.retag 1 (some (Tags.nameEach {} "ID@users" " author ")))).table
      ≠ (load (post.retag 1 (some (Tags.nameOnce {} "ID@users" " author ")))).table :=
    ne_of_apply_ne (·.foreignKeys.map (·.toColumns.length)) (by decide +kernel)
  exact ⟨⟨by decide +kernel, by decide +kernel, hblank⟩, by decide +kernel, by decide +kernel,
    by decide +kernel, by decide +kernel, hpadded⟩

end RecordSql.Table
