import RecordSql.Proofs.Tags
import RecordSql.Tag.Printer

/-!
# `RecordSql.Proofs.ForeignTags`: the language of foreign tags

White space counts inside a part of a foreign tag and does not count around it. Each piece between
semicolons is an entry of two or three parts, or it is rejected for one reason:

```text
UserID @ users             a reference to the users
User ID@users@             the same to another column, and the blank part names no key
UserID                     rejected, no table
 @                         rejected, no table, and nothing is said about the column
@users                     rejected, no column
@@a@b                      rejected, four parts
```

`ForeignEntry.Becomes` are these rules, and `ForeignEntry.ofPiece_eq_iff` says that the reader
follows them. The parts of what it accepts are those of the tag without the white space around them
(`isPart_of_mem_entries`). `readForeignTag_accepts` is what follows for whole tags.
-/

set_option autoImplicit false

namespace RecordSql.Tag

/-! ### Entries -/

/-- The foreign key that an entry names with its third part, where there is one. -/
inductive ForeignEntry.Names : Option (List Char) → Option String → Prop
  | missing : Names none none
  | blank {part : List Char} (h : Text.AllBlank part) : Names (some part) none
  | group {part : List Char} (h : ¬Text.AllBlank part) :
    Names (some part) (some (String.ofList (Text.trim part)))

/-- What becomes of a trimmed piece of a foreign tag. -/
inductive ForeignEntry.Becomes (piece : List Char) : Except Rejection ForeignEntry → Prop
  | tooManyParts {parts : List (List Char)} (hcut : Text.IsCut '@' piece parts)
      (hmany : 3 < parts.length) :
    Becomes piece (.error (.tooManyParts (String.ofList piece) parts.length))
  | missingTargetTable {source : List Char} {more : List (List Char)}
      (hcut : Text.IsCut '@' piece (source :: more)) (hfew : more.length ≤ 2)
      (htable : ∀ table ∈ more[0]?, Text.AllBlank table) :
    Becomes piece (.error (.missingTargetTable (String.ofList piece)))
  | emptySourceColumn {source table : List Char} {more : List (List Char)}
      (hcut : Text.IsCut '@' piece (source :: table :: more)) (hfew : more.length ≤ 1)
      (htable : ¬Text.AllBlank table) (hsource : Text.AllBlank source) :
    Becomes piece (.error (.emptySourceColumn (String.ofList piece)))
  | entry {source table : List Char} {more : List (List Char)} {group : Option String}
      (hcut : Text.IsCut '@' piece (source :: table :: more)) (hfew : more.length ≤ 1)
      (htable : ¬Text.AllBlank table) (hsource : ¬Text.AllBlank source)
      (hgroup : ForeignEntry.Names more[0]? group) :
    Becomes piece (.ok {
      sourceColumn := String.ofList (Text.trim source)
      targetTable := String.ofList (Text.trim table)
      group })

/-- A third part names the foreign key that is left of it, if anything is. -/
theorem ForeignEntry.group_eq_iff (part : Option (List Char)) (group : Option String) :
    ((part.map Text.trim).filter (!·.isEmpty)).map String.ofList = group ↔ Names part group := by
  constructor
  · rintro rfl
    cases part with
    | none => exact .missing
    | some part =>
      by_cases hblank : Text.AllBlank part
      · simpa [Option.filter, (Text.trim_eq_nil_iff part).mpr hblank] using Names.blank hblank
      · have hne : Text.trim part ≠ [] := mt (Text.trim_eq_nil_iff part).mp hblank
        simpa [Option.filter, hne] using Names.group hblank
  · intro h
    cases h with
    | missing => rfl
    | blank hblank => simp [Option.filter, (Text.trim_eq_nil_iff _).mpr hblank]
    | @group part hblank =>
      have hne : Text.trim part ≠ [] := mt (Text.trim_eq_nil_iff part).mp hblank
      simp [Option.filter, hne]

/-- What the reader makes of the parts of a piece. -/
theorem ForeignEntry.ofPiece_of_isCut {piece source : List Char} {more : List (List Char)}
    (hcut : Text.IsCut '@' piece (source :: more)) :
    ForeignEntry.ofPiece piece =
      if 2 < more.length then .error (.tooManyParts (String.ofList piece) (source :: more).length)
      else if Text.trim (more[0]?.getD []) = [] then
        .error (.missingTargetTable (String.ofList piece))
      else if Text.trim source = [] then .error (.emptySourceColumn (String.ofList piece))
      else .ok {
        sourceColumn := String.ofList (Text.trim source)
        targetTable := String.ofList (Text.trim (more[0]?.getD []))
        group := ((more[1]?.map Text.trim).filter (!·.isEmpty)).map String.ofList } := by
  have hempty : Text.trim [] = [] := rfl
  have htable : ((more[0]?).map Text.trim).getD [] = Text.trim (more[0]?.getD []) := by
    cases more[0]? <;> rfl
  unfold ForeignEntry.ofPiece
  simp only [(Text.split_eq_iff_isCut '@' piece _).mpr hcut, maxParts, List.map_cons,
    List.length_cons, List.length_map, List.headD_cons, List.isEmpty_iff, List.getElem?_cons_succ,
    List.getElem?_map, htable, Nat.succ_lt_succ_iff]

/-- What it makes of two parts and perhaps a third one. -/
theorem ForeignEntry.ofPiece_of_isCut_cons {piece source table : List Char}
    {more : List (List Char)} (hcut : Text.IsCut '@' piece (source :: table :: more))
    (hfew : more.length ≤ 1) :
    ForeignEntry.ofPiece piece =
      if Text.trim table = [] then .error (.missingTargetTable (String.ofList piece))
      else if Text.trim source = [] then .error (.emptySourceColumn (String.ofList piece))
      else .ok {
        sourceColumn := String.ofList (Text.trim source)
        targetTable := String.ofList (Text.trim table)
        group := ((more[0]?.map Text.trim).filter (!·.isEmpty)).map String.ofList } := by
  have htwo : ¬2 < (table :: more).length := Nat.not_lt.mpr (Nat.succ_le_succ hfew)
  rw [ofPiece_of_isCut hcut, if_neg htwo, List.getElem?_cons_zero, Option.getD_some,
    List.getElem?_cons_succ]

/-- The reader of pieces follows these rules. -/
theorem ForeignEntry.ofPiece_eq_iff (piece : List Char) (result : Except Rejection ForeignEntry) :
    ForeignEntry.ofPiece piece = result ↔ ForeignEntry.Becomes piece result := by
  constructor
  · rintro rfl
    obtain ⟨source, more, hparts⟩ := List.exists_cons_of_ne_nil (Text.split_ne_nil (· == '@') piece)
    have hcut := (Text.split_eq_iff_isCut '@' piece (source :: more)).mp hparts
    rw [ofPiece_of_isCut hcut]
    -- The reader looks at the number of parts first, then at the table and then at the column.
    split
    · rename_i hmany
      exact .tooManyParts hcut (Nat.succ_lt_succ hmany)
    · rename_i hfew
      rw [Nat.not_lt] at hfew
      split
      · rename_i htable
        refine .missingTargetTable hcut hfew fun table hmem => ?_
        rw [Option.mem_def] at hmem
        rwa [hmem, Option.getD_some, Text.trim_eq_nil_iff] at htable
      · rename_i htable
        cases more with
        | nil => exact absurd rfl htable
        | cons table more =>
          rw [List.getElem?_cons_zero, Option.getD_some] at htable ⊢
          rw [Text.trim_eq_nil_iff] at htable
          replace hfew : more.length ≤ 1 := Nat.le_of_succ_le_succ hfew
          split
          · rename_i hsource
            exact .emptySourceColumn hcut hfew htable ((Text.trim_eq_nil_iff source).mp hsource)
          · rename_i hsource
            exact .entry hcut hfew htable (mt (Text.trim_eq_nil_iff source).mpr hsource)
              ((group_eq_iff _ _).mp rfl)
  · intro h
    cases h with
    | @tooManyParts parts hcut hmany =>
      obtain ⟨source, more, rfl⟩ := List.exists_cons_of_ne_nil hcut.ne_nil
      rw [ofPiece_of_isCut hcut, if_pos (Nat.lt_of_succ_lt_succ hmany)]
    | @missingTargetTable source more hcut hfew htable =>
      have hblank : Text.trim (more[0]?.getD []) = [] := by
        cases hmore : more[0]? with
        | none => rfl
        | some table => exact (Text.trim_eq_nil_iff table).mpr (htable table hmore)
      rw [ofPiece_of_isCut hcut, if_neg (Nat.not_lt.mpr hfew), if_pos hblank]
    | @emptySourceColumn source table more hcut hfew htable hsource =>
      rw [ofPiece_of_isCut_cons hcut hfew, if_neg (mt (Text.trim_eq_nil_iff table).mp htable),
        if_pos ((Text.trim_eq_nil_iff source).mpr hsource)]
    | @entry source table more group hcut hfew htable hsource hgroup =>
      rw [ofPiece_of_isCut_cons hcut hfew, if_neg (mt (Text.trim_eq_nil_iff table).mp htable),
        if_neg (mt (Text.trim_eq_nil_iff source).mp hsource), (group_eq_iff _ _).mpr hgroup]

/-- The parts of an entry are trimmed from parts of its piece in which something was left. -/
theorem ForeignEntry.Becomes.exists_of_mem_parts {piece : List Char} {e : ForeignEntry}
    (h : ForeignEntry.Becomes piece (.ok e)) {part : String} (hpart : part ∈ e.parts) :
    ∃ cs, cs <:+: piece ∧ '@' ∉ cs ∧ ¬Text.AllBlank cs ∧ part = String.ofList (Text.trim cs) := by
  cases h with
  | @entry source table more group hcut hfew htable hsource hgroup =>
    rcases List.mem_cons.mp hpart with rfl | hpart
    · have hmem : source ∈ source :: table :: more := List.mem_cons_self
      exact ⟨source, hcut.isInfix hmem, hcut.not_mem source hmem, hsource, rfl⟩
    rcases List.mem_cons.mp hpart with rfl | hpart
    · have hmem : table ∈ source :: table :: more := List.mem_cons_of_mem _ List.mem_cons_self
      exact ⟨table, hcut.isInfix hmem, hcut.not_mem table hmem, htable, rfl⟩
    · dsimp only at hpart
      generalize hthird : more[0]? = third at hgroup
      cases hgroup with
      | missing => cases hpart
      | blank _ => cases hpart
      | @group cs hcs =>
        have hmem : cs ∈ source :: table :: more :=
          List.mem_cons_of_mem _ (List.mem_cons_of_mem _ (List.mem_of_getElem? hthird))
        exact ⟨cs, hcut.isInfix hmem, hcut.not_mem cs hmem, hcs, List.mem_singleton.mp hpart⟩

/-! ### Tags -/

/-- The parts of the entries of a tag stand in it as they are, and each of them can be a part of an
entry. -/
theorem isPart_of_mem_entries {tag : String} {e : ForeignEntry}
    (he : e ∈ (readForeignTag tag).entries) {part : String} (hpart : part ∈ e.parts) :
    IsPart Text.trim part ∧ part.toList <:+: tag.toList := by
  obtain ⟨raw, hraw, hsemicolon, hok⟩ := exists_of_mem_entries he
  obtain ⟨cs, hcs, hat, hblank, rfl⟩ :=
    ((ForeignEntry.ofPiece_eq_iff _ _).mp hok).exists_of_mem_parts hpart
  have hin : Text.trim cs <:+: raw :=
    (Text.isInfix_trim cs).trans (hcs.trans (Text.isInfix_trim raw))
  refine ⟨(isPart_ofList_iff _ _).mpr ⟨mt (Text.trim_eq_nil_iff cs).mp hblank,
    fun hmem => hsemicolon (hin.subset hmem), fun hmem => hat (Text.mem_of_mem_trim hmem),
    Text.trim_trim cs⟩, ?_⟩
  rw [String.toList_ofList]
  exact hin.trans hraw

/-- The parts of the pieces of a tag, with all white space. -/
def segments (tag : String) : List (List (List Char)) :=
  (Text.split (· == ';') tag.toList).map (Text.split (· == '@'))

/-- The entry of a piece depends on what is left of its parts. -/
theorem ForeignEntry.toOption_ofPiece_congr {piece piece' : List Char}
    (h : (Text.split (· == '@') piece).map Text.trim
      = (Text.split (· == '@') piece').map Text.trim) :
    (ForeignEntry.ofPiece piece).toOption = (ForeignEntry.ofPiece piece').toOption := by
  unfold ForeignEntry.ofPiece
  rw [h]
  dsimp only
  split
  · rfl
  · split
    · rfl
    · split <;> rfl

/-- The entries of a tag are those of the texts between its semicolons. -/
theorem entries_readForeignTag (tag : String) :
    (readForeignTag tag).entries = (Text.split (· == ';') tag.toList).filterMap
      fun raw => (ForeignEntry.ofPiece (Text.trim raw)).toOption := by
  unfold readForeignTag pieces
  rw [entries_ofResults]
  generalize Text.split (· == ';') tag.toList = raws
  induction raws with
  | nil => rfl
  | cons raw raws ih =>
    by_cases hblank : Text.trim raw = []
    · -- There is no entry without a table.
      have hnone : (ForeignEntry.ofPiece (Text.trim raw)).toOption = none := by
        rw [hblank]
        rfl
      rw [List.map_cons, List.filter_cons_of_neg (by simp [hblank]), ih, List.filterMap_cons, hnone]
    · rw [List.map_cons, List.filter_cons_of_pos (by simpa using hblank), List.map_cons,
        List.filterMap_cons, List.filterMap_cons, ih]

/-- White space around the parts makes no difference to the entries. -/
theorem entries_eq_of_pads {tag tag' : String}
    (h : List.Forall₂ (List.Forall₂ Text.Pads) (segments tag) (segments tag')) :
    (readForeignTag tag').entries = (readForeignTag tag).entries := by
  have hat : ∀ c, Text.isBlank c = true → (c == '@') = false := Text.beq_of_isBlank rfl
  have hraws : List.Forall₂
      (fun raw raw' => List.Forall₂ Text.Pads (Text.split (· == '@') raw)
        (Text.split (· == '@') raw'))
      (Text.split (· == ';') tag.toList) (Text.split (· == ';') tag'.toList) := by
    rwa [segments, segments, List.forall₂_map_left_iff, List.forall₂_map_right_iff] at h
  have hentry : ∀ raw raw' : List Char,
      List.Forall₂ Text.Pads (Text.split (· == '@') raw) (Text.split (· == '@') raw') →
      (ForeignEntry.ofPiece (Text.trim raw)).toOption
        = (ForeignEntry.ofPiece (Text.trim raw')).toOption := by
    intro raw raw' hparts
    refine ForeignEntry.toOption_ofPiece_congr ?_
    -- Pieces are trimmed before they are cut, which the trimmed parts do not show.
    calc (Text.split (· == '@') (Text.trim raw)).map Text.trim
        = (Text.split (· == '@') raw).map Text.trim :=
          ((Text.pads_trim raw).map_trim_split hat).symm
      _ = (Text.split (· == '@') raw').map Text.trim :=
          Text.map_eq_of_forall₂ (fun _ _ hpads => hpads.trim_eq.symm) hparts
      _ = (Text.split (· == '@') (Text.trim raw')).map Text.trim :=
          (Text.pads_trim raw').map_trim_split hat
  rw [entries_readForeignTag, entries_readForeignTag]
  generalize Text.split (· == ';') tag.toList = raws at hraws ⊢
  generalize Text.split (· == ';') tag'.toList = raws' at hraws ⊢
  induction hraws with
  | nil => rfl
  | cons hparts _ ih => rw [List.filterMap_cons, List.filterMap_cons, hentry _ _ hparts, ih]

/-- How a foreign tag is read. -/
theorem readForeignTag_accepts :
    (∀ tag parsed, readForeignTag tag = parsed ↔
      IsRead Text.trim ForeignEntry.Becomes tag parsed) ∧
    (∀ tag, (readForeignTag tag).entries.length + (readForeignTag tag).rejected.length
      = ((Text.split (· == ';') tag.toList).filter fun piece => !piece.all Text.isBlank).length) ∧
    (∀ tag, ∀ e ∈ (readForeignTag tag).entries, ∀ part ∈ e.parts,
      IsPart Text.trim part ∧ part.toList <:+: tag.toList) ∧
    (∀ a b : String,
      (readForeignTag (a ++ ";" ++ b)).entries
          = (readForeignTag a).entries ++ (readForeignTag b).entries ∧
        (readForeignTag (a ++ ";" ++ b)).rejected
          = (readForeignTag a).rejected ++ (readForeignTag b).rejected) ∧
    ∀ tag tag', List.Forall₂ (List.Forall₂ Text.Pads) (segments tag) (segments tag') →
      (readForeignTag tag').entries = (readForeignTag tag).entries := by
  exact ⟨fun tag parsed => ofResults_pieces_eq_iff ForeignEntry.ofPiece_eq_iff tag parsed,
    fun tag => length_ofResults_pieces Text.trim_eq_nil_iff tag,
    fun tag e he part hpart => isPart_of_mem_entries he hpart,
    fun a b => ofResults_pieces_append Text.trim ForeignEntry.ofPiece a b,
    fun tag tag' h => entries_eq_of_pads h⟩

/-- White space around the parts of a tag, those that are blank among them, makes no difference to
its entries. White space inside a part is kept. -/
theorem readForeignTag_accepts_padded :
    List.Forall₂ (List.Forall₂ Text.Pads)
        (segments "User ID@users;@a;b@;c@d@") (segments " User ID @users\n;@ a;b@ ;c\t@d@ ") ∧
      (readForeignTag " User ID @users\n;@ a;b@ ;c\t@d@ ").entries
        = (readForeignTag "User ID@users;@a;b@;c@d@").entries ∧
      readForeignTag "User ID@users;@a;b@;c@d@"
        = { entries := [⟨"User ID", "users", none⟩, ⟨"c", "d", none⟩]
            rejected := [.emptySourceColumn "@a", .missingTargetTable "b@"] } := by
  obtain ⟨-, -, -, -, hpads⟩ := readForeignTag_accepts
  have hkept : ∀ cs : List Char, Text.Pads cs cs := fun cs =>
    ⟨[], [], by decide, by decide, (List.append_nil cs).symm⟩
  have hsegments : List.Forall₂ (List.Forall₂ Text.Pads)
      (segments "User ID@users;@a;b@;c@d@") (segments " User ID @users\n;@ a;b@ ;c\t@d@ ") :=
    .cons (.cons ⟨[' '], [' '], by decide, by decide, by decide⟩
        (.cons ⟨[], ['\n'], by decide, by decide, by decide⟩ .nil))
      (.cons (.cons (hkept _) (.cons ⟨[' '], [], by decide, by decide, by decide⟩ .nil))
        (.cons (.cons (hkept _) (.cons ⟨[' '], [], by decide, by decide, by decide⟩ .nil))
          (.cons (.cons ⟨[], ['\t'], by decide, by decide, by decide⟩
            (.cons (hkept _) (.cons ⟨[' '], [], by decide, by decide, by decide⟩ .nil))) .nil)))
  exact ⟨hsegments, hpads _ _ hsegments, by decide⟩

end RecordSql.Tag
