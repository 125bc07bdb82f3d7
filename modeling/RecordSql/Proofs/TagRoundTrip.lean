import RecordSql.Proofs.ForeignTags
import RecordSql.Proofs.IndexTags

/-!
# `RecordSql.Proofs.TagRoundTrip`: tags that are read back

Entries that are written as a tag are read from it again, and nothing is rejected. It takes parts
that an entry can have (`IsPart`), and for an index entry also a function that is not another word
for equality or `LIKE`. These are the entries that can be printed, and the readers give no others,
so what is read from any tag can be written and read again (`readTag_printTag`).

Each language brings one thing with it: what it cleans away stays away when parts are joined
(`removeBlanks_intercalate`, `trim_intercalate`). The rest is done once for both
(`ofResults_pieces_print`).
-/

set_option autoImplicit false

namespace RecordSql.Tag

/-! ### Entries written one after the other -/

section

variable {ε : Type} {clean : List Char → List Char} {ofPiece : List Char → Except Rejection ε}

/-- Entries alone are collected as they are. -/
theorem ofResults_map_ok (es : List ε) :
    Parsed.ofResults (es.map Except.ok) = { entries := es, rejected := [] } := by
  induction es with
  | nil => rfl
  | cons e es ih =>
    unfold Parsed.ofResults at ih ⊢
    rw [List.map_cons, List.foldr_cons, ih]
    rfl

/-- Entries are read from the texts that stand for them with semicolons between them, if each of
these texts is clean, is not empty, has no semicolon and is read as its entry. -/
theorem ofResults_pieces_intercalate {print : ε → String} {es : List ε} (hnil : clean [] = [])
    (hsemicolon : ∀ e ∈ es, ';' ∉ (print e).toList)
    (hclean : ∀ e ∈ es, clean (print e).toList = (print e).toList)
    (hne : ∀ e ∈ es, (print e).toList ≠ [])
    (hread : ∀ e ∈ es, ofPiece (print e).toList = .ok e) :
    Parsed.ofResults ((pieces clean (";".intercalate (es.map print))).map ofPiece)
      = { entries := es, rejected := [] } := by
  let texts : List (List Char) := es.map fun e => (print e).toList
  have htag : (";".intercalate (es.map print)).toList = [';'].intercalate texts := by
    rw [String.toList_intercalate, List.map_map]
    rfl
  have hpieces : pieces clean (";".intercalate (es.map print)) = texts := by
    unfold pieces
    rw [htag]
    cases es with
    | nil =>
      -- A tag without entries has a piece too, which is passed over.
      simp [texts, Text.split, hnil]
    | cons e es =>
      have hcleaned : texts.map clean = texts := by
        rw [List.map_map]
        exact List.map_congr_left hclean
      rw [Text.split_intercalate ';' (by simp) (List.forall_mem_map.mpr hsemicolon), hcleaned,
        List.filter_eq_self]
      exact List.forall_mem_map.mpr fun e he => by simpa using hne e he
  rw [hpieces, ← ofResults_map_ok es, List.map_map]
  exact congrArg Parsed.ofResults (List.map_congr_left hread)

/-- Joined parts are cut into these parts again. -/
theorem isCut_intercalate {parts : List String} (hne : parts ≠ [])
    (h : ∀ part ∈ parts, IsPart clean part) :
    Text.IsCut '@' ("@".intercalate parts).toList (parts.map String.toList) where
  ne_nil := mt List.map_eq_nil_iff.mp hne
  eq := String.toList_intercalate
  not_mem := List.forall_mem_map.mpr fun part hpart => (h part hpart).not_mem_at

/-- Joined parts are not nothing. -/
theorem intercalate_ne_nil {parts : List String} (hne : parts ≠ [])
    (h : ∀ part ∈ parts, IsPart clean part) : ("@".intercalate parts).toList ≠ [] := by
  obtain ⟨part, hpart⟩ := List.exists_mem_of_ne_nil parts hne
  intro hnil
  have hin := (isCut_intercalate hne h).isInfix (List.mem_map_of_mem hpart)
  rw [hnil, List.infix_nil] at hin
  exact (h part hpart).toList_ne_nil hin

/-- Entries are read from a tag with their parts, if joined parts are clean and each entry is what
becomes of its parts. -/
theorem ofResults_pieces_print {parts : ε → List String} {es : List ε} (hnil : clean [] = [])
    (hjoin : ∀ words : List String, (∀ word ∈ words, IsPart clean word) →
      clean ("@".intercalate words).toList = ("@".intercalate words).toList)
    (hne : ∀ e ∈ es, parts e ≠ []) (hparts : ∀ e ∈ es, ∀ part ∈ parts e, IsPart clean part)
    (hread : ∀ e ∈ es, ∀ piece, Text.IsCut '@' piece ((parts e).map String.toList) →
      ofPiece piece = .ok e) :
    Parsed.ofResults
        ((pieces clean (";".intercalate (es.map fun e => "@".intercalate (parts e)))).map ofPiece)
      = { entries := es, rejected := [] } := by
  refine ofResults_pieces_intercalate hnil (fun e he => ?_)
    (fun e he => hjoin (parts e) (hparts e he))
    (fun e he => intercalate_ne_nil (hne e he) (hparts e he))
    fun e he => hread e he _ (isCut_intercalate (hne e he) (hparts e he))
  exact Text.not_mem_intercalate (by decide) fun part hpart =>
    (hparts e he part hpart).not_mem_semicolon

end

/-! ### Joined parts -/

/-- Parts without white space have none when they are joined. -/
theorem removeBlanks_intercalate {parts : List String}
    (h : ∀ part ∈ parts, IsPart Text.removeBlanks part) :
    Text.removeBlanks ("@".intercalate parts).toList = ("@".intercalate parts).toList := by
  rw [Text.removeBlanks_eq_self_iff]
  intro c hc
  by_contra hblank
  refine Text.not_mem_intercalate ?_ (fun part hpart hmem => ?_) hc
  · intro hmem
    rw [show c = '@' from List.mem_singleton.mp hmem] at hblank
    exact hblank rfl
  · exact hblank ((Text.removeBlanks_eq_self_iff _).mp (h part hpart).clean_eq c hmem)

/-- Trimmed parts are trimmed when they are joined. -/
theorem trim_intercalate {parts : List String} (h : ∀ part ∈ parts, IsPart Text.trim part) :
    Text.trim ("@".intercalate parts).toList = ("@".intercalate parts).toList := by
  induction parts with
  | nil => rfl
  | cons part parts ih =>
    obtain ⟨hpart, hparts⟩ := List.forall_mem_cons.mp h
    cases parts with
    | nil =>
      rw [String.toList_intercalate, List.map_singleton, List.intercalate_singleton]
      exact hpart.clean_eq
    | cons next rest =>
      have hjoin : ("@".intercalate (part :: next :: rest)).toList
          = part.toList ++ ['@'] ++ ("@".intercalate (next :: rest)).toList := by
        rw [String.toList_intercalate, String.toList_intercalate, List.map_cons, List.map_cons,
          List.intercalate_cons_cons]
        rfl
      rw [hjoin]
      exact Text.trim_append_append hpart.clean_eq (ih hparts) hpart.toList_ne_nil
        (intercalate_ne_nil (List.cons_ne_nil next rest) hparts) ['@']

/-! ### Index tags -/

/-- The word of an operator spells it. -/
theorem IndexEntry.Printable.isSpelled {e : IndexEntry} (h : e.Printable) :
    e.operator.IsSpelled (some e.operator.word.toList) := by
  cases hop : e.operator with
  | equal => exact .sign
  | like => exact .like (by decide)
  | call f =>
    have hsign : f.toList ≠ ['='] := fun heq => h.ne_sign f hop (String.toList_inj.mp heq)
    have hne := (h.function f hop).toList_ne_nil
    have hspelled := Operator.IsSpelled.call hne hsign (h.not_like f hop)
    rwa [String.ofList_toList] at hspelled

/-- The parts of such an entry can stand in a tag. -/
theorem IndexEntry.Printable.isPart {e : IndexEntry} (h : e.Printable) :
    ∀ part ∈ e.parts, IsPart Text.removeBlanks part := by
  have hword : IsPart Text.removeBlanks e.operator.word := by
    cases hop : e.operator with
    | equal => decide
    | like => decide
    | call f => exact h.function f hop
  have horder : IsPart Text.removeBlanks (if e.valueFirst then "true" else "false") := by
    cases e.valueFirst <;> decide
  exact List.forall_mem_cons.mpr
    ⟨h.name, List.forall_mem_cons.mpr ⟨hword, List.forall_mem_singleton.mpr horder⟩⟩

/-- It becomes of its parts. -/
theorem IndexEntry.Printable.becomes {e : IndexEntry} (h : e.Printable) {piece : List Char}
    (hcut : Text.IsCut '@' piece (e.parts.map String.toList)) :
    IndexEntry.Becomes piece (.ok e) := by
  have htrue : e.valueFirst = true ↔
      ∃ order ∈ [e.operator.word.toList, (if e.valueFirst then "true" else "false").toList][1]?,
        Text.IsCasing order ['t', 'r', 'u', 'e'] := by
    rw [List.getElem?_cons_succ, List.getElem?_cons_zero]
    simp only [Option.mem_some_iff, exists_eq_left']
    cases e.valueFirst <;> decide
  have hentry :=
    IndexEntry.Becomes.entry hcut (Nat.le_refl 2) h.name.toList_ne_nil h.isSpelled htrue
  rwa [String.ofList_toList] at hentry

/-! ### Foreign tags -/

/-- An entry that can be written in a foreign tag. -/
def ForeignEntry.Printable (e : ForeignEntry) : Prop :=
  ∀ part ∈ e.parts, IsPart Text.trim part

/-- Such an entry becomes of its parts. -/
theorem ForeignEntry.Printable.becomes {e : ForeignEntry} (h : e.Printable) {piece : List Char}
    (hcut : Text.IsCut '@' piece (e.parts.map String.toList)) :
    ForeignEntry.Becomes piece (.ok e) := by
  obtain ⟨source, table, group⟩ := e
  obtain ⟨hsource, hparts⟩ := List.forall_mem_cons.mp h
  obtain ⟨htable, hgroup⟩ := List.forall_mem_cons.mp hparts
  dsimp only at hsource htable hgroup
  have hnames : ForeignEntry.Names (group.toList.map String.toList)[0]? group := by
    cases group with
    | none => exact .missing
    | some name =>
      have hname : IsPart Text.trim name := hgroup name (List.mem_singleton_self name)
      have hread := ForeignEntry.Names.group hname.not_allBlank
      rwa [hname.clean_eq, String.ofList_toList] at hread
  have hfew : (group.toList.map String.toList).length ≤ 1 := by
    cases group <;> simp
  have hentry :=
    ForeignEntry.Becomes.entry hcut hfew htable.not_allBlank hsource.not_allBlank hnames
  rwa [hsource.clean_eq, htable.clean_eq, String.ofList_toList, String.ofList_toList] at hentry

/-! ### Both languages -/

/-- Entries that can be printed are read again, the readers give no others, and so what is read from
a tag is read from it again when it has been printed. -/
theorem readTag_printTag :
    (∀ es : List IndexEntry, (∀ e ∈ es, e.Printable) →
      readIndexTag (printIndexTag es) = { entries := es, rejected := [] }) ∧
    (∀ tag, ∀ e ∈ (readIndexTag tag).entries, e.Printable) ∧
    (∀ tag, readIndexTag (printIndexTag (readIndexTag tag).entries)
      = { entries := (readIndexTag tag).entries, rejected := [] }) ∧
    (∀ es : List ForeignEntry, (∀ e ∈ es, e.Printable) →
      readForeignTag (printForeignTag es) = { entries := es, rejected := [] }) ∧
    (∀ tag, ∀ e ∈ (readForeignTag tag).entries, e.Printable) ∧
    (∀ tag, readForeignTag (printForeignTag (readForeignTag tag).entries)
      = { entries := (readForeignTag tag).entries, rejected := [] }) := by
  have hindex : ∀ es : List IndexEntry, (∀ e ∈ es, e.Printable) →
      readIndexTag (printIndexTag es) = { entries := es, rejected := [] } := by
    intro es hes
    exact ofResults_pieces_print rfl (fun _ h => removeBlanks_intercalate h)
      (fun _ _ => List.cons_ne_nil _ _) (fun e he => (hes e he).isPart) fun e he piece hcut =>
      (IndexEntry.ofPiece_eq_iff _ _).mpr ((hes e he).becomes hcut)
  have hforeign : ∀ es : List ForeignEntry, (∀ e ∈ es, e.Printable) →
      readForeignTag (printForeignTag es) = { entries := es, rejected := [] } := by
    intro es hes
    exact ofResults_pieces_print rfl (fun _ h => trim_intercalate h)
      (fun _ _ => List.cons_ne_nil _ _) hes fun e he piece hcut =>
      (ForeignEntry.ofPiece_eq_iff _ _).mpr ((hes e he).becomes hcut)
  have hindexEntries : ∀ tag, ∀ e ∈ (readIndexTag tag).entries, e.Printable := fun _ _ he =>
    IndexEntry.printable_of_mem_entries he
  have hforeignEntries : ∀ tag, ∀ e ∈ (readForeignTag tag).entries, e.Printable :=
    fun _ _ he _ hpart => (isPart_of_mem_entries he hpart).1
  exact ⟨hindex, hindexEntries, fun tag => hindex _ (hindexEntries tag), hforeign, hforeignEntries,
    fun tag => hforeign _ (hforeignEntries tag)⟩

/-- Two entries of each language are read from what is printed for them. -/
theorem readTag_printTag_two :
    printIndexTag [⟨"by_bio", .like, false⟩, ⟨"by_tags", .call "CONTAINS", true⟩]
        = "by_bio@LIKE@false;by_tags@CONTAINS@true" ∧
      readIndexTag "by_bio@LIKE@false;by_tags@CONTAINS@true"
        = { entries := [⟨"by_bio", .like, false⟩, ⟨"by_tags", .call "CONTAINS", true⟩]
            rejected := [] } ∧
      printForeignTag [⟨"User ID", "users", none⟩, ⟨"GroupID", "groups", some "g"⟩]
        = "User ID@users;GroupID@groups@g" ∧
      readForeignTag "User ID@users;GroupID@groups@g"
        = { entries := [⟨"User ID", "users", none⟩, ⟨"GroupID", "groups", some "g"⟩]
            rejected := [] } := by
  obtain ⟨hindex, -, -, hforeign, -, -⟩ := readTag_printTag
  have hindexTag : printIndexTag [⟨"by_bio", .like, false⟩, ⟨"by_tags", .call "CONTAINS", true⟩]
      = "by_bio@LIKE@false;by_tags@CONTAINS@true" := by decide
  have hforeignTag : printForeignTag [⟨"User ID", "users", none⟩, ⟨"GroupID", "groups", some "g"⟩]
      = "User ID@users;GroupID@groups@g" := by decide
  have hindexEntries : ∀ e ∈ [(⟨"by_bio", .like, false⟩ : IndexEntry),
      ⟨"by_tags", .call "CONTAINS", true⟩], e.Printable := by
    refine List.forall_mem_cons.mpr ⟨⟨by decide, nofun, nofun, nofun⟩,
      List.forall_mem_singleton.mpr ⟨by decide, ?_, ?_, ?_⟩⟩
    all_goals
      rintro f ⟨⟩
      decide
  have hforeignEntries : ∀ e ∈ [(⟨"User ID", "users", none⟩ : ForeignEntry),
      ⟨"GroupID", "groups", some "g"⟩], e.Printable := by
    unfold ForeignEntry.Printable
    decide
  exact ⟨hindexTag, hindexTag ▸ hindex _ hindexEntries, hforeignTag,
    hforeignTag ▸ hforeign _ hforeignEntries⟩

end RecordSql.Tag
