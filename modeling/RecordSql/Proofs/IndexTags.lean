import Mathlib.Data.List.Forall2
import RecordSql.Proofs.Tags

/-!
# `RecordSql.Proofs.IndexTags`: the language of index tags

An index tag is read without white space. Each of its pieces between semicolons is an entry of up to
three parts, or it is rejected for one reason:

```text
by_bio                     equality
by_bio@=@true              equality, and the third part does not matter for it
by_bio@LIKE                in any casing
by_tags@CONTAINS@TRUE      a function that takes the value first
@LIKE                      rejected, the name is empty
@b@c@d                     rejected, four parts, also where the name is empty
```

`IndexEntry.Becomes` are these rules, with the parts of the piece in place of the reader's cuts, and
`IndexEntry.ofPiece_eq_iff` says that the reader follows them. What it accepts has no white space
and neither mark (`IndexEntry.printable_of_mem_entries`). `readIndexTag_accepts` is what follows for
whole tags.
-/

set_option autoImplicit false

namespace RecordSql

/-! ### Words in any casing -/

namespace Text

/-- The word is spelled with these letters, each of them small or capital. -/
def IsCasing (word letters : List Char) : Prop :=
  List.Forall₂ (fun c letter => c = letter ∨ c = letter.toUpper) word letters

instance (word letters : List Char) : Decidable (IsCasing word letters) :=
  inferInstanceAs (Decidable (List.Forall₂ _ word letters))

/-- Whether the character is a small ASCII letter. -/
def isSmallAscii (c : Char) : Bool :=
  97 ≤ c.toNat && c.toNat ≤ 122

theorem toNat_toLower (c : Char) :
    c.toLower.toNat = if 65 ≤ c.toNat ∧ c.toNat ≤ 90 then c.toNat + 32 else c.toNat := by
  have hfirst : 'A'.val.toNat = 65 := rfl
  have hlast : 'Z'.val.toNat = 90 := rfl
  have hshift : (32 : UInt32).toNat = 32 := rfl
  unfold Char.toLower
  simp only [ge_iff_le, UInt32.le_iff_toNat_le, hfirst, hlast, Char.toNat]
  split
  · show (c.val + 32).toNat = c.val.toNat + 32
    rw [UInt32.toNat_add]
    omega
  · rfl

theorem toNat_toUpper (c : Char) :
    c.toUpper.toNat = if 97 ≤ c.toNat ∧ c.toNat ≤ 122 then c.toNat - 32 else c.toNat := by
  have hfirst : 'a'.val.toNat = 97 := rfl
  have hlast : 'z'.val.toNat = 122 := rfl
  have hshift : (4294967264 : UInt32).toNat = 4294967264 := rfl
  unfold Char.toUpper
  -- In 32 bits, 32 is taken away by adding `2 ^ 32 - 32`.
  simp only [UInt32.le_iff_toNat_le, hfirst, hlast, Char.toNat]
  split
  · show (c.val + 4294967264).toNat = c.val.toNat - 32
    rw [UInt32.toNat_add]
    omega
  · rfl

/-- The characters that have a given small letter as their lowercase form are the letter and its
capital. -/
theorem toLower_eq_iff {c letter : Char} (h : isSmallAscii letter = true) :
    c.toLower = letter ↔ c = letter ∨ c = letter.toUpper := by
  have hrange : 97 ≤ letter.toNat ∧ letter.toNat ≤ 122 := by simpa [isSmallAscii] using h
  simp only [← Char.toNat_inj, toNat_toLower, toNat_toUpper, if_pos hrange]
  split <;> omega

/-- Words that are the same but for the case of ASCII letters are the casings of a word in small
letters. -/
theorem sameIgnoringAsciiCase_iff {letters : List Char} (h : letters.all isSmallAscii = true)
    (word : List Char) : sameIgnoringAsciiCase word letters = true ↔ IsCasing word letters := by
  rw [List.all_eq_true] at h
  have hsmall : asciiLower letters = letters :=
    (List.map_congr_left fun letter hmem => (toLower_eq_iff (h letter hmem)).mpr (Or.inl rfl)).trans
      (List.map_id letters)
  rw [sameIgnoringAsciiCase, hsmall, beq_iff_eq, IsCasing, asciiLower]
  clear hsmall
  induction letters generalizing word with
  | nil => rw [List.map_eq_nil_iff, List.forall₂_nil_right_iff]
  | cons letter letters ih =>
    obtain ⟨hletter, hletters⟩ := List.forall_mem_cons.mp h
    cases word with
    | nil => simp
    | cons c word =>
      rw [List.map_cons, List.cons.injEq, List.forall₂_cons]
      exact and_congr (toLower_eq_iff hletter) (ih hletters word)

end Text

namespace Tag

/-! ### Operators -/

/-- How an operator is spelled in the second part of an entry, where there is one. -/
inductive Operator.IsSpelled : Option (List Char) → Operator → Prop
  | missing : IsSpelled none .equal
  | empty : IsSpelled (some []) .equal
  | sign : IsSpelled (some ['=']) .equal
  | like {word : List Char} (h : Text.IsCasing word ['l', 'i', 'k', 'e']) :
    IsSpelled (some word) .like
  | call {word : List Char} (hne : word ≠ []) (hsign : word ≠ ['='])
      (hlike : ¬Text.IsCasing word ['l', 'i', 'k', 'e']) :
    IsSpelled (some word) (.call (String.ofList word))

/-- A part denotes the operator that it spells. -/
theorem Operator.ofWord_eq_iff (part : Option (List Char)) (operator : Operator) :
    Operator.ofWord (part.getD []) = operator ↔ operator.IsSpelled part := by
  have hlike : ∀ word, Text.sameIgnoringAsciiCase word ['l', 'i', 'k', 'e'] = true ↔
      Text.IsCasing word ['l', 'i', 'k', 'e'] := Text.sameIgnoringAsciiCase_iff rfl
  constructor
  · rintro rfl
    cases part with
    | none => exact .missing
    | some word =>
      rw [Option.getD_some]
      unfold ofWord
      split
      · rename_i h
        simp only [Bool.or_eq_true, decide_eq_true_eq] at h
        rcases h with rfl | rfl
        · exact .empty
        · exact .sign
      · rename_i h
        simp only [Bool.or_eq_true, decide_eq_true_eq, not_or] at h
        split
        · rename_i hsame
          exact .like ((hlike word).mp hsame)
        · rename_i hsame
          exact .call h.1 h.2 (mt (hlike word).mpr hsame)
  · intro h
    cases h with
    | missing => rfl
    | empty => rfl
    | sign => rfl
    | @like word h =>
      have hne : ¬((word = [] || word = ['=']) = true) := by
        rintro hempty
        simp only [Bool.or_eq_true, decide_eq_true_eq] at hempty
        rcases hempty with rfl | rfl
        · cases h
        · cases h with
          | cons _ hrest => cases hrest
      rw [Option.getD_some, ofWord, if_neg hne, if_pos ((hlike word).mpr h)]
    | @call word hne hsign hnot =>
      rw [Option.getD_some, ofWord, if_neg (by simp [hne, hsign]), if_neg (mt (hlike word).mp hnot)]

/-! ### Entries -/

/-- What becomes of a piece of an index tag without white space. -/
inductive IndexEntry.Becomes (piece : List Char) : Except Rejection IndexEntry → Prop
  | tooManyParts {parts : List (List Char)} (hcut : Text.IsCut '@' piece parts)
      (hmany : 3 < parts.length) :
    Becomes piece (.error (.tooManyParts (String.ofList piece) parts.length))
  | emptyName {more : List (List Char)} (hcut : Text.IsCut '@' piece ([] :: more))
      (hfew : more.length ≤ 2) :
    Becomes piece (.error (.emptyName (String.ofList piece)))
  | entry {name : List Char} {more : List (List Char)} {operator : Operator} {valueFirst : Bool}
      (hcut : Text.IsCut '@' piece (name :: more)) (hfew : more.length ≤ 2) (hname : name ≠ [])
      (hoperator : operator.IsSpelled more[0]?)
      (hfirst : valueFirst = true ↔
        ∃ order ∈ more[1]?, Text.IsCasing order ['t', 'r', 'u', 'e']) :
    Becomes piece (.ok { name := String.ofList name, operator, valueFirst })

/-- What the reader makes of the parts of a piece. -/
theorem IndexEntry.ofPiece_of_isCut {piece name : List Char} {more : List (List Char)}
    (hcut : Text.IsCut '@' piece (name :: more)) :
    IndexEntry.ofPiece piece =
      if 2 < more.length then .error (.tooManyParts (String.ofList piece) (name :: more).length)
      else if name = [] then .error (.emptyName (String.ofList piece))
      else .ok {
        name := String.ofList name
        operator := .ofWord (more[0]?.getD [])
        valueFirst := more[1]?.any (Text.sameIgnoringAsciiCase · ['t', 'r', 'u', 'e']) } := by
  unfold IndexEntry.ofPiece
  simp only [(Text.split_eq_iff_isCut '@' piece _).mpr hcut, maxParts, List.length_cons,
    List.headD_cons, List.isEmpty_iff, List.getElem?_cons_succ, Nat.succ_lt_succ_iff]

/-- The reader of pieces follows these rules. -/
theorem IndexEntry.ofPiece_eq_iff (piece : List Char) (result : Except Rejection IndexEntry) :
    IndexEntry.ofPiece piece = result ↔ IndexEntry.Becomes piece result := by
  have hword : ∀ word, Text.sameIgnoringAsciiCase word ['t', 'r', 'u', 'e'] = true ↔
      Text.IsCasing word ['t', 'r', 'u', 'e'] := Text.sameIgnoringAsciiCase_iff rfl
  have htrue : ∀ order : Option (List Char),
      order.any (Text.sameIgnoringAsciiCase · ['t', 'r', 'u', 'e']) = true ↔
        ∃ word ∈ order, Text.IsCasing word ['t', 'r', 'u', 'e'] := by
    simp [Option.any_eq_true, hword]
  constructor
  · rintro rfl
    obtain ⟨name, more, hparts⟩ := List.exists_cons_of_ne_nil (Text.split_ne_nil (· == '@') piece)
    have hcut := (Text.split_eq_iff_isCut '@' piece (name :: more)).mp hparts
    rw [ofPiece_of_isCut hcut]
    split
    · rename_i hmany
      exact .tooManyParts hcut (Nat.succ_lt_succ hmany)
    · rename_i hfew
      split
      · rename_i hname
        exact .emptyName (hname ▸ hcut) (Nat.le_of_not_lt hfew)
      · rename_i hname
        exact .entry hcut (Nat.le_of_not_lt hfew) hname ((Operator.ofWord_eq_iff _ _).mp rfl)
          (htrue _)
  · intro h
    cases h with
    | @tooManyParts parts hcut hmany =>
      obtain ⟨name, more, rfl⟩ := List.exists_cons_of_ne_nil hcut.ne_nil
      rw [ofPiece_of_isCut hcut, if_pos (Nat.lt_of_succ_lt_succ hmany)]
    | emptyName hcut hfew =>
      rw [ofPiece_of_isCut hcut, if_neg (Nat.not_lt.mpr hfew), if_pos rfl]
    | @entry name more operator valueFirst hcut hfew hname hoperator hfirst =>
      have hvalue : more[1]?.any (Text.sameIgnoringAsciiCase · ['t', 'r', 'u', 'e']) = valueFirst :=
        Bool.eq_iff_iff.mpr ((htrue _).trans hfirst.symm)
      rw [ofPiece_of_isCut hcut, if_neg (Nat.not_lt.mpr hfew), if_neg hname,
        (Operator.ofWord_eq_iff _ _).mpr hoperator, hvalue]

/-! ### Tags -/

/-- White space in a tag makes no difference to its pieces. -/
theorem pieces_removeBlanks (tag : String) :
    pieces Text.removeBlanks tag
      = (Text.split (· == ';') (Text.removeBlanks tag.toList)).filter (!·.isEmpty) := by
  rw [pieces, Text.split_removeBlanks (Text.beq_of_isBlank rfl)]

/-- An entry that can be written in an index tag. -/
structure IndexEntry.Printable (e : IndexEntry) : Prop where
  name : IsPart Text.removeBlanks e.name
  function : ∀ f, e.operator = .call f → IsPart Text.removeBlanks f
  ne_sign : ∀ f, e.operator = .call f → f ≠ "="
  not_like : ∀ f, e.operator = .call f → ¬Text.IsCasing f.toList ['l', 'i', 'k', 'e']

/-- What is read from an index tag can be written. -/
theorem IndexEntry.printable_of_mem_entries {tag : String} {e : IndexEntry}
    (he : e ∈ (readIndexTag tag).entries) : e.Printable := by
  obtain ⟨raw, -, hsemicolon, hok⟩ := exists_of_mem_entries he
  have hpart : ∀ {cs : List Char} {parts : List (List Char)},
      Text.IsCut '@' (Text.removeBlanks raw) parts → cs ∈ parts → cs ≠ [] →
        IsPart Text.removeBlanks (String.ofList cs) := by
    intro cs parts hcut hmem hne
    have hcs : ∀ c ∈ cs, c ∈ Text.removeBlanks raw := fun c hc => (hcut.isInfix hmem).subset hc
    refine (isPart_ofList_iff _ cs).mpr ⟨hne, fun hc => hsemicolon ?_, hcut.not_mem cs hmem, ?_⟩
    · exact (List.mem_filter.mp (hcs _ hc)).1
    · exact (Text.removeBlanks_eq_self_iff cs).mpr fun c hc => by
        simpa using (List.mem_filter.mp (hcs c hc)).2
  cases (IndexEntry.ofPiece_eq_iff _ _).mp hok with
  | @entry name more operator valueFirst hcut hfew hname hoperator hfirst =>
    generalize hword : more[0]? = word at hoperator
    refine ⟨hpart hcut List.mem_cons_self hname, ?_, ?_, ?_⟩
    · rintro f rfl
      cases hoperator with
      | call hne _ _ => exact hpart hcut (List.mem_cons_of_mem _ (List.mem_of_getElem? hword)) hne
    · rintro f rfl heq
      cases hoperator with
      | call _ hsign _ =>
        rw [← String.toList_inj, String.toList_ofList] at heq
        exact hsign heq
    · rintro f rfl
      cases hoperator with
      | call _ _ hlike => rwa [String.toList_ofList]

/-- How an index tag is read. -/
theorem readIndexTag_accepts :
    (∀ tag parsed, readIndexTag tag = parsed ↔
      IsRead Text.removeBlanks IndexEntry.Becomes tag parsed) ∧
    (∀ tag, (readIndexTag tag).entries.length + (readIndexTag tag).rejected.length
      = ((Text.split (· == ';') tag.toList).filter fun piece => !piece.all Text.isBlank).length) ∧
    (∀ tag tag' : String, Text.removeBlanks tag.toList = Text.removeBlanks tag'.toList →
      readIndexTag tag = readIndexTag tag') ∧
    ∀ a b : String,
      (readIndexTag (a ++ ";" ++ b)).entries
          = (readIndexTag a).entries ++ (readIndexTag b).entries ∧
        (readIndexTag (a ++ ";" ++ b)).rejected
          = (readIndexTag a).rejected ++ (readIndexTag b).rejected := by
  refine ⟨fun tag parsed => ofResults_pieces_eq_iff IndexEntry.ofPiece_eq_iff tag parsed,
    fun tag => length_ofResults_pieces Text.removeBlanks_eq_nil_iff tag, ?_,
    fun a b => ofResults_pieces_append Text.removeBlanks IndexEntry.ofPiece a b⟩
  intro tag tag' hsame
  rw [readIndexTag, readIndexTag, pieces_removeBlanks, pieces_removeBlanks, hsame]

/-- A tag with white space in its names and operators, between its marks and in a piece of its own
is read as the tag without it. -/
theorem readIndexTag_accepts_spaced :
    Text.removeBlanks " by_bio @ li\tKE ;\n; @x;a@b@c@d@e; by tags@CONTAINS @tRUE".toList
        = Text.removeBlanks "by_bio@liKE;;@x;a@b@c@d@e;bytags@CONTAINS@tRUE".toList ∧
      readIndexTag " by_bio @ li\tKE ;\n; @x;a@b@c@d@e; by tags@CONTAINS @tRUE"
        = readIndexTag "by_bio@liKE;;@x;a@b@c@d@e;bytags@CONTAINS@tRUE" ∧
      readIndexTag "by_bio@liKE;;@x;a@b@c@d@e;bytags@CONTAINS@tRUE"
        = { entries := [⟨"by_bio", .like, false⟩, ⟨"bytags", .call "CONTAINS", true⟩]
            rejected := [.emptyName "@x", .tooManyParts "a@b@c@d@e" 5] } := by
  obtain ⟨-, -, hblank, -⟩ := readIndexTag_accepts
  have hsame : Text.removeBlanks " by_bio @ li\tKE ;\n; @x;a@b@c@d@e; by tags@CONTAINS @tRUE".toList
      = Text.removeBlanks "by_bio@liKE;;@x;a@b@c@d@e;bytags@CONTAINS@tRUE".toList := by decide
  exact ⟨hsame, hblank _ _ hsame, by decide⟩

end Tag

end RecordSql
