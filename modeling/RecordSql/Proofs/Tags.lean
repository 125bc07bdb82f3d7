import RecordSql.Proofs.Trimming
import RecordSql.Tag.Entry

/-!
# `RecordSql.Proofs.Tags`: what is read from a tag

Both tag languages are read in the same way. A tag is cut at semicolons, each piece is cleaned of
white space, pieces of which nothing is left are passed over, and each of the others is either an
entry or rejected.

`Collected` says this without a reader, for any way to clean a piece and any rule what becomes of
one, and `ofResults_pieces_eq_iff` says that a reader which follows the rule collects just that.
Hence no piece is lost and none counts twice (`length_ofResults_pieces`), and what is read from two
tags with a semicolon between them is what is read from the one and then from the other
(`ofResults_pieces_append`).

An entry has parts, and `IsPart` says what the languages let them be.
-/

set_option autoImplicit false

namespace RecordSql

/-- The pieces are the text cut at a separator: none of them has the separator, and with it between
them they are the text. -/
structure Text.IsCut (c : Char) (cs : List Char) (pieces : List (List Char)) : Prop where
  ne_nil : pieces ≠ []
  eq : cs = [c].intercalate pieces
  not_mem : ∀ piece ∈ pieces, c ∉ piece

/-- There is one way only to cut a text. -/
theorem Text.split_eq_iff_isCut (c : Char) (cs : List Char) (pieces : List (List Char)) :
    split (· == c) cs = pieces ↔ IsCut c cs pieces := by
  rw [split_eq_iff]
  exact ⟨fun ⟨hne, heq, hnot⟩ => ⟨hne, heq, hnot⟩, fun h => ⟨h.ne_nil, h.eq, h.not_mem⟩⟩

/-- A text is cut into its pieces. -/
theorem Text.isCut_split (c : Char) (cs : List Char) : IsCut c cs (split (· == c) cs) :=
  (split_eq_iff_isCut c cs _).mp rfl

/-- A piece stands in the text as it is. -/
theorem Text.IsCut.isInfix {c : Char} {cs : List Char} {pieces : List (List Char)}
    (h : IsCut c cs pieces) {piece : List Char} (hmem : piece ∈ pieces) : piece <:+: cs := by
  rw [h.eq]
  clear h
  induction pieces with
  | nil => cases hmem
  | cons first pieces ih =>
    cases pieces with
    | nil =>
      rw [List.intercalate_singleton]
      exact List.mem_singleton.mp hmem ▸ List.infix_rfl
    | cons next rest =>
      rw [List.intercalate_cons_cons, List.append_assoc]
      rcases List.mem_cons.mp hmem with rfl | hmem
      · exact List.infix_append' [] piece _
      · exact (ih hmem).trans ((List.suffix_append _ _).trans (List.suffix_append _ _)).isInfix

namespace Tag

variable {ε : Type} {clean : List Char → List Char}

/-- A part that an entry can have: there is something in it, it has neither of the marks of the
languages, and nothing is cleaned away from it. -/
structure IsPart (clean : List Char → List Char) (part : String) : Prop where
  ne_empty : part ≠ ""
  not_mem_semicolon : ';' ∉ part.toList
  not_mem_at : '@' ∉ part.toList
  clean_eq : clean part.toList = part.toList

/-- There are characters in it. -/
theorem IsPart.toList_ne_nil {part : String} (h : IsPart clean part) : part.toList ≠ [] :=
  mt String.toList_eq_nil_iff.mp h.ne_empty

/-- A part without white space around it is not blank. -/
theorem IsPart.not_allBlank {part : String} (h : IsPart Text.trim part) :
    ¬Text.AllBlank part.toList := by
  rw [← Text.trim_eq_nil_iff, h.clean_eq]
  exact h.toList_ne_nil

instance (clean : List Char → List Char) (part : String) : Decidable (IsPart clean part) :=
  decidable_of_iff
    (part ≠ "" ∧ ';' ∉ part.toList ∧ '@' ∉ part.toList ∧ clean part.toList = part.toList)
    ⟨fun ⟨h₁, h₂, h₃, h₄⟩ => ⟨h₁, h₂, h₃, h₄⟩, fun ⟨h₁, h₂, h₃, h₄⟩ => ⟨h₁, h₂, h₃, h₄⟩⟩

/-- When characters are the part of an entry. -/
theorem isPart_ofList_iff (clean : List Char → List Char) (cs : List Char) :
    IsPart clean (String.ofList cs) ↔ cs ≠ [] ∧ ';' ∉ cs ∧ '@' ∉ cs ∧ clean cs = cs := by
  have hne : String.ofList cs ≠ "" ↔ cs ≠ [] := by
    rw [Ne, ← String.toList_inj, String.toList_ofList]
    rfl
  constructor
  · rintro ⟨hempty, hsemicolon, hat, hclean⟩
    rw [String.toList_ofList] at hsemicolon hat hclean
    exact ⟨hne.mp hempty, hsemicolon, hat, hclean⟩
  · rintro ⟨hempty, hsemicolon, hat, hclean⟩
    rw [← String.toList_ofList (l := cs)] at hsemicolon hat hclean
    exact ⟨hne.mpr hempty, hsemicolon, hat, hclean⟩

/-! ### Results -/

/-- Every result is kept. -/
theorem length_ofResults (results : List (Except Rejection ε)) :
    (Parsed.ofResults results).entries.length + (Parsed.ofResults results).rejected.length
      = results.length := by
  induction results with
  | nil => rfl
  | cons result results ih =>
    unfold Parsed.ofResults at ih ⊢
    rw [List.foldr_cons, List.length_cons, ← ih]
    cases result with
    | ok e => exact Nat.add_right_comm _ _ _
    | error r => rfl

/-- The results that are entries, in their order. -/
theorem entries_ofResults (results : List (Except Rejection ε)) :
    (Parsed.ofResults results).entries = results.filterMap Except.toOption := by
  induction results with
  | nil => rfl
  | cons result results ih =>
    unfold Parsed.ofResults at ih ⊢
    rw [List.foldr_cons]
    cases result with
    | ok e => exact congrArg (e :: ·) ih
    | error r => exact ih

/-! ### Pieces and results -/

/-- What is collected from the pieces of a tag, where `Becomes` says what becomes of a piece that is
clean and not empty. Entries and rejections are each in the order of their pieces. -/
inductive Collected (clean : List Char → List Char)
    (Becomes : List Char → Except Rejection ε → Prop) : List (List Char) → Parsed ε → Prop
  | nil : Collected clean Becomes [] { entries := [], rejected := [] }
  | blank {raw : List Char} {raws : List (List Char)} {parsed : Parsed ε}
      (hblank : clean raw = []) (h : Collected clean Becomes raws parsed) :
    Collected clean Becomes (raw :: raws) parsed
  | entry {raw : List Char} {raws : List (List Char)} {parsed : Parsed ε} {e : ε}
      (hraw : clean raw ≠ []) (he : Becomes (clean raw) (.ok e))
      (h : Collected clean Becomes raws parsed) :
    Collected clean Becomes (raw :: raws) { parsed with entries := e :: parsed.entries }
  | rejection {raw : List Char} {raws : List (List Char)} {parsed : Parsed ε} {r : Rejection}
      (hraw : clean raw ≠ []) (hr : Becomes (clean raw) (.error r))
      (h : Collected clean Becomes raws parsed) :
    Collected clean Becomes (raw :: raws) { parsed with rejected := r :: parsed.rejected }

/-- A tag is read: it is cut at semicolons and the results of its pieces are collected. -/
def IsRead (clean : List Char → List Char) (Becomes : List Char → Except Rejection ε → Prop)
    (tag : String) (parsed : Parsed ε) : Prop :=
  ∃ raws, Text.IsCut ';' tag.toList raws ∧ Collected clean Becomes raws parsed

section

variable {Becomes : List Char → Except Rejection ε → Prop}

variable {ofPiece : List Char → Except Rejection ε}

/-- A reader that makes of each piece what becomes of it collects these results. -/
theorem collected_iff (h : ∀ piece result, ofPiece piece = result ↔ Becomes piece result)
    (raws : List (List Char)) (parsed : Parsed ε) :
    Parsed.ofResults (((raws.map clean).filter (!·.isEmpty)).map ofPiece) = parsed ↔
      Collected clean Becomes raws parsed := by
  constructor
  · rintro rfl
    induction raws with
    | nil => exact .nil
    | cons raw raws ih =>
      -- A blank piece is gone, and any other has its result before those of the pieces after it.
      by_cases hblank : clean raw = []
      · rw [List.map_cons, List.filter_cons_of_neg (by simp [hblank])]
        exact .blank hblank ih
      · rw [List.map_cons, List.filter_cons_of_pos (by simpa using hblank), List.map_cons]
        cases hresult : ofPiece (clean raw) with
        | ok e => exact .entry hblank ((h _ _).mp hresult) ih
        | error r => exact .rejection hblank ((h _ _).mp hresult) ih
  · intro hcollected
    induction hcollected with
    | nil => rfl
    | blank hblank _ ih => rw [List.map_cons, List.filter_cons_of_neg (by simp [hblank]), ih]
    | entry hraw he _ ih =>
      rw [List.map_cons, List.filter_cons_of_pos (by simpa using hraw), List.map_cons,
        (h _ _).mpr he, ← ih]
      rfl
    | rejection hraw hr _ ih =>
      rw [List.map_cons, List.filter_cons_of_pos (by simpa using hraw), List.map_cons,
        (h _ _).mpr hr, ← ih]
      rfl

/-- Such a reader reads a tag as the rule for pieces says. -/
theorem ofResults_pieces_eq_iff
    (h : ∀ piece result, ofPiece piece = result ↔ Becomes piece result) (tag : String)
    (parsed : Parsed ε) :
    Parsed.ofResults ((pieces clean tag).map ofPiece) = parsed ↔
      IsRead clean Becomes tag parsed := by
  unfold pieces
  rw [collected_iff h]
  constructor
  · exact fun hcollected => ⟨_, Text.isCut_split ';' tag.toList, hcollected⟩
  · rintro ⟨raws, hcut, hcollected⟩
    rwa [(Text.split_eq_iff_isCut ';' tag.toList raws).mpr hcut]

end

/-- There is one result for each piece that is not blank, where cleaning leaves nothing of blank
pieces only. -/
theorem length_ofResults_pieces {ofPiece : List Char → Except Rejection ε}
    (hclean : ∀ raw, clean raw = [] ↔ Text.AllBlank raw) (tag : String) :
    (Parsed.ofResults ((pieces clean tag).map ofPiece)).entries.length
        + (Parsed.ofResults ((pieces clean tag).map ofPiece)).rejected.length
      = ((Text.split (· == ';') tag.toList).filter fun raw => !raw.all Text.isBlank).length := by
  rw [length_ofResults, List.length_map, pieces, List.filter_map, List.length_map]
  refine congrArg List.length (List.filter_congr fun raw _ => ?_)
  have hempty : (clean raw).isEmpty = raw.all Text.isBlank := by
    rw [Bool.eq_iff_iff, List.isEmpty_iff, hclean, List.all_eq_true, Text.AllBlank]
  rw [Function.comp_apply, hempty]

/-- An entry is read from a text between two semicolons. -/
theorem exists_of_mem_entries {ofPiece : List Char → Except Rejection ε} {tag : String} {e : ε}
    (h : e ∈ (Parsed.ofResults ((pieces clean tag).map ofPiece)).entries) :
    ∃ raw, raw <:+: tag.toList ∧ ';' ∉ raw ∧ ofPiece (clean raw) = .ok e := by
  rw [entries_ofResults, List.mem_filterMap] at h
  obtain ⟨result, hresult, hok⟩ := h
  obtain ⟨piece, hpiece, rfl⟩ := List.mem_map.mp hresult
  obtain ⟨raw, hraw, rfl⟩ := List.mem_map.mp (List.mem_of_mem_filter hpiece)
  have hcut := Text.isCut_split ';' tag.toList
  refine ⟨raw, hcut.isInfix hraw, hcut.not_mem raw hraw, ?_⟩
  cases hread : ofPiece (clean raw) with
  | ok e' =>
    rw [hread] at hok
    exact congrArg Except.ok (Option.some.inj hok)
  | error r =>
    rw [hread] at hok
    cases hok

/-! ### One tag after the other -/

/-- Results that come one after the other are collected one after the other. -/
theorem ofResults_append (results results' : List (Except Rejection ε)) :
    (Parsed.ofResults (results ++ results')).entries
        = (Parsed.ofResults results).entries ++ (Parsed.ofResults results').entries ∧
      (Parsed.ofResults (results ++ results')).rejected
        = (Parsed.ofResults results).rejected ++ (Parsed.ofResults results').rejected := by
  induction results with
  | nil => exact ⟨rfl, rfl⟩
  | cons result results ih =>
    obtain ⟨hentries, hrejected⟩ := ih
    unfold Parsed.ofResults at hentries hrejected ⊢
    rw [List.cons_append, List.foldr_cons, List.foldr_cons]
    cases result with
    | ok e => exact ⟨congrArg (e :: ·) hentries, hrejected⟩
    | error r => exact ⟨hentries, congrArg (r :: ·) hrejected⟩

/-- The pieces of two tags with a semicolon between them are those of both. -/
theorem pieces_append (clean : List Char → List Char) (a b : String) :
    pieces clean (a ++ ";" ++ b) = pieces clean a ++ pieces clean b := by
  have htext : (a ++ ";" ++ b).toList = a.toList ++ ';' :: b.toList := by simp
  unfold pieces
  rw [htext, Text.split_append a.toList (by rfl), List.map_append, List.filter_append]

/-- What is read from two tags with a semicolon between them is what is read from the one and then
from the other. -/
theorem ofResults_pieces_append (clean : List Char → List Char)
    (ofPiece : List Char → Except Rejection ε) (a b : String) :
    (Parsed.ofResults ((pieces clean (a ++ ";" ++ b)).map ofPiece)).entries
        = (Parsed.ofResults ((pieces clean a).map ofPiece)).entries
          ++ (Parsed.ofResults ((pieces clean b).map ofPiece)).entries ∧
      (Parsed.ofResults ((pieces clean (a ++ ";" ++ b)).map ofPiece)).rejected
        = (Parsed.ofResults ((pieces clean a).map ofPiece)).rejected
          ++ (Parsed.ofResults ((pieces clean b).map ofPiece)).rejected := by
  rw [pieces_append, List.map_append]
  exact ofResults_append _ _

end Tag

end RecordSql
