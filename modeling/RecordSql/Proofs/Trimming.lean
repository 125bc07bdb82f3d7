import Mathlib.Data.List.DropRight
import Mathlib.Data.List.Forall2
import RecordSql.Text.Blank
import RecordSql.Text.Split

/-!
# `RecordSql.Proofs.Trimming`: white space around and inside a text

Trimming takes white space away from the two ends of a text and leaves the text between them as it
stands (`pads_trim`). White space around a text makes no difference to what is left
(`Pads.trim_eq`).

A text can be cut at separators before or after white space is taken away, as no separator is white
space: around the pieces (`Pads.map_trim_split`), or everywhere (`split_removeBlanks`).
-/

set_option autoImplicit false

namespace RecordSql.Text

/-- There is nothing but white space in the text. -/
def AllBlank (cs : List Char) : Prop :=
  ∀ c ∈ cs, isBlank c = true

instance (cs : List Char) : Decidable (AllBlank cs) :=
  decidable_of_iff (cs.all isBlank = true) List.all_eq_true

/-- The one text is the other with white space around it. -/
def Pads (cs padded : List Char) : Prop :=
  ∃ left right, AllBlank left ∧ AllBlank right ∧ padded = left ++ cs ++ right

variable {cs ds : List Char}

/-! ### Trimming -/

/-- The text without white space at its end is the one of the library. -/
theorem trimEnd_eq_rdropWhile (cs : List Char) : trimEnd cs = cs.rdropWhile isBlank :=
  rfl

/-- White space is trimmed at the end of a text only if there is some. -/
theorem trimEnd_concat {c : Char} (hc : isBlank c = false) (cs : List Char) :
    trimEnd (cs ++ [c]) = cs ++ [c] := by
  simp [trimEnd, hc]

/-- White space before a text is taken away. -/
theorem trim_append_left {left : List Char} (h : AllBlank left) (cs : List Char) :
    trim (left ++ cs) = trim cs := by
  rw [trim, trim, List.dropWhile_append, List.dropWhile_eq_nil_iff.mpr h]
  simp

/-- White space after it is. -/
theorem trim_append_right {right : List Char} (h : AllBlank right) (cs : List Char) :
    trim (cs ++ right) = trim cs := by
  have hend : ∀ ds : List Char, trimEnd (ds ++ right) = trimEnd ds := by
    intro ds
    have hreverse : right.reverse.dropWhile isBlank = [] :=
      List.dropWhile_eq_nil_iff.mpr fun c hc => h c (List.mem_reverse.mp hc)
    rw [trimEnd, trimEnd, List.reverse_append, List.dropWhile_append, hreverse]
    simp
  rw [trim, trim, List.dropWhile_append]
  split
  · rename_i hempty
    rw [List.isEmpty_iff.mp hempty, List.dropWhile_eq_nil_iff.mpr h]
  · exact hend _

/-- Trimming takes white space away and nothing else. -/
theorem pads_trim (cs : List Char) : Pads (trim cs) cs := by
  refine ⟨cs.takeWhile isBlank, (cs.dropWhile isBlank).rtakeWhile isBlank, ?_, ?_, ?_⟩
  · exact fun c hc => List.mem_takeWhile_imp hc
  · exact fun c hc => List.mem_rtakeWhile_imp hc
  · rw [trim, trimEnd_eq_rdropWhile, List.append_assoc, List.rdropWhile_append_rtakeWhile,
      List.takeWhile_append_dropWhile]

/-- White space around a text makes no difference to what trimming leaves. -/
theorem Pads.trim_eq (h : Pads cs ds) : trim ds = trim cs := by
  obtain ⟨left, right, hleft, hright, rfl⟩ := h
  rw [trim_append_right hright, trim_append_left hleft]

/-- What is trimmed once is trimmed. -/
theorem trim_trim (cs : List Char) : trim (trim cs) = trim cs :=
  (pads_trim cs).trim_eq.symm

/-- What is left stands in the text as it is. -/
theorem isInfix_trim (cs : List Char) : trim cs <:+: cs := by
  obtain ⟨left, right, -, -, heq⟩ := pads_trim cs
  exact ⟨left, right, heq.symm⟩

/-- Trimming a text adds nothing to it. -/
theorem mem_of_mem_trim {c : Char} (h : c ∈ trim cs) : c ∈ cs :=
  (isInfix_trim cs).subset h

/-- Nothing is left of white space, and something is left of every other text. -/
theorem trim_eq_nil_iff (cs : List Char) : trim cs = [] ↔ AllBlank cs := by
  constructor
  · intro hnil
    obtain ⟨left, right, hleft, hright, heq⟩ := pads_trim cs
    rw [hnil, List.append_nil] at heq
    rw [heq]
    exact List.forall_mem_append.mpr ⟨hleft, hright⟩
  · intro hblank
    have hpads := trim_append_left hblank []
    rwa [List.append_nil] at hpads

/-- A text is trimmed if it neither begins nor ends with white space. -/
theorem trim_eq_self_iff (cs : List Char) :
    trim cs = cs ↔
      (∀ c ∈ cs.head?, isBlank c = false) ∧ ∀ c ∈ cs.getLast?, isBlank c = false := by
  have hboth : trim cs = cs ↔ cs.dropWhile isBlank = cs ∧ cs.rdropWhile isBlank = cs := by
    constructor
    · intro htrim
      -- If either end were taken away, what is left would be shorter than the text.
      have hsuffix : cs.dropWhile isBlank <:+ cs := List.dropWhile_suffix isBlank
      have hlength : cs.length ≤ (cs.dropWhile isBlank).length := by
        conv_lhs => rw [← htrim, trim, trimEnd_eq_rdropWhile]
        exact (List.rdropWhile_prefix isBlank _).length_le
      have hdrop : cs.dropWhile isBlank = cs := hsuffix.eq_of_length_le hlength
      rw [trim, hdrop] at htrim
      exact ⟨hdrop, htrim⟩
    · rintro ⟨hdrop, hend⟩
      rw [trim, hdrop]
      exact hend
  have hfirst : cs.dropWhile isBlank = cs ↔ ∀ c ∈ cs.head?, isBlank c = false := by
    rw [List.dropWhile_eq_self_iff]
    cases cs <;> simp
  have hlast : cs.rdropWhile isBlank = cs ↔ ∀ c ∈ cs.getLast?, isBlank c = false := by
    rw [List.rdropWhile_eq_self_iff]
    rcases List.eq_nil_or_concat cs with rfl | ⟨more, c, rfl⟩ <;> simp
  rw [hboth, hfirst, hlast]

/-- Trimmed texts have a trimmed text around whatever stands between them. -/
theorem trim_append_append (hcs : trim cs = cs) (hds : trim ds = ds) (hne : cs ≠ [])
    (hne' : ds ≠ []) (between : List Char) : trim (cs ++ between ++ ds) = cs ++ between ++ ds := by
  obtain ⟨hfirst, -⟩ := (trim_eq_self_iff cs).mp hcs
  obtain ⟨-, hlast⟩ := (trim_eq_self_iff ds).mp hds
  rw [trim_eq_self_iff, List.append_assoc, List.head?_append_of_ne_nil _ hne, ← List.append_assoc,
    List.getLast?_append_of_ne_nil _ hne']
  exact ⟨hfirst, hlast⟩

/-! ### White space and separators -/

/-- Nothing is left of white space when white space is taken away everywhere. -/
theorem removeBlanks_eq_nil_iff (cs : List Char) : removeBlanks cs = [] ↔ AllBlank cs := by
  rw [removeBlanks, List.filter_eq_nil_iff, AllBlank]
  exact forall₂_congr fun c _ => by simp

/-- A mark that is not white space does not cut white space. -/
theorem beq_of_isBlank {mark : Char} (h : isBlank mark = false) :
    ∀ c, isBlank c = true → (c == mark) = false := by
  intro c hc
  rw [beq_eq_false_iff_ne]
  rintro rfl
  rw [h] at hc
  cases hc

/-- A text without white space stays as it is. -/
theorem removeBlanks_eq_self_iff (cs : List Char) :
    removeBlanks cs = cs ↔ ∀ c ∈ cs, isBlank c = false := by
  rw [removeBlanks, List.filter_eq_self]
  exact forall₂_congr fun c _ => by simp

section

variable {p : Char → Bool}

/-- White space taken away everywhere is taken away from every piece. -/
theorem split_removeBlanks (hp : ∀ c, isBlank c = true → p c = false) (cs : List Char) :
    split p (removeBlanks cs) = (split p cs).map removeBlanks := by
  induction cs with
  | nil => rfl
  | cons c cs ih =>
    by_cases hblank : isBlank c = true
    · have hremove : ∀ ds, removeBlanks (c :: ds) = removeBlanks ds := fun ds =>
        List.filter_cons_of_neg (by simp [hblank])
      rw [hremove, ih, split_cons_of_not (hp c hblank)]
      cases split p cs <;> simp [hremove]
    · have hkeep : ∀ ds, removeBlanks (c :: ds) = c :: removeBlanks ds := fun ds =>
        List.filter_cons_of_pos (by simp [hblank])
      rw [hkeep]
      by_cases hc : p c = true
      · rw [split, if_pos hc, split, if_pos hc, ih]
        rfl
      · have hnot : p c = false := eq_false_of_ne_true hc
        rw [split_cons_of_not hnot, split_cons_of_not hnot, ih]
        cases split p cs <;> simp [hkeep]

/-- Lists that are related item by item are the same list where related items become the same. -/
theorem map_eq_of_forall₂ {α β γ : Type} {R : α → β → Prop} {f : α → γ} {g : β → γ}
    (h : ∀ a b, R a b → f a = g b) {as : List α} {bs : List β} (hR : List.Forall₂ R as bs) :
    as.map f = bs.map g := by
  rw [← List.forall₂_eq_eq_eq, List.forall₂_map_left_iff, List.forall₂_map_right_iff]
  exact hR.imp fun a b => h a b

/-- White space before a text is white space before its first piece. -/
theorem map_trim_split_append_left (hp : ∀ c, isBlank c = true → p c = false) {left : List Char}
    (h : AllBlank left) (cs : List Char) :
    (split p (left ++ cs)).map trim = (split p cs).map trim := by
  induction left with
  | nil => rfl
  | cons c left ih =>
    obtain ⟨hc, hleft⟩ := List.forall_mem_cons.mp h
    have hblank : AllBlank [c] := List.forall_mem_singleton.mpr hc
    have hdrop : ∀ ds, trim (c :: ds) = trim ds := trim_append_left hblank
    rw [List.cons_append, split_cons_of_not (hp c hc), ← ih hleft]
    cases split p (left ++ cs) <;> simp [hdrop]

/-- White space after a text is white space after its last piece. -/
theorem forall₂_split_append_right (hp : ∀ c, isBlank c = true → p c = false) {right : List Char}
    (h : AllBlank right) (cs : List Char) :
    List.Forall₂ (fun piece piece' => piece' = piece ∨ piece' = piece ++ right)
      (split p cs) (split p (cs ++ right)) := by
  -- The white space goes to the last piece, which is the first one if there is no separator, so
  -- each piece may be the one to which it goes.
  induction cs with
  | nil =>
    rw [List.nil_append, split_of_forall_not fun c hc => hp c (h c hc)]
    exact .cons (Or.inr rfl) .nil
  | cons c cs ih =>
    rw [List.cons_append]
    by_cases hc : p c = true
    · rw [split, if_pos hc, split, if_pos hc]
      exact .cons (Or.inl rfl) ih
    · have hnot : p c = false := eq_false_of_ne_true hc
      rw [split_cons_of_not hnot, split_cons_of_not hnot]
      generalize split p cs = pieces at ih ⊢
      generalize split p (cs ++ right) = pieces' at ih ⊢
      cases ih with
      | nil => exact .nil
      | cons hpiece hpieces =>
        refine .cons (hpiece.imp ?_ ?_) hpieces
        · rintro rfl
          rfl
        · rintro rfl
          rfl

/-- White space around a text makes no difference to its pieces when they are trimmed. -/
theorem Pads.map_trim_split (hp : ∀ c, isBlank c = true → p c = false) (h : Pads cs ds) :
    (split p ds).map trim = (split p cs).map trim := by
  obtain ⟨left, right, hleft, hright, rfl⟩ := h
  rw [← map_trim_split_append_left hp hleft cs]
  refine (map_eq_of_forall₂ ?_ (forall₂_split_append_right hp hright (left ++ cs))).symm
  rintro piece piece' (rfl | rfl)
  · rfl
  · exact (trim_append_right hright piece).symm

end

end RecordSql.Text
