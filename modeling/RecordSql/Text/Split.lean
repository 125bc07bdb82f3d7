/-!
# `RecordSql.Text.Split`: cutting a text at separators

`split p` cuts at every character that satisfies `p` and keeps empty pieces, so a text
with `n` separators has `n + 1` pieces. Where the separator is one character, the pieces are
the only texts without it that give the text back (`split_eq_iff`). Texts that are joined have no
characters but those of the texts and of what stands between them (`not_mem_intercalate`).
-/

set_option autoImplicit false

namespace RecordSql.Text

/-- The pieces of a text between the characters that satisfy `p`. -/
def split (p : Char → Bool) : List Char → List (List Char)
  | [] => [[]]
  | c :: cs =>
    if p c then
      [] :: split p cs
    else
      match split p cs with
      | [] => [[c]]
      | piece :: pieces => (c :: piece) :: pieces

/-- A text always has at least one piece. -/
theorem split_ne_nil (p : Char → Bool) (cs : List Char) : split p cs ≠ [] := by
  cases cs with
  | nil => simp [split]
  | cons c cs =>
    unfold split
    split
    · simp
    · split <;> simp

section

variable {p : Char → Bool}

/-- A text without separators is its only piece. -/
theorem split_of_forall_not {piece : List Char} (h : ∀ d ∈ piece, p d = false) :
    split p piece = [piece] := by
  induction piece with
  | nil => rfl
  | cons d piece ih =>
    rw [split, if_neg (by simp [h d List.mem_cons_self]),
      ih fun e he => h e (List.mem_cons_of_mem d he)]

/-- The piece before the first separator comes first. -/
theorem split_append_cons {piece : List Char} (h : ∀ d ∈ piece, p d = false) {c : Char}
    (hc : p c = true) (cs : List Char) : split p (piece ++ c :: cs) = piece :: split p cs := by
  induction piece with
  | nil => rw [List.nil_append, split, if_pos hc]
  | cons d piece ih =>
    rw [List.cons_append, split, if_neg (by simp [h d List.mem_cons_self]),
      ih fun e he => h e (List.mem_cons_of_mem d he)]

/-- A character that is no separator goes to the first piece. -/
theorem split_cons_of_not {c : Char} (hc : p c = false) (cs : List Char) :
    split p (c :: cs) = (split p cs).modifyHead (c :: ·) := by
  rw [split, if_neg (by simp [hc])]
  cases hs : split p cs with
  | nil => exact absurd hs (split_ne_nil p cs)
  | cons piece pieces => rfl

/-- A separator cuts a text in two. -/
theorem split_append (cs : List Char) {c : Char} (hc : p c = true) (ds : List Char) :
    split p (cs ++ c :: ds) = split p cs ++ split p ds := by
  induction cs with
  | nil =>
    show split p (c :: ds) = [[]] ++ split p ds
    rw [split, if_pos hc]
    rfl
  | cons d cs ih =>
    obtain ⟨piece, pieces, hs⟩ := List.exists_cons_of_ne_nil (split_ne_nil p cs)
    rw [List.cons_append, split, split, ih, hs]
    split <;> rfl

/-- A text goes on without separators after its last one. -/
theorem exists_last_piece (p : Char → Bool) (cs : List Char) :
    ∃ piece, (∀ c ∈ piece, p c = false) ∧
      (cs = piece ∨ ∃ before sep, p sep = true ∧ cs = before ++ sep :: piece) := by
  induction cs with
  | nil => exact ⟨[], by simp, Or.inl rfl⟩
  | cons c cs ih =>
    obtain ⟨piece, hpiece, rfl | ⟨before, sep, hsep, rfl⟩⟩ := ih
    · cases hc : p c with
      | true => exact ⟨cs, hpiece, Or.inr ⟨[], c, hc, rfl⟩⟩
      | false => exact ⟨c :: cs, List.forall_mem_cons.mpr ⟨hc, hpiece⟩, Or.inl rfl⟩
    · exact ⟨piece, hpiece, Or.inr ⟨c :: before, sep, hsep, rfl⟩⟩

/-- The pieces contain characters of the text only, and no separators. -/
theorem mem_and_not_of_mem_split {cs piece : List Char} (h : piece ∈ split p cs) {d : Char}
    (hd : d ∈ piece) : d ∈ cs ∧ p d = false := by
  induction cs generalizing piece with
  | nil =>
    rw [split, List.mem_singleton] at h
    subst h
    cases hd
  | cons c cs ih =>
    unfold split at h
    split at h
    · rcases List.mem_cons.mp h with rfl | h
      · cases hd
      · exact (ih h hd).imp_left (List.mem_cons_of_mem c)
    · rename_i hc
      split at h
      · rename_i hs
        exact absurd hs (split_ne_nil p cs)
      · rename_i first pieces hs
        rw [hs] at ih
        rcases List.mem_cons.mp h with rfl | h
        · -- The character `c` has joined the first piece.
          rcases List.mem_cons.mp hd with rfl | hd
          · exact ⟨List.mem_cons_self, eq_false_of_ne_true hc⟩
          · exact (ih List.mem_cons_self hd).imp_left (List.mem_cons_of_mem c)
        · exact (ih (List.mem_cons_of_mem first h) hd).imp_left (List.mem_cons_of_mem c)

/-- No piece contains a separator. -/
theorem not_of_mem_split {cs piece : List Char} (h : piece ∈ split p cs) {d : Char}
    (hd : d ∈ piece) : p d = false :=
  (mem_and_not_of_mem_split h hd).2

end

/-! ### Joining -/

/-- Joined texts are the first one and the others, each after a separator. -/
theorem intercalate_cons_eq_flatMap (sep text : List Char) (texts : List (List Char)) :
    sep.intercalate (text :: texts) = text ++ texts.flatMap (sep ++ ·) := by
  induction texts generalizing text with
  | nil => simp
  | cons next rest ih =>
    rw [List.intercalate_cons_cons, ih, List.flatMap_cons]
    simp

/-- What joined texts contain is in one of them or in the separator. -/
theorem mem_or_mem_of_mem_intercalate {sep : List Char} {texts : List (List Char)} {c : Char}
    (h : c ∈ sep.intercalate texts) : c ∈ sep ∨ ∃ text ∈ texts, c ∈ text := by
  induction texts with
  | nil => cases h
  | cons text texts ih =>
    cases texts with
    | nil =>
      rw [List.intercalate_singleton] at h
      exact Or.inr ⟨text, List.mem_singleton_self text, h⟩
    | cons next rest =>
      rw [List.intercalate_cons_cons, List.mem_append, List.mem_append] at h
      rcases h with (h | h) | h
      · exact Or.inr ⟨text, List.mem_cons_self, h⟩
      · exact Or.inl h
      · rcases ih h with h | ⟨t, ht, h⟩
        · exact Or.inl h
        · exact Or.inr ⟨t, List.mem_cons_of_mem text ht, h⟩

/-- What is neither in the texts nor in the separator is not in the joined text. -/
theorem not_mem_intercalate {c : Char} {sep : String} {texts : List String}
    (hsep : c ∉ sep.toList) (h : ∀ text ∈ texts, c ∉ text.toList) :
    c ∉ (sep.intercalate texts).toList := by
  rw [String.toList_intercalate]
  intro hmem
  rcases mem_or_mem_of_mem_intercalate hmem with hmem | ⟨cs, hcs, hmem⟩
  · exact hsep hmem
  · obtain ⟨text, htext, rfl⟩ := List.mem_map.mp hcs
    exact h text htext hmem

section

variable (c : Char)

/-- The pieces with the separator between them are the text again. -/
theorem intercalate_split (cs : List Char) : [c].intercalate (split (· == c) cs) = cs := by
  induction cs with
  | nil => rfl
  | cons d cs ih =>
    unfold split
    split
    · rename_i h
      obtain ⟨piece, pieces, hs⟩ := List.exists_cons_of_ne_nil (split_ne_nil (· == c) cs)
      rw [hs] at ih ⊢
      rw [List.intercalate_cons_cons, ih, beq_iff_eq.mp h]
      rfl
    · split
      · rename_i hs
        exact absurd hs (split_ne_nil _ cs)
      · rename_i piece pieces hs
        rw [hs] at ih
        -- The character joins the first piece, whatever follows it.
        cases pieces with
        | nil =>
          rw [List.intercalate_singleton] at ih ⊢
          rw [ih]
        | cons next rest =>
          rw [List.intercalate_cons_cons] at ih ⊢
          rw [← ih]
          rfl

/-- Pieces with a separator between them that none of them contains are cut there again. -/
theorem split_intercalate {pieces : List (List Char)} (hne : pieces ≠ [])
    (h : ∀ piece ∈ pieces, c ∉ piece) : split (· == c) ([c].intercalate pieces) = pieces := by
  induction pieces with
  | nil => exact absurd rfl hne
  | cons piece pieces ih =>
    have hpiece : ∀ d ∈ piece, (d == c) = false := by
      intro d hd
      rw [beq_eq_false_iff_ne]
      rintro rfl
      exact h piece List.mem_cons_self hd
    cases pieces with
    | nil => rw [List.intercalate_singleton, split_of_forall_not hpiece]
    | cons next rest =>
      rw [List.intercalate_cons_cons, List.append_assoc, List.singleton_append,
        split_append_cons hpiece (beq_self_eq_true c),
        ih (by simp) fun q hq => h q (List.mem_cons_of_mem piece hq)]

/-- The pieces of a text are the only texts without the separator that give it back. -/
theorem split_eq_iff (cs : List Char) (pieces : List (List Char)) :
    split (· == c) cs = pieces ↔
      pieces ≠ [] ∧ cs = [c].intercalate pieces ∧ ∀ piece ∈ pieces, c ∉ piece := by
  constructor
  · rintro rfl
    refine ⟨split_ne_nil _ cs, (intercalate_split c cs).symm, ?_⟩
    intro piece hpiece hc
    have hself := not_of_mem_split hpiece hc
    simp at hself
  · rintro ⟨hne, rfl, h⟩
    exact split_intercalate c hne h

end

end RecordSql.Text
