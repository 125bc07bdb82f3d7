import RecordSql.Text.Words

/-!
# `RecordSql.Proofs.Words`: how the words of a text begin, and where they end

Where a text is cut into words depends on the characters around the cut, but its first
character is never lost if it is a letter or a number: the first word begins with it
(`words_cons`). So camel case begins with a case form of the first character
(`head?_upperCamelChars`, `head?_lowerCamelChars`).

No word goes over a separator. So texts with separators between them have the words of the texts,
whatever and however many the separators are (`words_intercalate`).
-/

set_option autoImplicit false

namespace RecordSql.Text

/-! ### The first word -/

/-- A word that has begun keeps its first character. -/
theorem wordsOfPiece_begun (c : Char) {cs : List Char} (hcs : cs ≠ []) (mode : CaseMode)
    (word : List Char) : ∃ w ws, wordsOfPiece mode (word ++ [c]) cs = (c :: w) :: ws := by
  induction cs generalizing mode word with
  | nil => exact absurd rfl hcs
  | cons d cs ih =>
    cases cs with
    | nil =>
      rw [wordsOfPiece, ← List.cons_append, List.reverse_append]
      exact ⟨_, _, rfl⟩
    | cons e rest =>
      unfold wordsOfPiece
      split
      · rw [← List.cons_append, List.reverse_append]
        exact ⟨_, _, rfl⟩
      · split
        · rw [List.reverse_append]
          exact ⟨_, _, rfl⟩
        · exact ih (by simp) (mode.next d) (d :: word)

/-- The first word of a text begins with its first character, if that is a letter or a
number. -/
theorem words_cons {c : Char} (h : Letter.isAlphanumeric c = true) (cs : List Char) :
    ∃ w ws, words (c :: cs) = (c :: w) :: ws := by
  obtain ⟨piece, pieces, hs⟩ :=
    List.exists_cons_of_ne_nil (split_ne_nil (!Letter.isAlphanumeric ·) cs)
  have hsplit : split (!Letter.isAlphanumeric ·) (c :: cs) = (c :: piece) :: pieces := by
    rw [split, hs, h]
    rfl
  have hpiece : ∃ w ws, wordsOfPiece .unknown [] (c :: piece) = (c :: w) :: ws := by
    cases piece with
    | nil => exact ⟨[], [], rfl⟩
    | cons d rest =>
      unfold wordsOfPiece
      split
      · exact ⟨[], _, rfl⟩
      · -- The mode is not known yet, so no row of capitals ends here.
        rw [if_neg (by simp)]
        exact wordsOfPiece_begun c (by simp) _ []
  obtain ⟨w, ws, hw⟩ := hpiece
  unfold words
  rw [hsplit, List.flatMap_cons, hw]
  exact ⟨w, _, rfl⟩

/-- Upper camel case begins with the uppercase form of the first character. -/
theorem head?_upperCamelChars {c d : Char} (h : Letter.isAlphanumeric c = true)
    (hupper : Letter.upper c = [d]) (cs : List Char) :
    (upperCamelChars (c :: cs)).head? = some d := by
  obtain ⟨w, ws, hw⟩ := words_cons h cs
  unfold upperCamelChars
  rw [hw, List.flatMap_cons, capitalize, hupper]
  rfl

/-- Lower camel case begins with the lowercase form of the first character. A capital sigma
is left out, for its form depends on what follows. -/
theorem head?_lowerCamelChars {c d : Char} (h : Letter.isAlphanumeric c = true) (hc : c ≠ 'Σ')
    (hlower : Letter.lower c = [d]) (cs : List Char) :
    (lowerCamelChars (c :: cs)).head? = some d := by
  obtain ⟨w, ws, hw⟩ := words_cons h cs
  unfold lowerCamelChars
  rw [hw]
  dsimp only
  cases w with
  | nil =>
    rw [lowerWord, if_neg (by simpa using hc), hlower]
    rfl
  | cons e w =>
    rw [lowerWord, hlower]
    rfl

/-! ### Separators -/

/-- Words do not go over a separator. -/
theorem words_append_sep (cs : List Char) {sep : Char} (hsep : Letter.isAlphanumeric sep = false)
    (ds : List Char) : words (cs ++ sep :: ds) = words cs ++ words ds := by
  unfold words
  rw [split_append cs (by rw [hsep]; rfl), List.flatMap_append]

/-- There is neither a letter nor a number in the text. -/
def AllSeparators (cs : List Char) : Prop :=
  ∀ c ∈ cs, Letter.isAlphanumeric c = false

/-- An underscore separates. -/
theorem allSeparators_underscore : AllSeparators "_".toList := by
  intro c hc
  obtain rfl : c = '_' := by simpa using hc
  rfl

/-- Separators before a text make no difference to its words. -/
theorem words_separators_append {seps : List Char} (h : AllSeparators seps) (cs : List Char) :
    words (seps ++ cs) = words cs := by
  induction seps with
  | nil => rfl
  | cons sep seps ih =>
    obtain ⟨hsep, hseps⟩ := List.forall_mem_cons.mp h
    calc words (sep :: (seps ++ cs))
        = words [] ++ words (seps ++ cs) := words_append_sep [] hsep (seps ++ cs)
      _ = words (seps ++ cs) := rfl
      _ = words cs := ih hseps

/-- Texts with separators between them have the words of both. -/
theorem words_append_separators_append (cs : List Char) {seps : List Char} (hne : seps ≠ [])
    (h : AllSeparators seps) (ds : List Char) :
    words (cs ++ seps ++ ds) = words cs ++ words ds := by
  obtain ⟨sep, more, rfl⟩ := List.exists_cons_of_ne_nil hne
  obtain ⟨hsep, hmore⟩ := List.forall_mem_cons.mp h
  rw [List.append_assoc, List.cons_append, words_append_sep cs hsep,
    words_separators_append hmore]

/-- Separators after a text make no difference either. -/
theorem words_append_separators (cs : List Char) {seps : List Char} (h : AllSeparators seps) :
    words (cs ++ seps) = words cs := by
  by_cases hne : seps = []
  · rw [hne, List.append_nil]
  · have hwords := words_append_separators_append cs hne h []
    rwa [List.append_nil, show words [] = [] from rfl, List.append_nil] at hwords

/-- Joined texts have the words of the texts, whatever the separators between them are. -/
theorem words_intercalate {sep : List Char} (hne : sep ≠ []) (h : AllSeparators sep)
    (texts : List (List Char)) : words (sep.intercalate texts) = texts.flatMap words := by
  induction texts with
  | nil => rfl
  | cons text texts ih =>
    cases texts with
    | nil => simp
    | cons next rest =>
      rw [List.intercalate_cons_cons, words_append_separators_append text hne h, ih]
      rfl

end RecordSql.Text
