import RecordSql.Proofs.Camel
import RecordSql.Proofs.ColumnNames
import RecordSql.Proofs.Trimming

/-!
# `RecordSql.Proofs.SnakeCase`: snake case and separators

Snake case keeps the words of a text and puts one underscore between them. What stands between the
words in the text is lost (`words_intercalate`), and so is white space around them (`words_trim`).
There are no words only where there is no letter and no number (`words_eq_nil_iff`).

The words in lowercase are not empty and have no underscore (`isSnakeWord_of_mem_snakeWords`), so an
underscore always stands alone and with a word after it. That is so in all texts with words that are
joined in this way (`not_infix_underscores`, `getLast?_joined_ne`), and names of columns are such
texts, whether they come from the path of a field (`toList_column`) or from the source of a
reference (`toList_targetColumn`).
-/

set_option autoImplicit false

namespace RecordSql.Text

/-! ### Words between separators -/

/-- White space separates. -/
theorem AllBlank.allSeparators {cs : List Char} (h : AllBlank cs) : AllSeparators cs := by
  intro c hc
  by_contra halnum
  have hblank := isBlank_eq_false_of_isAlphanumeric (eq_true_of_ne_false halnum)
  rw [h c hc] at hblank
  cases hblank

/-- White space around a text makes no difference to its words. -/
theorem words_trim (cs : List Char) : words (trim cs) = words cs := by
  obtain ⟨left, right, hleft, hright, heq⟩ := pads_trim cs
  conv_rhs => rw [heq]
  rw [words_append_separators _ hright.allSeparators,
    words_separators_append hleft.allSeparators]

/-- A text has no words exactly if it has neither a letter nor a number. -/
theorem words_eq_nil_iff (cs : List Char) : words cs = [] ↔ AllSeparators cs := by
  induction cs with
  | nil => exact iff_of_true rfl fun c hc => by cases hc
  | cons c cs ih =>
    rw [AllSeparators, List.forall_mem_cons]
    cases hc : Letter.isAlphanumeric c with
    | true =>
      obtain ⟨w, ws, hw⟩ := words_cons hc cs
      simp [hw]
    | false =>
      have hsep : AllSeparators [c] := by simpa [AllSeparators] using hc
      rw [← List.singleton_append, words_separators_append hsep, ih]
      simp [AllSeparators]

/-! ### Words in lowercase -/

/-- Words are not empty. -/
theorem ne_nil_of_mem_wordsOfPiece {mode : CaseMode} {word cs w : List Char}
    (hmode : mode = .upper → word ≠ []) (hw : w ∈ wordsOfPiece mode word cs) : w ≠ [] := by
  fun_induction wordsOfPiece mode word cs with
  | case1 => cases hw
  | case2 mode word c =>
    rw [List.mem_singleton] at hw
    simp [hw]
  | case3 mode word c d rest hend ih =>
    rcases List.mem_cons.mp hw with rfl | hw
    · simp
    · exact ih (fun h => by cases h) hw
  | case4 mode word c d rest hend hbefore ih =>
    -- A word that ends before `c` has begun, as the mode is that of its letters.
    rcases List.mem_cons.mp hw with rfl | hw
    · simp only [Bool.and_eq_true, decide_eq_true_eq] at hbefore
      simpa using hmode hbefore.1.1
    · exact ih (fun h => by cases h) hw
  | case5 mode word c d rest hend hbefore ih => exact ih (fun _ => by simp) hw

/-- The words of a text are not empty. -/
theorem ne_nil_of_mem_words {cs w : List Char} (hw : w ∈ words cs) : w ≠ [] := by
  obtain ⟨piece, -, hw⟩ := List.mem_flatMap.mp hw
  exact ne_nil_of_mem_wordsOfPiece (fun h => by cases h) hw

end RecordSql.Text

namespace RecordSql.Letter

/-- The shifts do not lead to an underscore. -/
theorem ne_underscore_shifts : ∀ s ∈ lowerShifts, ∀ n ∈ s.run.codes,
    Char.ofNat ((n : Int) + s.distance).toNat ≠ '_' := by
  decide +kernel

/-- The longer forms are not empty and have no underscore. -/
theorem ne_underscore_forms : ∀ form ∈ lowerForms,
    form.2 ≠ [] ∧ ∀ n ∈ form.2, Char.ofNat n ≠ '_' := by
  decide +kernel

/-- The lowercase form of a letter or number has no underscore. -/
theorem ne_underscore_of_mem_lower {c e : Char} (h : isAlphanumeric c = true) (he : e ∈ lower c) :
    e ≠ '_' := by
  have hascii : isAscii c = true → c.toLower ≠ '_' := fun hascii =>
    Text.forall_isAscii (P := fun c => isAlphanumeric c = true → c.toLower ≠ '_')
      (by decide +kernel) hascii h
  have hother : c ≠ '_' := by
    rintro rfl
    cases h
  exact forall_mem_lower (P := (· ≠ '_')) (fun form hform => (ne_underscore_forms form hform).2)
    ne_underscore_shifts hascii (fun _ => hother) e he

/-- Every character has a lowercase form. -/
theorem lower_ne_nil (c : Char) : lower c ≠ [] := by
  unfold lower
  split
  · simp
  · unfold mapped
    split
    · rename_i codes hlookup
      obtain ⟨before, after, hsplit, -⟩ := List.lookup_eq_some_iff.mp hlookup
      have hform : (c.toNat, codes) ∈ lowerForms := by
        rw [hsplit]
        exact List.mem_append_right before List.mem_cons_self
      simpa using (ne_underscore_forms _ hform).1
    · simp

end RecordSql.Letter

namespace RecordSql.Text

/-- A word as it stands in snake case. -/
structure IsSnakeWord (w : List Char) : Prop where
  ne_nil : w ≠ []
  not_mem : '_' ∉ w

/-- A word in lowercase is not empty. -/
theorem lowerWord_ne_nil {w : List Char} (h : w ≠ []) : lowerWord w ≠ [] := by
  cases w with
  | nil => exact absurd rfl h
  | cons c w =>
    cases w with
    | nil =>
      unfold lowerWord
      split
      · simp
      · exact Letter.lower_ne_nil c
    | cons d w => simp [lowerWord, Letter.lower_ne_nil]

/-- A word in lowercase has no underscore. -/
theorem not_mem_lowerWord {w : List Char} (h : ∀ c ∈ w, Letter.isAlphanumeric c = true) :
    '_' ∉ lowerWord w := fun hmem =>
  forall_mem_lowerWord (P := (· ≠ '_')) (fun _ => by decide)
    (fun c hc _ he => Letter.ne_underscore_of_mem_lower (h c hc) he) '_' hmem rfl

/-- The words of a text in lowercase. -/
def snakeWords (cs : List Char) : List (List Char) :=
  (words cs).map lowerWord

/-- They are words as they stand in snake case. -/
theorem isSnakeWord_of_mem_snakeWords {cs w : List Char} (h : w ∈ snakeWords cs) :
    IsSnakeWord w := by
  obtain ⟨word, hword, rfl⟩ := List.mem_map.mp h
  exact ⟨lowerWord_ne_nil (ne_nil_of_mem_words hword),
    not_mem_lowerWord fun c hc => isAlphanumeric_of_mem_words hword hc⟩

/-! ### Underscores -/

section

variable {ws : List (List Char)}

/-- Words with underscores between them are cut at the underscores again. -/
theorem split_joined (hne : ws ≠ []) (h : ∀ w ∈ ws, IsSnakeWord w) :
    split (· == '_') (['_'].intercalate ws) = ws :=
  split_intercalate '_' hne fun w hw => (h w hw).not_mem

/-- After an underscore between words a word begins. -/
theorem exists_cons_of_joined (hne : ws ≠ []) (h : ∀ w ∈ ws, IsSnakeWord w)
    {before after : List Char} (heq : ['_'].intercalate ws = before ++ '_' :: after) :
    ∃ c rest, after = c :: rest ∧ c ≠ '_' := by
  have hsplit : ws = split (· == '_') before ++ split (· == '_') after :=
    calc ws
        = split (· == '_') (before ++ '_' :: after) := by rw [← heq, split_joined hne h]
      _ = split (· == '_') before ++ split (· == '_') after := split_append before rfl after
  -- Otherwise there would be an empty word after it.
  have hempty : [] ∉ split (· == '_') after := fun hmem =>
    (h [] (hsplit ▸ List.mem_append_right _ hmem)).ne_nil rfl
  cases after with
  | nil => exact absurd List.mem_cons_self hempty
  | cons c rest =>
    refine ⟨c, rest, rfl, ?_⟩
    rintro rfl
    exact hempty List.mem_cons_self

/-- So no two underscores stand side by side. -/
theorem not_infix_underscores (hne : ws ≠ []) (h : ∀ w ∈ ws, IsSnakeWord w) :
    ¬['_', '_'] <:+: ['_'].intercalate ws := by
  rintro ⟨before, after, heq⟩
  rw [List.append_assoc] at heq
  obtain ⟨c, rest, hcons, hc⟩ := exists_cons_of_joined hne h heq.symm
  exact hc (List.cons.inj hcons).1.symm

/-- And none stands at the end. -/
theorem getLast?_joined_ne (hne : ws ≠ []) (h : ∀ w ∈ ws, IsSnakeWord w) :
    (['_'].intercalate ws).getLast? ≠ some '_' := by
  intro hlast
  obtain ⟨before, heq⟩ := List.getLast?_eq_some_iff.mp hlast
  obtain ⟨c, rest, hcons, -⟩ := exists_cons_of_joined hne h heq
  cases hcons

end

end RecordSql.Text

namespace RecordSql.Identifier

open RecordSql.Text (allSeparators_underscore snakeWords words words_intercalate words_trim)

/-! ### Columns -/

/-- The column of a path is the column root and all words of the path, with underscores between
them. -/
theorem toList_column (root : String) (segments : List String) :
    (column (root :: segments)).toList
      = ['_'].intercalate (['f'] :: segments.flatMap fun s => snakeWords s.toList) := by
  have hroot : snakeWords columnRoot.toList = [['f']] := by decide +kernel
  have hwords : snakeWords ("_".intercalate (columnRoot :: segments)).toList
      = ['f'] :: segments.flatMap fun s => snakeWords s.toList := by
    rw [String.toList_intercalate, snakeWords, words_intercalate (by simp) allSeparators_underscore,
      List.map_cons, List.flatMap_cons, List.map_append, ← snakeWords, hroot, List.flatMap_map,
      List.map_flatMap]
    rfl
  show (Text.snake ("_".intercalate (columnRoot :: segments))).toList = _
  rw [Text.snake, Text.snakeChars, String.toList_ofList, ← snakeWords, hwords]

/-- The column of a referenced table is the column root, an underscore and the words of the source
with underscores between them. -/
theorem toList_targetColumn (source : String) :
    (targetColumn source).toList = 'f' :: '_' :: ['_'].intercalate (snakeWords source.toList) := by
  have hwords : snakeWords (Text.trimmed source).toList = snakeWords source.toList := by
    rw [Text.trimmed, String.toList_ofList, snakeWords, words_trim, ← snakeWords]
  show ("f" ++ "_" ++ Text.snake (Text.trimmed source)).toList = _
  rw [Text.snake, Text.snakeChars, ← snakeWords, hwords]
  simp

end RecordSql.Identifier
