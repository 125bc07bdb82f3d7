import RecordSql.Proofs.Columns
import RecordSql.Sql.Render

/-!
# `RecordSql.Proofs.ColumnNames`: the characters of column names

Column names stand in statements as they are, so it matters what they can contain. A name comes
from arbitrary field names, but snake case keeps letters and numbers only, in lowercase, and
joins them with underscores. `isNameChar_of_mem_column` says what is left: no character is white
space, and of the ASCII characters there are only `a` to `z`, `0` to `9` and the underscore.

The lowercase form of a letter can be any character of the tables, so these are checked entry by
entry (`isNameChar_shifts`, `isNameChar_forms`).
-/

set_option autoImplicit false

namespace RecordSql.Text

/-- A character that is not white space, and a lowercase letter, a digit or an underscore if it
is an ASCII character. -/
def IsNameChar (c : Char) : Prop :=
  isBlank c = false ∧ (Letter.isAscii c = true → c.isLower = true ∨ c.isDigit = true ∨ c = '_')

instance (c : Char) : Decidable (IsNameChar c) :=
  inferInstanceAs (Decidable (_ ∧ _))

/-! ### Letters and numbers -/

/-- The code points of white space. -/
def blankCodes : List Nat :=
  [0x09, 0x0A, 0x0B, 0x0C, 0x0D, 0x20, 0x85, 0xA0, 0x1680, 0x2000, 0x2001, 0x2002, 0x2003, 0x2004,
    0x2005, 0x2006, 0x2007, 0x2008, 0x2009, 0x200A, 0x2028, 0x2029, 0x202F, 0x205F, 0x3000]

/-- White space has one of these code points. -/
theorem toNat_mem_blankCodes {c : Char} (h : isBlank c = true) : c.toNat ∈ blankCodes := by
  unfold isBlank at h
  simp only [Bool.or_eq_true, Bool.and_eq_true, decide_eq_true_eq, beq_iff_eq] at h
  simp only [blankCodes, List.mem_cons, List.not_mem_nil, or_false]
  omega

/-- No letter or number is white space. -/
theorem isBlank_eq_false_of_isAlphanumeric {c : Char} (h : Letter.isAlphanumeric c = true) :
    isBlank c = false := by
  have hcodes : ∀ n ∈ blankCodes, Letter.isAlphanumeric (Char.ofNat n) = false := by
    decide +kernel
  by_contra hblank
  have hc := hcodes _ (toNat_mem_blankCodes (eq_true_of_ne_false hblank))
  rw [Char.ofNat_toNat, h] at hc
  cases hc

/-- A numeral consists of digits. -/
theorem not_mem_toDigits {c : Char} (hc : c.isDigit = false) (n : Nat) :
    c ∉ Nat.toDigits 10 n := by
  intro h
  have hdigit := Nat.isDigit_of_mem_toDigits (by decide) (by decide) h
  rw [hc] at hdigit
  cases hdigit

/-- A letter or number above the ASCII range may stand in a name as it is. -/
theorem isNameChar_of_not_isAscii {c : Char} (h : Letter.isAlphanumeric c = true)
    (hascii : Letter.isAscii c = false) : IsNameChar c := by
  refine ⟨isBlank_eq_false_of_isAlphanumeric h, ?_⟩
  intro h'
  rw [hascii] at h'
  cases h'

/-- What holds of each code point of the ASCII range holds of every ASCII character. -/
theorem forall_isAscii {P : Char → Prop} (h : ∀ n ∈ List.range 0x80, P (Char.ofNat n)) {c : Char}
    (hascii : Letter.isAscii c = true) : P c := by
  have hlt : c.toNat < 0x80 := of_decide_eq_true hascii
  have hc := h c.toNat (List.mem_range.mpr hlt)
  rwa [Char.ofNat_toNat] at hc

/-- The lowercase form of an ASCII letter or digit is a lowercase letter or a digit. -/
theorem isNameChar_toLower {c : Char} (h : Letter.isAlphanumeric c = true)
    (hascii : Letter.isAscii c = true) : IsNameChar c.toLower :=
  forall_isAscii (P := fun c => Letter.isAlphanumeric c = true → IsNameChar c.toLower)
    (by decide +kernel) hascii h

end RecordSql.Text

namespace RecordSql.Letter

open RecordSql.Text (IsNameChar)

/-! ### Lowercase forms -/

/-- The code points of a run. -/
def Run.codes (r : Run) : List Nat :=
  List.range' r.first ((r.last - r.first) / r.step + 1) r.step

/-- A run contains its code points only. -/
theorem Run.mem_codes {r : Run} {n : Nat} (h : r.contains n = true) : n ∈ r.codes := by
  unfold Run.contains at h
  simp only [Bool.and_eq_true, decide_eq_true_eq, beq_iff_eq] at h
  obtain ⟨⟨hfirst, hlast⟩, hmod⟩ := h
  rw [Run.codes, List.mem_range']
  refine ⟨(n - r.first) / r.step, ?_, ?_⟩
  · have := Nat.div_le_div_right (c := r.step) (Nat.sub_le_sub_right hlast r.first)
    omega
  · have := Nat.div_add_mod (n - r.first) r.step
    omega

/-- The shifts lead to characters of names. -/
theorem isNameChar_shifts : ∀ s ∈ lowerShifts, ∀ n ∈ s.run.codes,
    IsNameChar (Char.ofNat ((n : Int) + s.distance).toNat) := by
  decide +kernel

/-- So do the longer forms. -/
theorem isNameChar_forms : ∀ form ∈ lowerForms, ∀ n ∈ form.2, IsNameChar (Char.ofNat n) := by
  decide +kernel

/-- What holds of a character and of all that its tables lead to holds of its form. -/
theorem forall_mem_mapped {P : Char → Prop} {forms : List (Nat × List Nat)} {shifts : List Shift}
    (hforms : ∀ form ∈ forms, ∀ n ∈ form.2, P (Char.ofNat n))
    (hshifts : ∀ s ∈ shifts, ∀ n ∈ s.run.codes, P (Char.ofNat ((n : Int) + s.distance).toNat))
    {c : Char} (hc : P c) : ∀ e ∈ mapped forms shifts c, P e := by
  intro e he
  unfold mapped at he
  split at he
  · rename_i codes hlookup
    obtain ⟨n, hn, rfl⟩ := List.mem_map.mp he
    obtain ⟨before, after, hsplit, -⟩ := List.lookup_eq_some_iff.mp hlookup
    have hform : (c.toNat, codes) ∈ forms := by
      rw [hsplit]
      exact List.mem_append_right before List.mem_cons_self
    exact hforms _ hform n hn
  · rw [List.mem_singleton] at he
    subst he
    unfold Shift.apply
    split
    · rename_i s hs
      have hrun := List.find?_some hs
      exact hshifts s (List.mem_of_find?_eq_some hs) _ (Run.mem_codes hrun)
    · exact hc

/-- What holds of the lowercase form of an ASCII character, of any other character, and of all that
the tables lead to, holds of the lowercase form. -/
theorem forall_mem_lower {P : Char → Prop}
    (hforms : ∀ form ∈ lowerForms, ∀ n ∈ form.2, P (Char.ofNat n))
    (hshifts : ∀ s ∈ lowerShifts, ∀ n ∈ s.run.codes, P (Char.ofNat ((n : Int) + s.distance).toNat))
    {c : Char} (hascii : isAscii c = true → P c.toLower) (hother : isAscii c = false → P c) :
    ∀ e ∈ lower c, P e := by
  intro e he
  unfold lower at he
  split at he
  · rename_i h
    rw [List.mem_singleton] at he
    exact he ▸ hascii h
  · rename_i h
    exact forall_mem_mapped hforms hshifts (hother (eq_false_of_ne_true h)) e he

/-- The lowercase form of a letter or number consists of characters of names. -/
theorem isNameChar_of_mem_lower {c e : Char} (h : isAlphanumeric c = true) (he : e ∈ lower c) :
    IsNameChar e :=
  forall_mem_lower isNameChar_forms isNameChar_shifts (Text.isNameChar_toLower h)
    (Text.isNameChar_of_not_isAscii h) e he

end RecordSql.Letter

namespace RecordSql.Text

/-! ### Words -/

/-- The words of a piece have the characters of the piece only. -/
theorem mem_of_mem_wordsOfPiece {mode : CaseMode} {word cs w : List Char}
    (hw : w ∈ wordsOfPiece mode word cs) {c : Char} (hc : c ∈ w) : c ∈ word ∨ c ∈ cs := by
  fun_induction wordsOfPiece mode word cs with
  | case1 => cases hw
  | case2 mode word d =>
    rw [List.mem_singleton] at hw
    subst hw
    simpa [or_comm] using hc
  | case3 mode word d e rest hend ih =>
    -- The word ends after `d`.
    rcases List.mem_cons.mp hw with rfl | hw
    · rcases List.mem_cons.mp (List.mem_reverse.mp hc) with rfl | hc
      · exact Or.inr List.mem_cons_self
      · exact Or.inl hc
    · rcases ih hw with hc | hc
      · cases hc
      · exact Or.inr (List.mem_cons_of_mem d hc)
  | case4 mode word d e rest _ hbefore ih =>
    -- The word ends before `d`.
    rcases List.mem_cons.mp hw with rfl | hw
    · exact Or.inl (List.mem_reverse.mp hc)
    · rcases ih hw with hc | hc
      · rw [List.mem_singleton] at hc
        subst hc
        exact Or.inr List.mem_cons_self
      · exact Or.inr (List.mem_cons_of_mem d hc)
  | case5 mode word d e rest _ _ ih =>
    rcases ih hw with hc | hc
    · rcases List.mem_cons.mp hc with rfl | hc
      · exact Or.inr List.mem_cons_self
      · exact Or.inl hc
    · exact Or.inr (List.mem_cons_of_mem d hc)

/-- Words consist of letters and numbers of the text. -/
theorem mem_of_mem_words {cs w : List Char} (hw : w ∈ words cs) {c : Char} (hc : c ∈ w) :
    c ∈ cs ∧ Letter.isAlphanumeric c = true := by
  obtain ⟨piece, hpiece, hw⟩ := List.mem_flatMap.mp hw
  rcases mem_of_mem_wordsOfPiece hw hc with hc | hc
  · cases hc
  · simpa using mem_and_not_of_mem_split hpiece hc

/-- They have no separators. -/
theorem isAlphanumeric_of_mem_words {cs w : List Char} (hw : w ∈ words cs) {c : Char}
    (hc : c ∈ w) : Letter.isAlphanumeric c = true :=
  (mem_of_mem_words hw hc).2

/-- What holds of the lowercase forms of the letters of a word, and of a final sigma if there is a
sigma, holds of the word in lowercase. -/
theorem forall_mem_lowerWord {P : Char → Prop} {w : List Char} (hsigma : 'Σ' ∈ w → P 'ς')
    (h : ∀ c ∈ w, ∀ e ∈ Letter.lower c, P e) : ∀ e ∈ lowerWord w, P e := by
  intro e he
  induction w with
  | nil => cases he
  | cons c w ih =>
    obtain ⟨hc, hw⟩ := List.forall_mem_cons.mp h
    cases w with
    | nil =>
      -- Only the last letter can be a final sigma.
      unfold lowerWord at he
      split at he
      · rename_i hc
        rw [List.mem_singleton] at he
        exact he ▸ hsigma (List.mem_singleton.mpr (beq_iff_eq.mp hc).symm)
      · exact hc e he
    | cons d w =>
      rw [lowerWord] at he
      rcases List.mem_append.mp he with he | he
      · exact hc e he
      · exact ih (fun hmem => hsigma (List.mem_cons_of_mem c hmem)) hw he

/-- A word in lowercase consists of characters of names. -/
theorem isNameChar_of_mem_lowerWord {w : List Char}
    (hw : ∀ c ∈ w, Letter.isAlphanumeric c = true) {e : Char} (he : e ∈ lowerWord w) :
    IsNameChar e :=
  forall_mem_lowerWord (P := IsNameChar) (fun _ => by decide +kernel)
    (fun c hc _ he => Letter.isNameChar_of_mem_lower (hw c hc) he) e he

/-- A text in snake case consists of characters of names. -/
theorem isNameChar_of_mem_snake {s : String} {c : Char} (hc : c ∈ (snake s).toList) :
    IsNameChar c := by
  unfold snake snakeChars at hc
  rw [String.toList_ofList] at hc
  rcases mem_or_mem_of_mem_intercalate hc with hc | ⟨word, hword, hc⟩
  · rw [List.mem_singleton] at hc
    subst hc
    decide +kernel
  · obtain ⟨w, hw, rfl⟩ := List.mem_map.mp hword
    exact isNameChar_of_mem_lowerWord (fun b hb => isAlphanumeric_of_mem_words hw hb) hc

end RecordSql.Text

/-! ### Columns -/

namespace RecordSql

/-- The column of a path consists of characters of names. -/
theorem Identifier.isNameChar_of_mem_column {path : List String} {c : Char}
    (hc : c ∈ (Identifier.column path).toList) : Text.IsNameChar c := by
  unfold Identifier.column at hc
  split at hc
  · cases hc
  · exact Text.isNameChar_of_mem_snake hc

/-- So does the column of a reference. -/
theorem Identifier.isNameChar_of_mem_targetColumn {source : String} {c : Char}
    (hc : c ∈ (Identifier.targetColumn source).toList) : Text.IsNameChar c := by
  have hparts : c = 'f' ∨ c = '_' ∨ c ∈ (Text.snake (Text.trimmed source)).toList := by
    simpa [targetColumn, columnRoot, or_assoc] using hc
  rcases hparts with rfl | rfl | hc
  · decide
  · decide
  · exact Text.isNameChar_of_mem_snake hc

/-- A list of columns contains a comma and the characters of their names only. -/
theorem Sql.not_mem_columnList {c : Char} (hc : c ≠ ',') {fs : List Field}
    (h : ∀ f ∈ fs, c ∉ f.name.toList) : c ∉ (Sql.columnList fs).toList := by
  unfold Sql.columnList
  exact Text.not_mem_intercalate (by simpa using hc) (List.forall_mem_map.mpr h)

namespace Table

/-- The names of the columns of a loaded table consist of characters of names. -/
theorem isNameChar_of_mem_fields {t : Record.Tree} {f : Field} (hf : f ∈ (load t).table.fields)
    {c : Char} (hc : c ∈ f.name.toList) : Text.IsNameChar c := by
  rw [fields_load] at hf
  obtain ⟨l, hl, rfl⟩ := List.mem_map.mp hf
  have hcolumn := (read_of_mem_leavesOf (mem_of_mem_firstOfColumn hl)).column
  rw [show l.field.name = l.column from rfl, hcolumn] at hc
  exact Identifier.isNameChar_of_mem_column hc

/-- A loaded column compares plainly. -/
theorem operator_of_mem_fields {t : Record.Tree} {f : Field} (hf : f ∈ (load t).table.fields) :
    f.operator = .equal := by
  rw [fields_load] at hf
  obtain ⟨l, -, rfl⟩ := List.mem_map.mp hf
  rfl

end Table

end RecordSql
