import RecordSql.Proofs.Words

/-!
# `RecordSql.Proofs.Camel`: camel case, part by part

Camel case joins words with nothing between them, and a label is read twice: what upper camel case
has made is cut into words again for lower camel case. So a part of a label can look different next
to other parts. This module says how much.

A word that consists of a capital and small letters is a *title*. What follows a title is read in
the same way after all titles (`words_title_append`), so `camelAfter` can say what becomes of it
without the title: `lowerCamelChars_title_append`, `upperCamelChars_title_append`. And a title is
cut off from whatever stands before it, with one exception: after digits and other characters
without case that stand behind a separator, it is read on, and loses its capital
(`camelAfter_append_cases`). Where nothing but letters and numbers stands before it this does not
happen (`camelAfter_append_title`).

Separators can be there although a first reading has removed them, for the uppercase form of a
letter may contain a mark that is not a letter.
-/

set_option autoImplicit false

namespace RecordSql.Text

/-! ### Separators -/

/-- Letters and numbers alone are one piece. -/
theorem words_of_forall_isAlphanumeric {cs : List Char}
    (h : ∀ c ∈ cs, Letter.isAlphanumeric c = true) : words cs = wordsOfPiece .unknown [] cs := by
  unfold words
  rw [split_of_forall_not fun c hc => by rw [h c hc]; rfl, List.flatMap_singleton]

/-! ### Capitals and small letters -/

/-- A letter with which a title can begin. -/
def IsCapital (c : Char) : Prop :=
  Letter.isAlphanumeric c = true ∧ Letter.isUpper c = true ∧ Letter.isLower c = false ∧
    Letter.upper c = [c] ∧ c ≠ 'Σ'

/-- A letter with which a title can go on. -/
def IsSmall (c : Char) : Prop :=
  Letter.isAlphanumeric c = true ∧ Letter.isLower c = true ∧ Letter.isUpper c = false ∧
    Letter.lower c = [c]

instance (c : Char) : Decidable (IsCapital c) :=
  inferInstanceAs (Decidable (_ ∧ _))

instance (c : Char) : Decidable (IsSmall c) :=
  inferInstanceAs (Decidable (_ ∧ _))

/-- A capital followed by small letters, at least one. -/
def IsTitle : List Char → Prop
  | [] => False
  | [_] => False
  | C :: c :: cs => IsCapital C ∧ IsSmall c ∧ ∀ d ∈ cs, IsSmall d

instance : DecidablePred IsTitle
  | [] => inferInstanceAs (Decidable False)
  | [_] => inferInstanceAs (Decidable False)
  | C :: c :: cs =>
    -- Only the letters of the title are gone through, not all characters.
    letI : Decidable (∀ d ∈ cs, IsSmall d) := List.decidableBAll _ cs
    inferInstanceAs (Decidable (IsCapital C ∧ IsSmall c ∧ ∀ d ∈ cs, IsSmall d))

/-- A character without case. -/
def IsCaseless (c : Char) : Prop :=
  Letter.isLower c = false ∧ Letter.isUpper c = false

/-- The case of a word is known once a letter with case has been read. -/
theorem next_of_cased {c : Char} (h : Letter.isLower c = true ∨ Letter.isUpper c = true)
    (mode mode' : CaseMode) : mode.next c = mode'.next c := by
  unfold CaseMode.next
  rcases h with h | h <;> simp [h]

/-- It is that of a small letter after such a letter. -/
theorem IsSmall.next {c : Char} (h : IsSmall c) (mode : CaseMode) : mode.next c = .lower := by
  unfold CaseMode.next
  rw [if_pos h.2.1]

/-- And that of a capital after a capital. -/
theorem IsCapital.next {c : Char} (h : IsCapital c) (mode : CaseMode) : mode.next c = .upper := by
  unfold CaseMode.next
  rw [if_neg (by simp [h.2.2.1]), if_pos h.2.1]

/-- If it is not known after a piece, the piece has no letter with case. -/
theorem isCaseless_of_foldl_next {cs : List Char} {mode : CaseMode}
    (h : cs.foldl CaseMode.next mode = .unknown) : mode = .unknown ∧ ∀ c ∈ cs, IsCaseless c := by
  induction cs generalizing mode with
  | nil => exact ⟨h, by simp⟩
  | cons c cs ih =>
    obtain ⟨hmode, hcs⟩ := ih h
    have hc : mode = .unknown ∧ IsCaseless c := by
      unfold CaseMode.next at hmode
      unfold IsCaseless
      cases hlower : Letter.isLower c <;> cases hupper : Letter.isUpper c <;> simp_all
    exact ⟨hc.1, List.forall_mem_cons.mpr ⟨hc.2, hcs⟩⟩

/-! ### The words of a piece -/

/-- What has been read of a word stands at the beginning of it. -/
theorem wordsOfPiece_append_begun (mode : CaseMode) (word begun cs : List Char) :
    wordsOfPiece mode (word ++ begun) cs =
      (wordsOfPiece mode word cs).modifyHead (begun.reverse ++ ·) := by
  fun_induction wordsOfPiece mode word cs with
  | case1 => rfl
  | case2 mode word c => simp [wordsOfPiece]
  | case3 mode word c d rest hend => simp [wordsOfPiece, hend]
  | case4 mode word c d rest hend hbefore => simp_all [wordsOfPiece]
  | case5 mode word c d rest hend hbefore ih =>
    rw [wordsOfPiece, if_neg hend, if_neg hbefore, ← ih, List.cons_append]

/-- The words of a piece after a small letter. The first one goes on with the word of that letter
and may be empty. -/
def afterSmall : List Char → List (List Char)
  | [] => [[]]
  | c :: cs =>
    if Letter.isUpper c then [] :: wordsOfPiece .unknown [] (c :: cs)
    else wordsOfPiece .lower [] (c :: cs)

/-- What comes after a small letter does not depend on the letter or on what stands before it. -/
theorem wordsOfPiece_small {c : Char} (hc : IsSmall c) (mode : CaseMode) (word cs : List Char) :
    wordsOfPiece mode word (c :: cs) = (afterSmall cs).modifyHead ((c :: word).reverse ++ ·) := by
  cases cs with
  | nil => simp [wordsOfPiece, afterSmall]
  | cons d cs =>
    have hupper : Letter.isUpper c = false := hc.2.2.1
    unfold afterSmall
    rw [wordsOfPiece, hc.next]
    by_cases hd : Letter.isUpper d = true
    · simp [hd]
    · have hbegun := wordsOfPiece_append_begun .lower [] (c :: word) (d :: cs)
      rw [List.nil_append] at hbegun
      simp [hd, hupper, hbegun]

/-- The same after several of them. -/
theorem wordsOfPiece_smalls {c : Char} {cs : List Char} (hc : IsSmall c)
    (hcs : ∀ d ∈ cs, IsSmall d) (mode : CaseMode) (word ds : List Char) :
    wordsOfPiece mode word (c :: cs ++ ds) =
      (afterSmall ds).modifyHead (word.reverse ++ (c :: cs) ++ ·) := by
  induction cs generalizing c mode word with
  | nil => simpa using wordsOfPiece_small hc mode word ds
  | cons d cs ih =>
    obtain ⟨hd, hcs⟩ := List.forall_mem_cons.mp hcs
    have hrest := ih hd hcs .lower []
    rw [List.cons_append, wordsOfPiece_small hc, List.cons_append, afterSmall,
      if_neg (by simp [hd.2.2.1]), ← List.cons_append, hrest, List.modifyHead_modifyHead]
    congr 1
    funext w
    simp

/-- A piece has words if it has characters. -/
theorem wordsOfPiece_ne_nil {cs : List Char} (h : cs ≠ []) (mode : CaseMode) (word : List Char) :
    wordsOfPiece mode word cs ≠ [] := by
  fun_induction wordsOfPiece mode word cs with
  | case1 => exact absurd rfl h
  | case2 => simp
  | case3 => simp
  | case4 => simp
  | case5 mode word c d rest hend hbefore ih => exact ih (by simp)

/-- After a small letter there is always the rest of its word. -/
theorem afterSmall_ne_nil (cs : List Char) : afterSmall cs ≠ [] := by
  unfold afterSmall
  split
  · simp
  · split
    · simp
    · exact wordsOfPiece_ne_nil (by simp) _ _

/-- What comes after a title does not depend on the title. -/
theorem wordsOfPiece_title {cs : List Char} (h : IsTitle cs) (ds : List Char) :
    wordsOfPiece .unknown [] (cs ++ ds) = (afterSmall ds).modifyHead (cs ++ ·) := by
  match cs, h with
  | C :: c :: cs, ⟨hC, hc, hcs⟩ =>
    have hsmalls := wordsOfPiece_smalls hc hcs .upper [C] ds
    rw [List.cons_append, List.cons_append, wordsOfPiece, hC.next]
    simpa using hsmalls

/-- A capital before a small letter begins a word, if the case of what stands before it is
known. -/
theorem wordsOfPiece_append_capital {C c : Char} (hC : IsCapital C) (hc : IsSmall c)
    (ds : List Char) {mode : CaseMode} {word cs : List Char} (hne : cs ≠ [])
    (hcased : cs.foldl CaseMode.next mode ≠ .unknown) :
    wordsOfPiece mode word (cs ++ C :: c :: ds) =
      wordsOfPiece mode word cs ++ wordsOfPiece .unknown [] (C :: c :: ds) := by
  obtain ⟨-, hCupper, hClower, -⟩ := id hC
  have hcapital : wordsOfPiece .unknown [C] (c :: ds) =
      wordsOfPiece .unknown [] (C :: c :: ds) := by
    rw [wordsOfPiece_small hc, wordsOfPiece, hC.next]
    simp [wordsOfPiece_small hc]
  fun_induction wordsOfPiece mode word cs with
  | case1 => exact absurd rfl hne
  | case2 mode word d =>
    have hd : mode.next d ≠ .unknown := hcased
    rw [List.cons_append, List.nil_append, wordsOfPiece]
    cases hmode : mode.next d with
    | unknown => exact absurd hmode hd
    | lower => simp [hCupper]
    | upper =>
      -- The word ends before the capital, for a small letter follows it.
      have hnext : wordsOfPiece .upper (d :: word) (C :: c :: ds) =
          (d :: word).reverse :: wordsOfPiece .unknown [C] (c :: ds) := by
        rw [wordsOfPiece, hC.next]
        simp [hCupper, hc.2.1]
      simp [hClower, hnext, hcapital]
  | case3 mode word d e rest hend ih =>
    have hupper : Letter.isUpper e = true := by simp_all
    have hrest : (e :: rest).foldl CaseMode.next .unknown ≠ .unknown := by
      rw [List.foldl_cons, next_of_cased (Or.inr hupper) .unknown (mode.next d)]
      exact hcased
    have hih := ih (by simp) hrest
    rw [List.cons_append] at hih
    rw [List.cons_append, List.cons_append, wordsOfPiece, if_pos hend, hih, List.cons_append]
  | case4 mode word d e rest hend hbefore ih =>
    have hlower : Letter.isLower e = true := by simp_all
    have hrest : (e :: rest).foldl CaseMode.next .unknown ≠ .unknown := by
      rw [List.foldl_cons, next_of_cased (Or.inl hlower) .unknown (mode.next d)]
      exact hcased
    have hih := ih (by simp) hrest
    rw [List.cons_append] at hih
    rw [List.cons_append, List.cons_append, wordsOfPiece, if_neg hend, if_pos hbefore, hih,
      List.cons_append]
  | case5 mode word d e rest hend hbefore ih =>
    have hih := ih (by simp) hcased
    rw [List.cons_append] at hih
    rw [List.cons_append, List.cons_append, wordsOfPiece, if_neg hend, if_neg hbefore, hih]

/-- After a small letter a capital before a small letter begins a word, whatever stands between. -/
theorem afterSmall_append_capital {C c : Char} (hC : IsCapital C) (hc : IsSmall c)
    (cs ds : List Char) :
    afterSmall (cs ++ C :: c :: ds) = afterSmall cs ++ wordsOfPiece .unknown [] (C :: c :: ds) := by
  cases cs with
  | nil =>
    have hupper : Letter.isUpper C = true := hC.2.1
    simp [afterSmall, hupper]
  | cons d cs =>
    rw [List.cons_append, afterSmall, afterSmall]
    by_cases hd : Letter.isUpper d = true
    · rw [if_pos hd, if_pos hd, ← List.cons_append, wordsOfPiece_append_capital hC hc ds (by simp)]
      · rfl
      · intro hunknown
        have hcaseless := (isCaseless_of_foldl_next hunknown).2 d List.mem_cons_self
        rw [hcaseless.2] at hd
        cases hd
    · rw [if_neg hd, if_neg hd, ← List.cons_append, wordsOfPiece_append_capital hC hc ds (by simp)]
      intro hunknown
      cases (isCaseless_of_foldl_next hunknown).1

/-- Characters without case leave a word open: whatever follows goes on with it. -/
theorem wordsOfPiece_append_of_caseless {ds : List Char} (hds : ds ≠ []) {word cs : List Char}
    (hcs : ∀ c ∈ cs, IsCaseless c) :
    wordsOfPiece .unknown word (cs ++ ds) =
      (wordsOfPiece .unknown [] ds).modifyHead (word.reverse ++ cs ++ ·) := by
  induction cs generalizing word with
  | nil => simpa using wordsOfPiece_append_begun .unknown [] word ds
  | cons c cs ih =>
    obtain ⟨hc, hcs⟩ := List.forall_mem_cons.mp hcs
    have hnext : CaseMode.next .unknown c = .unknown := by
      unfold CaseMode.next
      simp [hc.1, hc.2]
    have hstep : wordsOfPiece .unknown word (c :: (cs ++ ds)) =
        wordsOfPiece .unknown (c :: word) (cs ++ ds) := by
      obtain ⟨d, rest, hrest⟩ :=
        List.exists_cons_of_ne_nil (List.append_ne_nil_of_right_ne_nil cs hds)
      rw [hrest, wordsOfPiece, hnext]
      simp
    rw [List.cons_append, hstep, ih hcs]
    simp

/-! ### The words of a text -/

/-- The words of a text after a small letter. The first one goes on with the word of that letter
and may be empty. -/
def wordsAfter (cs : List Char) : List (List Char) :=
  match split (!Letter.isAlphanumeric ·) cs with
  | [] => []
  | piece :: pieces => afterSmall piece ++ pieces.flatMap (wordsOfPiece .unknown [])

/-- Letters and numbers in front of a text belong to its first piece and leave the others as they
are. -/
theorem exists_first_piece (cs : List Char) :
    ∃ piece ws, ∀ front : List Char, (∀ c ∈ front, Letter.isAlphanumeric c = true) →
      words (front ++ cs) = wordsOfPiece .unknown [] (front ++ piece) ++ ws ∧
      wordsAfter (front ++ cs) = afterSmall (front ++ piece) ++ ws := by
  obtain ⟨piece, pieces, hs⟩ :=
    List.exists_cons_of_ne_nil (split_ne_nil (!Letter.isAlphanumeric ·) cs)
  refine ⟨piece, pieces.flatMap (wordsOfPiece .unknown []), ?_⟩
  intro front hfront
  have hsplit : split (!Letter.isAlphanumeric ·) (front ++ cs) = (front ++ piece) :: pieces := by
    induction front with
    | nil => exact hs
    | cons c front ih =>
      obtain ⟨hc, hfront⟩ := List.forall_mem_cons.mp hfront
      rw [List.cons_append, split, hc, ih hfront]
      rfl
  unfold words wordsAfter
  rw [hsplit]
  exact ⟨List.flatMap_cons, rfl⟩

/-- Letters and numbers alone are one piece after a small letter, too. -/
theorem wordsAfter_of_forall_isAlphanumeric {cs : List Char}
    (h : ∀ c ∈ cs, Letter.isAlphanumeric c = true) : wordsAfter cs = afterSmall cs := by
  unfold wordsAfter
  rw [split_of_forall_not fun c hc => by rw [h c hc]; rfl]
  simp

/-- Words after a small letter do not go over a separator either. -/
theorem wordsAfter_append_sep (cs : List Char) {sep : Char}
    (hsep : Letter.isAlphanumeric sep = false) (ds : List Char) :
    wordsAfter (cs ++ sep :: ds) = wordsAfter cs ++ words ds := by
  obtain ⟨piece, pieces, hs⟩ :=
    List.exists_cons_of_ne_nil (split_ne_nil (!Letter.isAlphanumeric ·) cs)
  unfold wordsAfter words
  rw [split_append cs (by rw [hsep]; rfl), hs]
  simp

/-- There is always the rest of the first word. -/
theorem wordsAfter_ne_nil (cs : List Char) : wordsAfter cs ≠ [] := by
  obtain ⟨piece, ws, h⟩ := exists_first_piece cs
  have hafter := (h [] (by simp)).2
  rw [List.nil_append] at hafter
  rw [hafter]
  exact List.append_ne_nil_of_left_ne_nil (afterSmall_ne_nil _) ws

/-- A title consists of letters. -/
theorem IsTitle.forall_isAlphanumeric {cs : List Char} (h : IsTitle cs) :
    ∀ c ∈ cs, Letter.isAlphanumeric c = true := by
  match cs, h with
  | C :: c :: cs, ⟨hC, hc, hcs⟩ =>
    simp only [List.forall_mem_cons]
    exact ⟨hC.1, hc.1, fun d hd => (hcs d hd).1⟩

/-- The words of a text that begins with a title: what follows the title is read in the same way
after all titles. -/
theorem words_title_append {cs : List Char} (h : IsTitle cs) (ds : List Char) :
    words (cs ++ ds) = (wordsAfter ds).modifyHead (cs ++ ·) := by
  obtain ⟨piece, ws, hpiece⟩ := exists_first_piece ds
  have hafter := (hpiece [] (by simp)).2
  rw [List.nil_append, List.nil_append] at hafter
  rw [(hpiece cs h.forall_isAlphanumeric).1, wordsOfPiece_title h, hafter]
  obtain ⟨w, rest, hw⟩ := List.exists_cons_of_ne_nil (afterSmall_ne_nil piece)
  rw [hw]
  rfl

section

variable {C c : Char} {cs : List Char}

/-- A capital before a small letter begins a word after a piece in which a letter has case. After
a small letter it does so after any piece. -/
theorem words_append_capital (hC : IsCapital C) (hc : IsSmall c)
    (hcs : ∀ d ∈ cs, Letter.isAlphanumeric d = true) (ds : List Char) :
    (cs ≠ [] → cs.foldl CaseMode.next .unknown ≠ .unknown →
      words (cs ++ C :: c :: ds) = words cs ++ words (C :: c :: ds)) ∧
    wordsAfter (cs ++ C :: c :: ds) = wordsAfter cs ++ words (C :: c :: ds) := by
  obtain ⟨piece, ws, hpiece⟩ := exists_first_piece ds
  have hcapital : ∀ d ∈ [C, c], Letter.isAlphanumeric d = true := by
    simp [hC.1, hc.1]
  have hwhole := hpiece (cs ++ [C, c]) (List.forall_mem_append.mpr ⟨hcs, hcapital⟩)
  have hrest := (hpiece [C, c] hcapital).1
  simp only [List.append_assoc, List.cons_append, List.nil_append] at hwhole hrest
  constructor
  · intro hne hcased
    rw [hwhole.1, hrest, words_of_forall_isAlphanumeric hcs,
      wordsOfPiece_append_capital hC hc piece hne hcased, List.append_assoc]
  · rw [hwhole.2, hrest, wordsAfter_of_forall_isAlphanumeric hcs,
      afterSmall_append_capital hC hc, List.append_assoc]

/-- A piece without case is one word. -/
theorem words_of_caseless (hcs : ∀ d ∈ cs, Letter.isAlphanumeric d = true) (hne : cs ≠ [])
    (hcaseless : ∀ d ∈ cs, IsCaseless d) : words cs = [cs] := by
  -- The word is open until its last character.
  have hlast : wordsOfPiece .unknown [] (cs.dropLast ++ [cs.getLast hne]) =
      (wordsOfPiece .unknown [] [cs.getLast hne]).modifyHead (cs.dropLast ++ ·) :=
    wordsOfPiece_append_of_caseless (by simp) fun d hd =>
      hcaseless d (List.dropLast_subset cs hd)
  rw [List.dropLast_concat_getLast] at hlast
  rw [words_of_forall_isAlphanumeric hcs, hlast]
  simp [wordsOfPiece, List.dropLast_concat_getLast hne]

/-- It goes on with the first word of what follows it. -/
theorem words_append_of_caseless (hcs : ∀ d ∈ cs, Letter.isAlphanumeric d = true)
    (hcaseless : ∀ d ∈ cs, IsCaseless d) (hC : Letter.isAlphanumeric C = true)
    (ds : List Char) : words (cs ++ C :: ds) = (words (C :: ds)).modifyHead (cs ++ ·) := by
  obtain ⟨piece, ws, hpiece⟩ := exists_first_piece ds
  have hletter : ∀ d ∈ [C], Letter.isAlphanumeric d = true := by
    simp [hC]
  have hwhole := (hpiece (cs ++ [C]) (List.forall_mem_append.mpr ⟨hcs, hletter⟩)).1
  have hrest := (hpiece [C] hletter).1
  simp only [List.append_assoc, List.cons_append, List.nil_append] at hwhole hrest
  obtain ⟨w, rest, hw⟩ :=
    List.exists_cons_of_ne_nil (wordsOfPiece_ne_nil (by simp : C :: piece ≠ []) .unknown [])
  rw [hwhole, hrest, wordsOfPiece_append_of_caseless (by simp) hcaseless, hw]
  rfl

/-- How a title joins what stands before it, somewhere after another title. It is cut off, or it is
read on after characters without case. -/
theorem wordsAfter_append_cases (cs : List Char) :
    (∀ {C c}, IsCapital C → IsSmall c → ∀ ds,
      wordsAfter (cs ++ C :: c :: ds) = wordsAfter cs ++ words (C :: c :: ds)) ∨
    ∃ ws piece, ws ≠ [] ∧ piece ≠ [] ∧ (∀ c ∈ piece, IsCaseless c) ∧
      wordsAfter cs = ws ++ [piece] ∧
      ∀ {C c}, IsCapital C → IsSmall c → ∀ ds,
        wordsAfter (cs ++ C :: c :: ds) = ws ++ (words (C :: c :: ds)).modifyHead (piece ++ ·) := by
  obtain ⟨piece, hpiece, hcs⟩ := exists_last_piece (!Letter.isAlphanumeric ·) cs
  simp only [Bool.not_eq_false', Bool.not_eq_true'] at hpiece hcs
  rcases hcs with rfl | ⟨before, sep, hsep, rfl⟩
  · exact Or.inl fun hC hc ds => (words_append_capital hC hc hpiece ds).2
  · -- Before the separator nothing changes. What counts is whether the case of the last piece is
    -- known.
    simp only [List.append_assoc, List.cons_append, wordsAfter_append_sep before hsep]
    by_cases hne : piece = []
    · left
      intro C c hC hc ds
      rw [hne]
      simp [words, split, wordsOfPiece]
    · by_cases hcased : piece.foldl CaseMode.next .unknown = .unknown
      · have hcaseless := (isCaseless_of_foldl_next hcased).2
        refine Or.inr ⟨wordsAfter before, piece, wordsAfter_ne_nil before, hne, hcaseless, ?_, ?_⟩
        · rw [words_of_caseless hpiece hne hcaseless]
        · intro C c hC hc ds
          rw [words_append_of_caseless hpiece hcaseless hC.1]
      · left
        intro C c hC hc ds
        rw [(words_append_capital hC hc hpiece ds).1 hne hcased]

end

/-! ### Camel case -/

/-- A word in lowercase is made letter by letter, but for a capital sigma at the end. -/
theorem lowerWord_append {cs : List Char} (h : 'Σ' ∉ cs) (ds : List Char) :
    lowerWord (cs ++ ds) = lowerWord cs ++ lowerWord ds := by
  induction cs with
  | nil => rfl
  | cons c cs ih =>
    obtain ⟨hc, hcs⟩ := not_or.mp (mt List.mem_cons.mpr h)
    cases cs with
    | nil =>
      cases ds with
      | nil => simp [lowerWord]
      | cons d ds => simp [lowerWord, Ne.symm hc]
    | cons d cs =>
      rw [List.cons_append, List.cons_append, lowerWord, ← List.cons_append, ih hcs, lowerWord,
        List.append_assoc]

/-- What becomes of a text after a title. -/
def camelAfter (cs : List Char) : List Char :=
  match wordsAfter cs with
  | [] => []
  | w :: ws => lowerWord w ++ ws.flatMap capitalize

/-- The capital sigma is not in a title. -/
theorem IsTitle.sigma_not_mem {cs : List Char} (h : IsTitle cs) : 'Σ' ∉ cs := by
  have hsmall : ¬IsSmall 'Σ' := by decide +kernel
  match cs, h with
  | C :: c :: cs, ⟨hC, hc, hcs⟩ =>
    simp only [List.mem_cons]
    rintro (rfl | rfl | hmem)
    · exact hC.2.2.2.2 rfl
    · exact hsmall hc
    · exact hsmall (hcs _ hmem)

/-- Small letters are in lowercase. -/
theorem lowerWord_of_small {cs : List Char} (h : ∀ c ∈ cs, IsSmall c) : lowerWord cs = cs := by
  have hsmall : ¬IsSmall 'Σ' := by decide +kernel
  induction cs with
  | nil => rfl
  | cons c cs ih =>
    obtain ⟨hc, hcs⟩ := List.forall_mem_cons.mp h
    have hne : c ≠ 'Σ' := by
      rintro rfl
      exact hsmall hc
    cases cs with
    | nil => simp [lowerWord, hne, hc.2.2.2]
    | cons d cs => rw [lowerWord, hc.2.2.2, ih hcs, List.singleton_append]

/-- A capitalized word that begins with a title keeps it. -/
theorem capitalize_title_append {cs : List Char} (h : IsTitle cs) (ds : List Char) :
    capitalize (cs ++ ds) = cs ++ lowerWord ds := by
  have hsigma := h.sigma_not_mem
  match cs, h with
  | C :: c :: cs, ⟨hC, hc, hcs⟩ =>
    have hrest : 'Σ' ∉ c :: cs := fun hmem => hsigma (List.mem_cons_of_mem C hmem)
    rw [List.cons_append, capitalize, hC.2.2.2.1, lowerWord_append hrest,
      lowerWord_of_small (List.forall_mem_cons.mpr ⟨hc, hcs⟩)]
    rfl

/-- Lower camel case of a text that begins with a title. -/
theorem lowerCamelChars_title_append {cs : List Char} (h : IsTitle cs) (ds : List Char) :
    lowerCamelChars (cs ++ ds) = lowerWord cs ++ camelAfter ds := by
  obtain ⟨w, ws, hw⟩ := List.exists_cons_of_ne_nil (wordsAfter_ne_nil ds)
  unfold lowerCamelChars camelAfter
  rw [words_title_append h, hw]
  simp [lowerWord_append h.sigma_not_mem]

/-- Upper camel case of such a text. -/
theorem upperCamelChars_title_append {cs : List Char} (h : IsTitle cs) (ds : List Char) :
    upperCamelChars (cs ++ ds) = cs ++ camelAfter ds := by
  obtain ⟨w, ws, hw⟩ := List.exists_cons_of_ne_nil (wordsAfter_ne_nil ds)
  unfold upperCamelChars camelAfter
  rw [words_title_append h, hw]
  simp [capitalize_title_append h]

/-- A word without case is capitalized on its own. -/
theorem capitalize_append_of_caseless {cs : List Char} (hne : cs ≠ [])
    (h : ∀ c ∈ cs, IsCaseless c) (ds : List Char) :
    capitalize (cs ++ ds) = capitalize cs ++ lowerWord ds := by
  have hsigma : ¬IsCaseless 'Σ' := by
    unfold IsCaseless
    decide +kernel
  obtain ⟨c, cs, rfl⟩ := List.exists_cons_of_ne_nil hne
  have hrest : 'Σ' ∉ cs := fun hmem => hsigma (h 'Σ' (List.mem_cons_of_mem c hmem))
  rw [List.cons_append, capitalize, capitalize, lowerWord_append hrest, List.append_assoc]

/-- A title begins with a capital before a small letter, whatever follows it. -/
theorem IsTitle.exists_append_eq {title : List Char} (h : IsTitle title) (ds : List Char) :
    ∃ C c rest, title ++ ds = C :: c :: rest ∧ IsCapital C ∧ IsSmall c := by
  match title, h with
  | C :: c :: title, ⟨hC, hc, _⟩ => exact ⟨C, c, title ++ ds, rfl, hC, hc⟩

/-- A title that is cut off from what stands before it keeps its capital. -/
theorem camelAfter_of_cut {title cs ds : List Char} (htitle : IsTitle title)
    (hcut : wordsAfter (cs ++ (title ++ ds)) = wordsAfter cs ++ words (title ++ ds)) :
    camelAfter (cs ++ (title ++ ds)) = camelAfter cs ++ (title ++ camelAfter ds) := by
  obtain ⟨w, ws, hw⟩ := List.exists_cons_of_ne_nil (wordsAfter_ne_nil cs)
  rw [← upperCamelChars_title_append htitle]
  unfold camelAfter upperCamelChars
  rw [hcut, hw]
  simp

/-- Somewhere after another title, letters and numbers alone do not take its capital away. -/
theorem camelAfter_append_title {cs title : List Char}
    (hcs : ∀ c ∈ cs, Letter.isAlphanumeric c = true) (htitle : IsTitle title) (ds : List Char) :
    camelAfter (cs ++ (title ++ ds)) = camelAfter cs ++ (title ++ camelAfter ds) := by
  obtain ⟨C, c, rest, hrest, hC, hc⟩ := htitle.exists_append_eq ds
  refine camelAfter_of_cut htitle ?_
  rw [hrest]
  exact (words_append_capital hC hc hcs rest).2

/-- How a title with what follows it joins what stands before it, somewhere after another title: it
keeps its capital or it loses it, and either way the rest is read as after any title. Which one it
is depends on what stands before it alone. -/
theorem camelAfter_append_cases (cs : List Char) :
    (∀ title, IsTitle title → ∀ ds,
      camelAfter (cs ++ (title ++ ds)) = camelAfter cs ++ (title ++ camelAfter ds)) ∨
    ∀ title, IsTitle title → ∀ ds,
      camelAfter (cs ++ (title ++ ds)) = camelAfter cs ++ (lowerWord title ++ camelAfter ds) := by
  rcases wordsAfter_append_cases cs with hcut | ⟨ws, piece, hws, hne, hcaseless, hcs, hjoin⟩
  · refine Or.inl fun title htitle ds => ?_
    obtain ⟨C, c, rest, hrest, hC, hc⟩ := htitle.exists_append_eq ds
    refine camelAfter_of_cut htitle ?_
    rw [hrest]
    exact hcut hC hc rest
  · refine Or.inr fun title htitle ds => ?_
    obtain ⟨w, ws, rfl⟩ := List.exists_cons_of_ne_nil hws
    obtain ⟨C, c, rest, hrest, hC, hc⟩ := htitle.exists_append_eq ds
    obtain ⟨v, vs, hv⟩ := words_cons hC.1 (c :: rest)
    rw [← lowerCamelChars_title_append htitle, hrest]
    unfold camelAfter lowerCamelChars
    rw [hjoin hC hc, hcs, hv]
    simp [capitalize_append_of_caseless hne hcaseless]

end RecordSql.Text
