import RecordSql.Proofs.ColumnNames
import RecordSql.Sql.Render

/-!
# `RecordSql.Proofs.Comparisons`: reading a comparison back

A comparison of a column with a value is a text, and nothing in it is quoted. It can still be
read back if the column is `Legible`: its name has neither white space nor a character that means
something in a comparison, and its function has no white space. The function may be any text
otherwise, such as `coalesce(a,b)=f` or `$1`. A space in a comparison then stands around `LIKE`, and
what has no space is read from its end: no plain comparison ends in a parenthesis, and the last
comma and the parenthesis before it are not those of the function.

`predicate_inj` reads one comparison back with whatever follows it in a condition: equal texts
compare the same column in the same way (`Field.ComparesAs`). How a value is written does not
matter, because values at the same place are written in the same way.
-/

set_option autoImplicit false

namespace RecordSql.Text

/-! ### Cutting texts apart -/

/-- A text is empty or begins with a word. -/
def EmptyOr (word cs : List Char) : Prop :=
  cs = [] ∨ word <+: cs

/-- A text that is empty or begins with a word is empty or begins with its first letter. -/
theorem EmptyOr.first {c : Char} {word cs : List Char} (h : EmptyOr (c :: word) cs) :
    EmptyOr [c] cs := by
  rcases h with rfl | ⟨more, rfl⟩
  · exact Or.inl rfl
  · exact Or.inr ⟨word ++ more, rfl⟩

/-- Two texts are cut at the first place of a character that is in neither of their first
parts. -/
theorem append_inj_of_emptyOr {c : Char} {as bs rs ss : List Char} (ha : c ∉ as) (hb : c ∉ bs)
    (hr : EmptyOr [c] rs) (hs : EmptyOr [c] ss) (h : as ++ rs = bs ++ ss) :
    as = bs ∧ rs = ss := by
  induction as generalizing bs with
  | nil =>
    cases bs with
    | nil => exact ⟨rfl, h⟩
    | cons b bs =>
      -- The rest would begin within the longer first part.
      rcases hr with rfl | ⟨more, rfl⟩
      · cases h
      · rw [List.nil_append, List.singleton_append, List.cons_append] at h
        cases h
        exact absurd List.mem_cons_self hb
  | cons a as ih =>
    cases bs with
    | nil =>
      rcases hs with rfl | ⟨more, rfl⟩
      · cases h
      · rw [List.nil_append, List.singleton_append, List.cons_append] at h
        cases h
        exact absurd List.mem_cons_self ha
    | cons b bs =>
      rw [List.cons_append, List.cons_append] at h
      obtain ⟨hab, h⟩ := List.cons.inj h
      obtain ⟨htail, hrest⟩ := ih (fun hc => ha (List.mem_cons_of_mem a hc))
        (fun hc => hb (List.mem_cons_of_mem b hc)) h
      exact ⟨by rw [hab, htail], hrest⟩

/-- Two texts are cut at the last place of a character that is in neither of their last parts. -/
theorem append_cons_inj_of_not_mem {c : Char} {as bs rs ss : List Char} (hr : c ∉ rs)
    (hs : c ∉ ss) (h : as ++ c :: rs = bs ++ c :: ss) : as = bs ∧ rs = ss := by
  have hreverse : rs.reverse ++ c :: as.reverse = ss.reverse ++ c :: bs.reverse := by
    simpa using congrArg List.reverse h
  have hcut := append_inj_of_emptyOr (by simpa using hr) (by simpa using hs)
    (Or.inr ⟨as.reverse, rfl⟩) (Or.inr ⟨bs.reverse, rfl⟩) hreverse
  obtain ⟨hrest, hfirst⟩ := hcut
  exact ⟨by simpa using hfirst, List.reverse_injective hrest⟩

end RecordSql.Text

namespace RecordSql

open RecordSql.Text (EmptyOr IsNameChar append_inj_of_emptyOr append_cons_inj_of_not_mem)
open RecordSql.Sql (Dialect predicate)

/-! ### Legible columns -/

/-- White space, or a character that means something in a comparison. -/
def Sql.IsMark (c : Char) : Prop :=
  Text.isBlank c = true ∨ c ∈ ['(', ')', ',', '=', '?', '$']

instance (c : Char) : Decidable (Sql.IsMark c) :=
  inferInstanceAs (Decidable (_ ∨ _))

/-- Names of loaded columns have no marks. -/
theorem Sql.not_isMark_of_isNameChar {c : Char} (hc : IsNameChar c) : ¬IsMark c := by
  rintro (hblank | hmark)
  · rw [hc.1] at hblank
    cases hblank
  · simp only [List.mem_cons, List.not_mem_nil, or_false] at hmark
    rcases hmark with rfl | rfl | rfl | rfl | rfl | rfl <;> exact absurd hc (by decide)

/-- The name of a column has no marks, and its function has no white space. -/
structure Field.Legible (f : Field) : Prop where
  name : ∀ c ∈ f.name.toList, ¬Sql.IsMark c
  function : ∀ function, f.operator = .call function → ∀ c ∈ function.toList,
    Text.isBlank c = false

/-- Two columns have the same name and are compared in the same way. -/
structure Field.ComparesAs (f g : Field) : Prop where
  name : f.name = g.name
  operator : f.operator = g.operator
  valueFirst : ∀ function, f.operator = .call function → f.valueFirst = g.valueFirst

variable {f g : Field}

/-- Marks are not in the name of a legible column. -/
theorem Field.Legible.not_mem_name (hf : f.Legible) {c : Char} (hc : Sql.IsMark c) :
    c ∉ f.name.toList :=
  fun h => hf.name c h hc

/-- White space is not in its function. -/
theorem Field.Legible.not_mem_function (hf : f.Legible) {function : String}
    (h : f.operator = .call function) {c : Char} (hc : Text.isBlank c = true) :
    c ∉ function.toList := by
  intro hmem
  rw [hf.function function h c hmem] at hc
  cases hc

/-- Columns that are compared in the same way have the same comparison in every dialect. -/
theorem Field.ComparesAs.predicate_eq (h : f.ComparesAs g) (d : Dialect) (position : Nat) :
    predicate d f position = predicate d g position := by
  unfold predicate
  rw [← h.operator, ← h.name]
  cases hop : f.operator with
  | equal => rfl
  | like => rfl
  | call function =>
    dsimp only
    rw [h.valueFirst function hop]

namespace Sql

/-! ### One comparison -/

variable {d : Dialect} {position : Nat}

/-- What stands in placeholders is a digit or begins one. -/
theorem not_mem_placeholder {c : Char} (hdigit : c.isDigit = false) (hmark : c ≠ '?')
    (hdollar : c ≠ '$') (d : Dialect) (position : Nat) : c ∉ (d.placeholder position).toList := by
  have hdigits := Text.not_mem_toDigits hdigit (position + 1)
  cases d <;> simp [Dialect.placeholder, hdigits, hmark, hdollar]

/-- A character that stands neither in names nor in placeholders. -/
def Separates (c : Char) : Prop :=
  IsMark c ∧ c.isDigit = false ∧ c ≠ '?' ∧ c ≠ '$'

instance (c : Char) : Decidable (Separates c) :=
  inferInstanceAs (Decidable (_ ∧ _))

theorem Separates.not_mem_name {c : Char} (hc : Separates c) (hf : f.Legible) :
    c ∉ f.name.toList :=
  hf.not_mem_name hc.1

theorem Separates.not_mem_placeholder {c : Char} (hc : Separates c) (d : Dialect)
    (position : Nat) : c ∉ (d.placeholder position).toList :=
  Sql.not_mem_placeholder hc.2.1 hc.2.2.1 hc.2.2.2 d position

/-- No name is a placeholder. -/
theorem name_ne_placeholder (hf : f.Legible) (d : Dialect) (position : Nat) :
    f.name.toList ≠ (d.placeholder position).toList := by
  intro h
  have hmark : '?' ∉ f.name.toList := hf.not_mem_name (by decide)
  have hdollar : '$' ∉ f.name.toList := hf.not_mem_name (by decide)
  rw [h] at hmark hdollar
  cases d <;> simp [Dialect.placeholder] at hmark hdollar

/-- The first word of a comparison. It is the whole comparison unless this is a `LIKE`. -/
def firstWord (d : Dialect) (f : Field) (position : Nat) : List Char :=
  if f.operator = .like then f.name.toList else (predicate d f position).toList

/-- The other words, with the space before them. -/
def otherWords (d : Dialect) (f : Field) (position : Nat) : List Char :=
  if f.operator = .like then " LIKE ".toList ++ (d.placeholder position).toList else []

theorem toList_predicate (d : Dialect) (f : Field) (position : Nat) :
    (predicate d f position).toList = firstWord d f position ++ otherWords d f position := by
  unfold firstWord otherWords
  by_cases hop : f.operator = .like
  · simp [predicate, hop]
  · simp [hop]

/-- The arguments of a function in their order. -/
def arguments (d : Dialect) (f : Field) (position : Nat) : String × String :=
  if f.valueFirst then (d.placeholder position, f.name) else (f.name, d.placeholder position)

theorem toList_predicate_call {function : String} (h : f.operator = .call function)
    (d : Dialect) (position : Nat) :
    (predicate d f position).toList = function.toList ++ '(' :: ((arguments d f position).1.toList
      ++ ',' :: ((arguments d f position).2.toList ++ [')'])) := by
  unfold predicate arguments
  rw [h]
  dsimp only
  split <;> simp

/-- No space and no end of a line stands in the first word. -/
theorem not_mem_firstWord (hf : f.Legible) {c : Char} (hc : c = ' ' ∨ c = '\n')
    (d : Dialect) (position : Nat) : c ∉ firstWord d f position := by
  have hblank : Text.isBlank c = true := by rcases hc with rfl | rfl <;> rfl
  have hsep : Separates c := by rcases hc with rfl | rfl <;> decide
  have hmarks : c ≠ '=' ∧ c ≠ '(' ∧ c ≠ ',' ∧ c ≠ ')' := by rcases hc with rfl | rfl <;> decide
  have hname := hsep.not_mem_name hf
  have hvalue := hsep.not_mem_placeholder d position
  unfold firstWord
  split
  · exact hname
  · cases hop : f.operator with
    | equal => simp [predicate, hop, hname, hvalue, hmarks]
    | like => contradiction
    | call function =>
      have hfunction := hf.not_mem_function hop hblank
      rw [toList_predicate_call hop]
      unfold arguments
      split <;> simp [hname, hvalue, hfunction, hmarks]

/-- No comparison goes over the end of a line. -/
theorem not_mem_predicate (hf : f.Legible) (d : Dialect) (position : Nat) :
    '\n' ∉ (predicate d f position).toList := by
  have hsep : Separates '\n' := by decide
  have hother : '\n' ∉ otherWords d f position := by
    unfold otherWords
    split <;> simp [hsep.not_mem_placeholder]
  rw [toList_predicate, List.mem_append]
  rintro (h | h)
  · exact not_mem_firstWord hf (Or.inr rfl) d position h
  · exact hother h

/-- The arguments of a function are a name and a placeholder. -/
theorem not_mem_arguments (hf : f.Legible) {c : Char} (hc : Separates c) (d : Dialect)
    (position : Nat) :
    c ∉ (arguments d f position).1.toList ∧ c ∉ (arguments d f position).2.toList := by
  have hname := hc.not_mem_name hf
  have hvalue := hc.not_mem_placeholder d position
  unfold arguments
  split
  · exact ⟨hvalue, hname⟩
  · exact ⟨hname, hvalue⟩

/-- The same arguments are the same column, at the same place. -/
theorem eq_of_arguments_eq (hf : f.Legible)
    (h : arguments d f position = arguments d g position) :
    f.name = g.name ∧ f.valueFirst = g.valueFirst := by
  -- If the places differ, the name of a column is a placeholder.
  have hne : f.name ≠ d.placeholder position := by
    intro heq
    exact name_ne_placeholder hf d position (congrArg String.toList heq)
  unfold arguments at h
  cases hvf : f.valueFirst <;> cases hvg : g.valueFirst <;>
    simp only [hvf, hvg, if_true, if_false, Bool.false_eq_true, Prod.mk.injEq] at h
  · exact ⟨h.1, rfl⟩
  · exact absurd h.1 hne
  · exact absurd h.2 hne
  · exact ⟨h.2, rfl⟩

/-- Calls with the same text are of the same function with the same arguments. -/
theorem comparesAs_of_call (hf : f.Legible) (hg : g.Legible) {function function' : String}
    (hfop : f.operator = .call function) (hgop : g.operator = .call function')
    (h : (predicate d f position).toList = (predicate d g position).toList) :
    f.ComparesAs g := by
  have hcomma : ∀ {k : Field}, k.Legible → ',' ∉ (arguments d k position).2.toList ++ [')'] := by
    intro k hk
    have hsecond := (not_mem_arguments hk (show Separates ',' by decide) d position).2
    simp [hsecond]
  have hopen : ∀ {k : Field}, k.Legible → '(' ∉ (arguments d k position).1.toList := by
    intro k hk
    exact (not_mem_arguments hk (by decide) d position).1
  -- From the back: the second argument, then the first, then the function.
  have hcall : (function.toList ++ '(' :: (arguments d f position).1.toList)
        ++ ',' :: ((arguments d f position).2.toList ++ [')'])
      = (function'.toList ++ '(' :: (arguments d g position).1.toList)
        ++ ',' :: ((arguments d g position).2.toList ++ [')']) := by
    rw [toList_predicate_call hfop, toList_predicate_call hgop] at h
    simpa using h
  obtain ⟨hfirst, hsecond⟩ := append_cons_inj_of_not_mem (hcomma hf) (hcomma hg) hcall
  obtain ⟨hfunction, hfirst⟩ := append_cons_inj_of_not_mem (hopen hf) (hopen hg) hfirst
  have hsecond := List.append_cancel_right hsecond
  obtain ⟨hname, hvalue⟩ := eq_of_arguments_eq hf
    (Prod.ext (String.toList_inj.mp hfirst) (String.toList_inj.mp hsecond))
  exact ⟨hname, by rw [hfop, hgop, String.toList_inj.mp hfunction], fun _ _ => hvalue⟩

/-- A plain comparison is not a call of a function. -/
theorem equal_ne_call (hf : f.Legible) {function : String} (hfop : f.operator = .equal)
    (hgop : g.operator = .call function) :
    (predicate d f position).toList ≠ (predicate d g position).toList := by
  intro h
  have hsep : Separates ')' := by decide
  have hplain : ')' ∉ (predicate d f position).toList := by
    simp [predicate, hfop, hsep.not_mem_name hf, hsep.not_mem_placeholder]
  rw [h, toList_predicate_call hgop] at hplain
  simp at hplain

/-- Comparisons of one word with the same text compare the same column in the same way. -/
theorem comparesAs_of_predicate (hf : f.Legible) (hg : g.Legible) (hfop : f.operator ≠ .like)
    (hgop : g.operator ≠ .like)
    (h : (predicate d f position).toList = (predicate d g position).toList) :
    f.ComparesAs g := by
  cases hf' : f.operator with
  | like => contradiction
  | equal =>
    cases hg' : g.operator with
    | like => contradiction
    | equal =>
      have hname : f.name.toList = g.name.toList := by
        simpa [predicate, hf', hg'] using h
      refine ⟨String.toList_inj.mp hname, by rw [hf', hg'], ?_⟩
      intro function hcall
      rw [hf'] at hcall
      cases hcall
    | call function => exact absurd h (equal_ne_call hf hf' hg')
  | call function =>
    cases hg' : g.operator with
    | like => contradiction
    | equal => exact absurd h.symm (equal_ne_call hg hg' hf')
    | call function' => exact comparesAs_of_call hf hg hf' hg' h

/-- A comparison can be read back, whatever condition it is part of. -/
theorem predicate_inj (hf : f.Legible) (hg : g.Legible) {rs ss : List Char}
    (hr : EmptyOr [' ', 'A'] rs) (hs : EmptyOr [' ', 'A'] ss)
    (h : (predicate d f position).toList ++ rs = (predicate d g position).toList ++ ss) :
    f.ComparesAs g ∧ rs = ss := by
  rw [toList_predicate, toList_predicate, List.append_assoc, List.append_assoc] at h
  have hspace : ∀ k : Field, ∀ {ts : List Char}, EmptyOr [' ', 'A'] ts →
      EmptyOr [' '] (otherWords d k position ++ ts) := by
    intro k ts hts
    unfold otherWords
    split
    · exact Or.inr ⟨_, rfl⟩
    · exact hts.first
  obtain ⟨hfirst, hother⟩ := append_inj_of_emptyOr (not_mem_firstWord hf (Or.inl rfl) d position)
    (not_mem_firstWord hg (Or.inl rfl) d position) (hspace f hr) (hspace g hs) h
  -- What follows `LIKE` cannot be what follows a comparison.
  have hlike : ∀ {ts : List Char}, EmptyOr [' ', 'A'] ts → ∀ more,
      " LIKE ".toList ++ more ≠ ts := by
    rintro ts (rfl | ⟨rest, rfl⟩) more heq
    · cases heq
    · cases heq
  by_cases hfop : f.operator = .like
  · by_cases hgop : g.operator = .like
    · simp only [firstWord, otherWords, if_pos hfop, if_pos hgop] at hfirst hother
      refine ⟨⟨String.toList_inj.mp hfirst, by rw [hfop, hgop], ?_⟩,
        List.append_cancel_left hother⟩
      intro function hcall
      rw [hfop] at hcall
      cases hcall
    · simp only [otherWords, if_pos hfop, if_neg hgop, List.append_assoc, List.nil_append] at hother
      exact absurd hother (hlike hs _)
  · by_cases hgop : g.operator = .like
    · simp only [otherWords, if_neg hfop, if_pos hgop, List.append_assoc, List.nil_append] at hother
      exact absurd hother.symm (hlike hr _)
    · simp only [firstWord, otherWords, if_neg hfop, if_neg hgop, List.nil_append] at hfirst hother
      exact ⟨comparesAs_of_predicate hf hg hfop hgop hfirst, hother⟩

end Sql

end RecordSql
