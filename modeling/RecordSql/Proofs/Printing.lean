import Mathlib.Tactic.SplitIfs
import RecordSql.Document.Printer
import RecordSql.Proofs.Numerals

/-!
# `RecordSql.Proofs.Printing`: what is printed is a document

The printer writes texts of the grammar (`isDocument_printLines`): a string with its
escapes spells the string, whatever characters it has, and the new lines with their spaces are
white space between tokens.
-/

set_option autoImplicit false

namespace RecordSql.Document

/-! ### Strings -/

/-- The digits that the printer writes are those of the grammar. -/
theorem isHexDigit_hexDigit {n : Nat} (h : n < 16) : IsHexDigit (hexDigit n) n := by
  have hall : ∀ n < 16, "0123456789abcdef".toList[n]? = some (hexDigit n) := by decide
  exact ⟨_, List.mem_cons_self, hall n h⟩

/-- A character as it is written spells the character. -/
theorem SpellsChars.escape_append (c : Char) {text cs : List Char} (h : SpellsChars text cs) :
    SpellsChars (escape c ++ text) (c :: cs) := by
  have hshort : ∀ {d letter : Char}, (c == d) = true → (letter, d) ∈ shortEscapes →
      SpellsChars (['\\', letter] ++ text) (c :: cs) := by
    intro d letter hd hletter
    rw [beq_iff_eq.mp hd]
    exact .short hletter h
  unfold escape
  split_ifs with hquote hbackslash hback hform hline hreturn htab hcontrol
  · exact hshort hquote (by decide)
  · exact hshort hbackslash (by decide)
  · exact hshort hback (by decide)
  · exact hshort hform (by decide)
  · exact hshort hline (by decide)
  · exact hshort hreturn (by decide)
  · exact hshort htab (by decide)
  · -- A control character is given by its code, of which the first two digits are zeros.
    have hzero : IsHexDigit '0' 0 := isHexDigit_hexDigit (by decide)
    have hhigh : IsHexDigit (hexDigit (c.toNat / 16)) (c.toNat / 16) :=
      isHexDigit_hexDigit (by omega)
    have hlow : IsHexDigit (hexDigit (c.toNat % 16)) (c.toNat % 16) :=
      isHexDigit_hexDigit (Nat.mod_lt _ (by decide))
    have hvalue : c.toNat = 16 * (16 * (16 * 0 + 0) + c.toNat / 16) + c.toNat % 16 := by omega
    exact .unit ⟨_, _, _, _, _, _, _, _, rfl, hzero, hzero, hhigh, hlow, hvalue⟩ h
  · exact .plain (by simpa using hquote) (by simpa using hbackslash) (Nat.le_of_not_lt hcontrol) h

/-- A string between its quotes spells the string. -/
theorem spellsString_quote (s : String) : SpellsString (quote s) s := by
  refine ⟨s.toList.flatMap escape, ?_, rfl⟩
  induction s.toList with
  | nil => exact .nil
  | cons c cs ih => exact ih.escape_append c

/-! ### Values -/

/-- A new line is white space. -/
theorem isGap_newLine (depth : Nat) : IsGap (newLine depth) := by
  intro c hc
  rcases List.mem_cons.mp hc with rfl | hc
  · decide
  · rw [List.eq_of_mem_replicate hc]
    decide

/-- White space may be missing. -/
theorem isGap_nil : IsGap [] :=
  fun c hc => by cases hc

/-- Items with new lines before each and after the last. -/
theorem spells_items {depth : Nat} {v : Value} {vs : List Value}
    (h : ∀ w ∈ v :: vs, Spells (printAt depth w) (.value w)) {gap : List Char} (hgap : IsGap gap) :
    Spells (newLine depth ++ (printAt depth v ++ (printItems depth vs ++ gap))) (.items v vs) := by
  have hv := h v List.mem_cons_self
  induction vs generalizing v with
  | nil => exact .lastItem (isGap_newLine depth) hv hgap
  | cons w vs ih =>
    have hmore : ∀ u ∈ w :: vs, Spells (printAt depth u) (.value u) :=
      fun u hu => h u (List.mem_cons_of_mem v hu)
    have hitems := ih hmore (hmore w List.mem_cons_self)
    rw [printItems]
    simpa using Spells.item (isGap_newLine depth) hv isGap_nil hitems

/-- An entry with its key. -/
theorem spells_entry {depth : Nat} {e : String × Value}
    (h : Spells (printAt depth e.2) (.value e.2)) : Spells (printEntry depth e) (.entry e) := by
  obtain ⟨name, v⟩ := e
  have hspace : IsGap [' '] := fun c hc => List.mem_append_left ['\t', '\n', '\r'] hc
  rw [printEntry]
  simpa using Spells.entry (spellsString_quote name) isGap_nil hspace h

/-- Entries with new lines before each and after the last. -/
theorem spells_entries {depth : Nat} {e : String × Value} {es : List (String × Value)}
    (h : ∀ f ∈ e :: es, Spells (printAt depth f.2) (.value f.2)) {gap : List Char}
    (hgap : IsGap gap) :
    Spells (newLine depth ++ (printEntry depth e ++ (printEntries depth es ++ gap)))
      (.entries e es) := by
  have he := spells_entry (h e List.mem_cons_self)
  induction es generalizing e with
  | nil => exact .lastEntry (isGap_newLine depth) he hgap
  | cons f es ih =>
    have hmore : ∀ g ∈ f :: es, Spells (printAt depth g.2) (.value g.2) :=
      fun g hg => h g (List.mem_cons_of_mem e hg)
    have hentries := ih hmore (spells_entry (hmore f List.mem_cons_self))
    rw [printEntries]
    simpa using Spells.entries (isGap_newLine depth) he isGap_nil hentries

/-- A value as it is printed spells the value, at whatever depth it starts. -/
theorem Value.Fits.spells_printAt {room : Nat} {v : Value} (h : v.Fits room) (depth : Nat) :
    Spells (printAt depth v) (.value v) := by
  induction h generalizing depth with
  | null => exact .null
  | @bool room b =>
    cases b with
    | true => exact .true
    | false => exact .false
  | @natural room n hsize =>
    have hspells := Spells.natural (isWhole_toDigits n) hsize
    rwa [Numeral.ofDigits, Nat.ofDigitChars_ten_toDigits] at hspells
  | @real room literal hnumber hmore hsize =>
    have hspells := Spells.real hnumber hmore hsize
    rwa [String.ofList_toList] at hspells
  | string => exact .string (spellsString_quote _)
  | @array room vs _ ih =>
    cases vs with
    | nil => exact .emptyArray isGap_nil
    | cons v vs =>
      have hitems := spells_items (fun w hw => ih w hw (depth + 1)) (isGap_newLine depth)
      rw [printAt]
      simpa using Spells.array hitems
  | @object room es _ ih =>
    cases es with
    | nil => exact .emptyObject isGap_nil
    | cons e es =>
      have hentries := spells_entries (fun f hf => ih f hf (depth + 1)) (isGap_newLine depth)
      rw [printAt]
      simpa using Spells.object hentries

/-- A value as it is printed is a document of the value. -/
theorem isDocument_print {room : Nat} {v : Value} (h : v.Fits room) : IsDocument (print v) v := by
  refine ⟨[], printAt 0 v, [], isGap_nil, h.spells_printAt 0, isGap_nil, ?_⟩
  simp [print]

/-- The output of a list of values is a document of the list. -/
theorem isDocument_printLines {room : Nat} {vs : List Value} (h : ∀ v ∈ vs, v.Fits room) :
    IsDocument (printLines vs) (.array vs) := by
  have hspells := (Value.Fits.array h).spells_printAt 0
  have hend : IsGap ['\n'] := isGap_newLine 0
  refine ⟨[], printAt 0 (.array vs), ['\n'], isGap_nil, hspells, hend, ?_⟩
  simp [printLines, print]

end RecordSql.Document
