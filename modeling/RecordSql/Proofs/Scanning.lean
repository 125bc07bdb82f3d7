import RecordSql.Document.Token
import RecordSql.Proofs.Numerals

/-!
# `RecordSql.Proofs.Scanning`: the tokens of documents

The scanner gets through every text of the grammar and finds the tokens of the value that the
text spells (`Spells.scanFrom_append`). Nothing in the middle of a document is complete by
itself, so the statement has what follows the text in it. Only a number has to see its end: what
follows must not go on with it (`Ended`), and after a value no document does.
-/

set_option autoImplicit false

namespace RecordSql.Document

/-! ### The tokens of a value -/

mutual

/-- The tokens of a value. -/
def Value.tokens : Value → List Token
  | .null => [.null]
  | .bool b => [.bool b]
  | .natural n => [.natural n]
  | .real literal => [.real literal]
  | .string s => [.string s]
  | .array [] => [.openArray, .closeArray]
  | .array (v :: vs) => .openArray :: (v.tokens ++ (itemsTokens vs ++ [.closeArray]))
  | .object [] => [.openObject, .closeObject]
  | .object (e :: es) => .openObject :: (entryTokens e ++ (entriesTokens es ++ [.closeObject]))

/-- The tokens of further items. -/
def itemsTokens : List Value → List Token
  | [] => []
  | v :: vs => .comma :: (v.tokens ++ itemsTokens vs)

/-- The tokens of an entry. -/
def entryTokens : String × Value → List Token
  | (name, v) => .string name :: .colon :: v.tokens

/-- The tokens of further entries. -/
def entriesTokens : List (String × Value) → List Token
  | [] => []
  | e :: es => .comma :: (entryTokens e ++ entriesTokens es)

end

/-- The tokens of a phrase. -/
def Phrase.tokens : Phrase → List Token
  | .value v => v.tokens
  | .items v vs => v.tokens ++ itemsTokens vs
  | .entry e => entryTokens e
  | .entries e es => entryTokens e ++ entriesTokens es

/-! ### Gaps -/

/-- One more character that the scanner takes. -/
theorem scanFrom_cons {mode next : ScanMode} {c : Char} {tokens : List Token}
    (h : mode.step c = (tokens, some next)) (cs : List Char) :
    scanFrom mode (c :: cs) = tokens ++ scanFrom next cs := by
  rw [scanFrom, h]

/-- White space has no tokens. -/
theorem scanFrom_gap {gap : List Char} (h : IsGap gap) (rest : List Char) :
    scanFrom .between (gap ++ rest) = scanFrom .between rest := by
  induction gap with
  | nil => rfl
  | cons c gap ih =>
    have hstep : ScanMode.between.step c = ([], some .between) := by
      have hspaces : ∀ c ∈ [' ', '\t', '\n', '\r'],
          ScanMode.between.step c = ([], some .between) := List.all_iff_forall_prop.mp (by decide)
      exact hspaces c (h c List.mem_cons_self)
    rw [List.cons_append, scanFrom_cons hstep]
    exact ih fun d hd => h d (List.mem_cons_of_mem c hd)

/-- What may stand after a value. -/
def separators : List Char :=
  [' ', '\t', '\n', '\r', ',', ':', ']', '\x7d']

/-- The text goes on with none of what may stand in a number. -/
def Ended (rest : List Char) : Prop :=
  ∀ c ∈ rest.head?, c ∈ separators

/-- White space ends a value. -/
theorem Ended.gap_append {rest : List Char} (h : Ended rest) {gap : List Char} (hgap : IsGap gap) :
    Ended (gap ++ rest) := by
  cases gap with
  | nil => exact h
  | cons c gap =>
    intro d hd
    obtain rfl : c = d := Option.some.inj hd
    exact List.mem_append_left [',', ':', ']', '\x7d'] (hgap c List.mem_cons_self)

/-- A separator ends a value. -/
theorem ended_cons {c : Char} (hc : c ∈ separators) (rest : List Char) : Ended (c :: rest) := by
  intro d hd
  obtain rfl : c = d := Option.some.inj hd
  exact hc

/-! ### Numbers -/

/-- The scanner follows the machine for numbers. -/
theorem scanFrom_number {p q : Numeral.Phase} {cs : List Char} (h : p.run? cs = some q)
    (read rest : List Char) :
    scanFrom (.number p read) (cs ++ rest) = scanFrom (.number q (cs.reverse ++ read)) rest := by
  induction cs generalizing p read with
  | nil =>
    cases h
    rfl
  | cons c cs ih =>
    obtain ⟨next, hnext, hrun⟩ := Option.bind_eq_some_iff.mp h
    have hstep : (ScanMode.number p read).step c = ([], some (.number next (c :: read))) := by
      rw [ScanMode.step, hnext]
    rw [List.cons_append, scanFrom_cons hstep, List.nil_append, ih hrun, List.reverse_cons,
      List.append_assoc, List.singleton_append]

/-- No number goes on with a separator. -/
theorem next?_of_mem_separators {p : Numeral.Phase} (hp : p.isComplete = true) {c : Char}
    (hc : c ∈ separators) : p.next? c = none := by
  have hall : ∀ c ∈ separators, Numeral.Phase.zero.next? c = none ∧
      Numeral.Phase.integer.next? c = none ∧ Numeral.Phase.fraction.next? c = none ∧
      Numeral.Phase.exponent.next? c = none := List.all_iff_forall_prop.mp (by decide)
  obtain ⟨hzero, hinteger, hfraction, hexponent⟩ := hall c hc
  cases p <;> first | assumption | cases hp

/-- A complete number ends before a separator and at the end of the text. -/
theorem scanFrom_number_ended {p : Numeral.Phase} (hp : p.isComplete = true) (read : List Char)
    {rest : List Char} (hrest : Ended rest) :
    scanFrom (.number p read) rest = numberToken read :: scanFrom .between rest := by
  cases rest with
  | nil =>
    rw [scanFrom, ScanMode.close, if_pos hp]
    rfl
  | cons c cs =>
    have hc : c ∈ separators := hrest c rfl
    obtain ⟨tokens, hbegin⟩ : ∃ tokens, ScanMode.begin c = (tokens, some .between) := by
      have hall : ∀ c ∈ separators, (ScanMode.begin c).2 = some .between :=
        List.all_iff_forall_prop.mp (by decide)
      exact ⟨(ScanMode.begin c).1, Prod.ext rfl (hall c hc)⟩
    have hstep : (ScanMode.number p read).step c = (numberToken read :: tokens, some .between) := by
      rw [ScanMode.step, next?_of_mem_separators hp hc]
      dsimp only
      rw [if_pos hp, hbegin]
    rw [scanFrom_cons hstep, scanFrom_cons (show ScanMode.between.step c = _ from hbegin),
      List.cons_append]

/-- The scanner begins a number with its sign, or with what may follow one. -/
theorem begin_number {c : Char} {p : Numeral.Phase}
    (h : c = '-' ∧ p = .minus ∨ Numeral.Phase.minus.next? c = some p) :
    ScanMode.begin c = ([], some (.number p [c])) := by
  rcases h with ⟨rfl, rfl⟩ | h
  · rfl
  · have hdigit : c.isDigit = true := by
      by_contra hdigit
      have hzero : c ≠ '0' := fun heq => hdigit (by rw [heq]; rfl)
      simp [Numeral.Phase.next?, hzero, hdigit] at h
    have hall : ∀ c ∈ decimalDigits,
        ScanMode.begin c = ([], (Numeral.Phase.minus.next? c).map (.number · [c])) :=
      List.all_iff_forall_prop.mp (by decide)
    rw [hall c (mem_of_isDigit hdigit), h]
    rfl

/-- A number is scanned up to its end. -/
theorem scanFrom_isNumber {text : List Char} (h : IsNumber text) {rest : List Char}
    (hrest : Ended rest) :
    scanFrom .between (text ++ rest) = numberToken text.reverse :: scanFrom .between rest := by
  obtain ⟨c, cs, p, q, rfl, hbegin, hrun, hq⟩ := h.exists_run?
  rw [List.cons_append, scanFrom_cons (show ScanMode.between.step c = _ from begin_number hbegin),
    List.nil_append, scanFrom_number hrun, scanFrom_number_ended hq _ hrest, List.reverse_cons]

/-- A whole part alone is a number. -/
theorem isNumber_of_isWhole {text : List Char} (h : IsWhole text) : IsNumber text :=
  ⟨[], by decide, text, [], [], h, Or.inl rfl, Or.inl rfl, by simp⟩

/-- A whole part has digits only. -/
theorem IsWhole.all_isDigit {text : List Char} (h : IsWhole text) :
    text.all Char.isDigit = true := by
  rcases h with rfl | ⟨hdigits, -⟩
  · rfl
  · exact List.all_eq_true.mpr hdigits.2

/-! ### Strings -/

/-- The tables of hexadecimal digits agree. -/
theorem hexDigit?_of_isHexDigit {c : Char} {n : Nat} (h : IsHexDigit c n) :
    hexDigit? c = some n := by
  obtain ⟨digits, hdigits, hc⟩ := h
  have hall : ∀ digits ∈ hexDigits, ∀ p ∈ digits.zipIdx, hexDigit? p.1 = some p.2 := by decide
  exact hall digits hdigits (c, n) (List.mk_mem_zipIdx_iff_getElem?.mpr hc)

/-- Four hexadecimal digits are scanned to their value. -/
theorem scanFrom_hexUnit {digits : List Char} {n : Nat} (h : IsHexUnit digits n)
    {read : List Char} {high : Option Nat} {next : ScanMode}
    (hnext : ScanMode.unit read high n = some next) (rest : List Char) :
    scanFrom (.hex read high 0 0) (digits ++ rest) = scanFrom next rest := by
  obtain ⟨a, b, c, d, i, j, k, l, rfl, ha, hb, hc, hd, rfl⟩ := h
  have hstep : ∀ {e : Char} {m : Nat} (_ : IsHexDigit e m) (count value : Nat), count < 3 →
      (ScanMode.hex read high count value).step e
        = ([], some (.hex read high (count + 1) (16 * value + m))) := by
    intro e m he count value hcount
    rw [ScanMode.step, hexDigit?_of_isHexDigit he]
    exact if_pos hcount
  have hlast : (ScanMode.hex read high 3 (16 * (16 * (16 * 0 + i) + j) + k)).step d
      = ([], some next) := by
    rw [ScanMode.step, hexDigit?_of_isHexDigit hd, Nat.mul_zero, Nat.zero_add]
    show ([], ScanMode.unit read high _) = _
    rw [hnext]
  show scanFrom _ (a :: b :: c :: d :: rest) = _
  rw [scanFrom_cons (hstep ha 0 0 (by decide)), scanFrom_cons (hstep hb 1 _ (by decide)),
    scanFrom_cons (hstep hc 2 _ (by decide)), scanFrom_cons hlast]
  rfl

/-- The code of a character is below 0x110000, and no surrogate. -/
theorem toNat_lt_or (c : Char) : c.toNat < 0xD800 ∨ 0xDFFF < c.toNat ∧ c.toNat < 0x110000 :=
  c.valid

/-- A code that is no surrogate gives its character. -/
theorem unit_none_toNat (c : Char) (read : List Char) :
    ScanMode.unit read none c.toNat = some (.string (c :: read)) := by
  have hc := toNat_lt_or c
  unfold ScanMode.unit
  dsimp only
  rw [if_neg, if_neg, Char.ofNat_toNat]
  · simp
    omega
  · simp
    omega

/-- Two surrogates give their character. -/
theorem unit_pair {c : Char} (h : 0x10000 ≤ c.toNat) (read : List Char) :
    ScanMode.unit read none (0xD800 + (c.toNat - 0x10000) / 0x400)
        = some (.pair read (0xD800 + (c.toNat - 0x10000) / 0x400)) ∧
      ScanMode.unit read (some (0xD800 + (c.toNat - 0x10000) / 0x400))
          (0xDC00 + (c.toNat - 0x10000) % 0x400)
        = some (.string (c :: read)) := by
  have hc := toNat_lt_or c
  constructor
  · unfold ScanMode.unit
    dsimp only
    rw [if_pos]
    simp
    omega
  · unfold ScanMode.unit
    dsimp only
    rw [if_pos]
    · have hvalue : 0x10000 + (0xD800 + (c.toNat - 0x10000) / 0x400 - 0xD800) * 0x400
          + (0xDC00 + (c.toNat - 0x10000) % 0x400 - 0xDC00) = c.toNat := by omega
      rw [hvalue, Char.ofNat_toNat]
    · simp
      omega

/-- The scanner reads the characters that the text between quotes spells. -/
theorem SpellsChars.scanFrom_append {text cs : List Char} (h : SpellsChars text cs)
    (read rest : List Char) :
    scanFrom (.string read) (text ++ rest) = scanFrom (.string (cs.reverse ++ read)) rest := by
  have hread : ∀ (c : Char) (cs read : List Char),
      cs.reverse ++ c :: read = (c :: cs).reverse ++ read := by simp
  have hescape : ∀ (read cs : List Char),
      scanFrom (.string read) ('\\' :: cs) = scanFrom (.escape read) cs := fun _ _ => rfl
  have hunit : ∀ (read cs : List Char),
      scanFrom (.escape read) ('u' :: cs) = scanFrom (.hex read none 0 0) cs := fun _ _ => rfl
  induction h generalizing read with
  | nil => rfl
  | @plain c text cs hquote hbackslash hcontrol _ ih =>
    have hstep : (ScanMode.string read).step c = ([], some (.string (c :: read))) := by
      rw [ScanMode.step, if_neg (by simpa using hquote), if_neg (by simpa using hbackslash),
        if_neg (Nat.not_lt.mpr hcontrol)]
    rw [List.cons_append, scanFrom_cons hstep, List.nil_append, ih, hread]
  | @short letter c text cs hletter _ ih =>
    have hstep : (ScanMode.escape read).step letter = ([], some (.string (c :: read))) := by
      simp only [shortEscapes, List.mem_cons, Prod.mk.injEq, List.not_mem_nil, or_false] at hletter
      rcases hletter with ⟨rfl, rfl⟩ | ⟨rfl, rfl⟩ | ⟨rfl, rfl⟩ | ⟨rfl, rfl⟩ | ⟨rfl, rfl⟩ |
        ⟨rfl, rfl⟩ | ⟨rfl, rfl⟩ | ⟨rfl, rfl⟩ <;> rfl
    rw [List.cons_append, List.cons_append, hescape, scanFrom_cons hstep, List.nil_append, ih,
      hread]
  | @unit c digits text cs hdigits _ ih =>
    rw [List.cons_append, List.cons_append, hescape, hunit, List.append_assoc,
      scanFrom_hexUnit hdigits (unit_none_toNat c read), ih, hread]
  | @pair c first second text cs hpair hfirst hsecond _ ih =>
    obtain ⟨hhigh, hlow⟩ := unit_pair hpair read
    have hwait : ∀ high cs,
        scanFrom (.pair read high) ('\\' :: cs) = scanFrom (.pairEscape read high) cs :=
      fun _ _ => rfl
    have hagain : ∀ high cs,
        scanFrom (.pairEscape read high) ('u' :: cs) = scanFrom (.hex read (some high) 0 0) cs :=
      fun _ _ => rfl
    simp only [List.cons_append, List.append_assoc]
    rw [hescape, hunit, scanFrom_hexUnit hfirst hhigh, hwait, hagain,
      scanFrom_hexUnit hsecond hlow, ih, hread]

/-- A string is scanned up to its second quote. -/
theorem SpellsString.scanFrom_append {text : List Char} {s : String} (h : SpellsString text s)
    (rest : List Char) :
    scanFrom .between (text ++ rest) = .string s :: scanFrom .between rest := by
  obtain ⟨inner, hinner, rfl⟩ := h
  have hopen : ScanMode.between.step '"' = ([], some (.string [])) := rfl
  have hclose : (ScanMode.string (s.toList.reverse ++ [])).step '"'
      = ([.string s], some .between) := by
    rw [ScanMode.step, if_pos (beq_self_eq_true '"'), List.append_nil, List.reverse_reverse,
      String.ofList_toList]
  rw [List.cons_append, scanFrom_cons hopen, List.nil_append, List.append_assoc,
    hinner.scanFrom_append, List.singleton_append, scanFrom_cons hclose, List.singleton_append]

/-! ### Documents -/

/-- Some characters are tokens by themselves. -/
theorem scanFrom_mark {c : Char} {t : Token} (h : ScanMode.begin c = ([t], some .between))
    (cs : List Char) : scanFrom .between (c :: cs) = t :: scanFrom .between cs :=
  scanFrom_cons (show ScanMode.between.step c = _ from h) cs

/-- The scanner finds the tokens of what a text spells, and goes on after it. The induction is
on the spelling. What follows a part of an array or object is a separator, so each part ends. -/
theorem Spells.scanFrom_append {text : List Char} {p : Phrase} (h : Spells text p)
    {rest : List Char} (hrest : Ended rest) :
    scanFrom .between (text ++ rest) = p.tokens ++ scanFrom .between rest := by
  have hopenArray : ScanMode.begin '[' = ([.openArray], some .between) := rfl
  have hcloseArray : ScanMode.begin ']' = ([.closeArray], some .between) := rfl
  have hopenObject : ScanMode.begin '\x7b' = ([.openObject], some .between) := rfl
  have hcloseObject : ScanMode.begin '\x7d' = ([.closeObject], some .between) := rfl
  have hcomma : ScanMode.begin ',' = ([.comma], some .between) := rfl
  have hcolon : ScanMode.begin ':' = ([.colon], some .between) := rfl
  induction h generalizing rest with
  | null => rfl
  | true => rfl
  | false => rfl
  | @natural text hwhole hsize =>
    have htoken : numberToken text.reverse = .natural (Numeral.ofDigits text) := by
      rw [numberToken, List.reverse_reverse, hsize, hwhole.all_isDigit]
      rfl
    rw [scanFrom_isNumber (isNumber_of_isWhole hwhole) hrest, htoken]
    rfl
  | @real text hnumber hmore hsize =>
    have htoken : numberToken text.reverse = .real (String.ofList text) := by
      rw [numberToken, List.reverse_reverse, hsize, hmore]
      rfl
    rw [scanFrom_isNumber hnumber hrest, htoken]
    rfl
  | string h => exact h.scanFrom_append rest
  | emptyArray hgap =>
    rw [List.cons_append, scanFrom_mark hopenArray, List.append_assoc, scanFrom_gap hgap,
      List.singleton_append, scanFrom_mark hcloseArray]
    rfl
  | @array text v vs _ ih =>
    rw [List.cons_append, scanFrom_mark hopenArray, List.append_assoc, List.singleton_append,
      ih (ended_cons (by decide) rest), scanFrom_mark hcloseArray]
    simp [Phrase.tokens, Value.tokens]
  | lastItem hbefore _ hafter ih =>
    rw [List.append_assoc, scanFrom_gap hbefore, List.append_assoc, ih (hrest.gap_append hafter),
      scanFrom_gap hafter]
    simp [Phrase.tokens, itemsTokens]
  | item hbefore _ hafter _ ih ihmore =>
    rw [List.append_assoc, scanFrom_gap hbefore, List.append_assoc, List.append_assoc,
      List.cons_append, ih ((ended_cons (by decide) _).gap_append hafter), scanFrom_gap hafter,
      scanFrom_mark hcomma, ihmore hrest]
    simp [Phrase.tokens, itemsTokens]
  | emptyObject hgap =>
    rw [List.cons_append, scanFrom_mark hopenObject, List.append_assoc, scanFrom_gap hgap,
      List.singleton_append, scanFrom_mark hcloseObject]
    rfl
  | @object text e es _ ih =>
    rw [List.cons_append, scanFrom_mark hopenObject, List.append_assoc, List.singleton_append,
      ih (ended_cons (by decide) rest), scanFrom_mark hcloseObject]
    simp [Phrase.tokens, Value.tokens]
  | entry hkey hbefore hafter _ ih =>
    rw [List.append_assoc, hkey.scanFrom_append, List.append_assoc, scanFrom_gap hbefore,
      List.cons_append, scanFrom_mark hcolon, List.append_assoc, scanFrom_gap hafter, ih hrest]
    rfl
  | lastEntry hbefore _ hafter ih =>
    rw [List.append_assoc, scanFrom_gap hbefore, List.append_assoc, ih (hrest.gap_append hafter),
      scanFrom_gap hafter]
    simp [Phrase.tokens, entriesTokens]
  | entries hbefore _ hafter _ ih ihmore =>
    rw [List.append_assoc, scanFrom_gap hbefore, List.append_assoc, List.append_assoc,
      List.cons_append, ih ((ended_cons (by decide) _).gap_append hafter), scanFrom_gap hafter,
      scanFrom_mark hcomma, ihmore hrest]
    simp [Phrase.tokens, entriesTokens]

/-- The tokens of a document are those of its value. -/
theorem IsDocument.scan_eq {text : String} {v : Value} (h : IsDocument text v) :
    scan text = v.tokens := by
  obtain ⟨before, inner, after, hbefore, hinner, hafter, htext⟩ := h
  have hend : Ended ([] : List Char) := fun c hc => by cases hc
  have hspace : scanFrom .between after = [] := by
    rw [← List.append_nil after, scanFrom_gap hafter]
    rfl
  have hended : Ended after := by
    rw [← List.append_nil after]
    exact hend.gap_append hafter
  rw [scan, htext, scanFrom_gap hbefore, hinner.scanFrom_append hended, hspace, List.append_nil]
  rfl

end RecordSql.Document
