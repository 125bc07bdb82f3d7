import Mathlib.Data.Bool.AllAny
import Mathlib.Data.List.Basic
import Mathlib.Data.List.TakeWhile
import Mathlib.Tactic.IntervalCases
import RecordSql.Proofs.Grammar

/-!
# `RecordSql.Proofs.Numerals`: the numbers of documents

Two facts about numbers. The machine `Phase` gets through every number of the grammar
(`IsNumber.exists_run?`). And the digits of a natural number below `2 ^ 64` are a number of the
grammar that is not too large (`isWhole_toDigits`, `overflows_toDigits`): all its digits have
room in the significand, so nothing is left that could raise the scale.
-/

set_option autoImplicit false

namespace RecordSql.Document

/-! ### Digits -/

/-- The digits, for what is checked of each of them. -/
def decimalDigits : List Char :=
  ['0', '1', '2', '3', '4', '5', '6', '7', '8', '9']

/-- There are no other digits. -/
theorem mem_of_isDigit {c : Char} (h : c.isDigit = true) : c ∈ decimalDigits := by
  have hrange : 48 ≤ c.toNat ∧ c.toNat ≤ 57 := by
    simpa [Char.isDigit, UInt32.le_iff_toNat_le] using h
  obtain ⟨hlow, hhigh⟩ := hrange
  have hc : Char.ofNat c.toNat = c := Char.ofNat_toNat c
  generalize c.toNat = n at hlow hhigh hc
  subst hc
  interval_cases n <;> decide

/-- The digits of a positive number do not begin with a zero. -/
theorem head?_toDigits_ne {n : Nat} (h : 0 < n) : (Nat.toDigits 10 n).head? ≠ some '0' := by
  induction n using Nat.strongRecOn with
  | ind n ih =>
    by_cases hlt : n < 10
    · rw [Nat.toDigits_of_lt_base hlt]
      interval_cases n <;> decide
    · have hle : 10 ≤ n := Nat.le_of_not_lt hlt
      rw [Nat.toDigits_of_base_le (by decide) hle,
        List.head?_append_of_ne_nil _ Nat.toDigits_ne_nil]
      exact ih (n / 10) (Nat.div_lt_self h (by decide)) (Nat.div_pos hle (by decide))

/-- The digits of a number. -/
theorem areDigits_toDigits (n : Nat) : AreDigits (Nat.toDigits 10 n) :=
  ⟨Nat.toDigits_ne_nil, fun _ hc => Nat.isDigit_of_mem_toDigits (by decide) (by decide) hc⟩

/-- The digits of a number are the whole part of a number. -/
theorem isWhole_toDigits (n : Nat) : IsWhole (Nat.toDigits 10 n) := by
  rcases Nat.eq_zero_or_pos n with rfl | hpos
  · exact Or.inl (Nat.toDigits_zero 10)
  · exact Or.inr ⟨areDigits_toDigits n, head?_toDigits_ne hpos⟩

/-! ### Size -/

namespace Double

/-- Rounding does not double a number. -/
theorem nearest_le {n : Nat} (h : n ≠ 0) : nearest n ≤ 2 * n := by
  unfold nearest
  dsimp only
  have hunit : Nat.pow 2 (n.log2 + 1 - precision) ≤ n :=
    calc Nat.pow 2 (n.log2 + 1 - precision)
        ≤ 2 ^ n.log2 := Nat.pow_le_pow_right (by decide) (by unfold precision; omega)
      _ ≤ n := Nat.log2_self_le h
  generalize Nat.pow 2 (n.log2 + 1 - precision) = unit at hunit
  have hcount : n / unit * unit ≤ n := Nat.div_mul_le_self n unit
  split
  · rw [Nat.add_mul]
    omega
  · omega

end Double

namespace Numeral

/-- A significand is at most the number that it begins. -/
theorem le_ofDigitChars (cs : List Char) (n : Nat) : n ≤ Nat.ofDigitChars 10 cs n := by
  rw [Nat.ofDigitChars_eq_ofDigitChars_zero]
  have hpow : n ≤ 10 ^ cs.length * n := Nat.le_mul_of_pos_left n (Nat.pow_pos (by decide))
  omega

/-- All digits have room in the significand if the number is small enough. -/
theorem appendDigits_of_lt {cs : List Char} {n : Nat}
    (h : Nat.ofDigitChars 10 cs n < significandBound) :
    appendDigits n cs = (Nat.ofDigitChars 10 cs n, []) := by
  induction cs generalizing n with
  | nil => rfl
  | cons c cs ih =>
    rw [Nat.ofDigitChars_cons] at h ⊢
    have hnext : 10 * n + ofDigits [c] = 10 * n + (c.toNat - '0'.toNat) := by
      rw [ofDigits, Nat.ofDigitChars_cons, Nat.ofDigitChars_nil, Nat.mul_zero, Nat.zero_add]
    rw [appendDigits, hnext, if_pos (Nat.lt_of_le_of_lt (le_ofDigitChars cs _) h), ih h]

/-- A number of 64 bits is not too large. -/
theorem isTooLarge_of_lt {n : Nat} (h : n < significandBound) : isTooLarge n 0 = false := by
  show (if n == 0 then false else if Double.maxDecimalExponent < 0 then true
    else decide (Double.overflowBound ≤ Double.nearest n * Double.nearest (Nat.pow 10 0))) = false
  by_cases hzero : n = 0
  · rw [hzero]
    rfl
  · have hone : Double.nearest (Nat.pow 10 0) = 1 := by decide +kernel
    have hbound : 2 * significandBound ≤ Double.overflowBound := by decide +kernel
    have hnearest := Double.nearest_le hzero
    rw [if_neg (by simpa using hzero), if_neg (by decide), hone, Nat.mul_one,
      decide_eq_false_iff_not]
    omega

/-- Digits are all whole part: there is no sign, no fraction and no exponent to look for. -/
theorem overflows_of_areDigits {cs : List Char} (h : AreDigits cs) :
    overflows cs = isTooLarge (appendDigits 0 cs).1 (appendDigits 0 cs).2.length := by
  have hother : ∀ c ∈ cs, c ≠ '-' ∧ c ≠ '.' ∧ c ≠ 'e' ∧ c ≠ 'E' := by
    have hdigits : ∀ c ∈ decimalDigits, c ≠ '-' ∧ c ≠ '.' ∧ c ≠ 'e' ∧ c ≠ 'E' :=
      List.all_iff_forall_prop.mp (by decide)
    exact fun c hc => hdigits c (mem_of_isDigit (h.2 c hc))
  have hunsigned : cs.dropWhile (· == '-') = cs := by
    refine List.dropWhile_eq_self_iff.mpr fun hlength => ?_
    simpa using (hother _ (List.getElem_mem hlength)).1
  have hmantissa : (cs.takeWhile fun c => c != 'e' && c != 'E') = cs := by
    refine List.takeWhile_eq_self_iff.mpr fun c hc => ?_
    simpa using (hother c hc).2.2
  have hwhole : cs.takeWhile (· != '.') = cs := by
    refine List.takeWhile_eq_self_iff.mpr fun c hc => ?_
    simpa using (hother c hc).2.1
  unfold overflows
  dsimp only
  rw [hunsigned, hmantissa, hwhole, List.drop_length]
  show isTooLarge (appendDigits 0 cs).1 _ = _
  congr 1
  simp [exponentOf, ofDigits, appendDigits]

/-- The digits of a number of 64 bits are not too large. -/
theorem overflows_toDigits {n : Nat} (h : n < significandBound) :
    overflows (Nat.toDigits 10 n) = false := by
  have hvalue : Nat.ofDigitChars 10 (Nat.toDigits 10 n) 0 = n := Nat.ofDigitChars_ten_toDigits
  rw [overflows_of_areDigits (areDigits_toDigits n),
    appendDigits_of_lt (by rw [hvalue]; exact h), hvalue]
  exact isTooLarge_of_lt h

/-! ### Reading -/

/-- The phase after more characters. -/
def Phase.run? (p : Phase) : List Char → Option Phase
  | [] => some p
  | c :: cs => (p.next? c).bind (·.run? cs)

/-- Characters are taken one after the other. -/
theorem Phase.run?_append (p : Phase) (cs ds : List Char) :
    p.run? (cs ++ ds) = (p.run? cs).bind (·.run? ds) := by
  induction cs generalizing p with
  | nil => rfl
  | cons c cs ih =>
    rw [List.cons_append, run?, run?]
    cases p.next? c with
    | none => rfl
    | some q => exact ih q

/-- A phase that digits do not leave. -/
theorem Phase.run?_of_isDigit {p : Phase} (hp : ∀ c, c.isDigit = true → p.next? c = some p)
    {cs : List Char} (h : ∀ c ∈ cs, c.isDigit = true) : p.run? cs = some p := by
  induction cs with
  | nil => rfl
  | cons c cs ih =>
    rw [run?, hp c (h c List.mem_cons_self)]
    exact ih fun d hd => h d (List.mem_cons_of_mem c hd)

/-- Digits lead from a phase to the one that they do not leave. -/
theorem Phase.run?_digits {p q : Phase} (hp : ∀ c, c.isDigit = true → p.next? c = some q)
    (hq : ∀ c, c.isDigit = true → q.next? c = some q) {cs : List Char} (h : AreDigits cs) :
    p.run? cs = some q := by
  obtain ⟨c, cs, rfl⟩ := List.exists_cons_of_ne_nil h.1
  rw [run?, hp c (h.2 c List.mem_cons_self)]
  exact run?_of_isDigit hq fun d hd => h.2 d (List.mem_cons_of_mem c hd)

/-- A whole part, after the place of the sign. -/
theorem Phase.run?_whole {cs : List Char} (h : IsWhole cs) :
    ∃ p ∈ [zero, integer], minus.run? cs = some p := by
  rcases h with rfl | ⟨hdigits, hhead⟩
  · exact ⟨zero, by decide, rfl⟩
  · obtain ⟨c, cs, rfl⟩ := List.exists_cons_of_ne_nil hdigits.1
    have hc : c ≠ '0' := fun heq => hhead (by rw [heq]; rfl)
    have hnext : minus.next? c = some integer := by
      simp [next?, hc, hdigits.2 c List.mem_cons_self]
    refine ⟨integer, by decide, ?_⟩
    rw [run?, hnext]
    exact run?_of_isDigit (fun d hd => by simp [next?, hd])
      fun d hd => hdigits.2 d (List.mem_cons_of_mem c hd)

/-- A fraction, after the whole part. -/
theorem Phase.run?_fraction {p : Phase} (hp : p ∈ [zero, integer]) {cs : List Char}
    (h : IsFraction cs) : ∃ q ∈ [zero, integer, fraction], p.run? cs = some q := by
  rcases h with rfl | ⟨digits, hdigits, rfl⟩
  · exact ⟨p, List.mem_append_left [fraction] hp, rfl⟩
  · have hpoint : p.next? '.' = some point := by
      revert p
      decide
    refine ⟨fraction, by decide, ?_⟩
    rw [run?, hpoint]
    exact run?_digits (fun c hc => by simp [next?, hc]) (fun c hc => by simp [next?, hc]) hdigits

/-- An exponent, after the fraction. -/
theorem Phase.run?_exponent {p : Phase} (hp : p ∈ [zero, integer, fraction]) {cs : List Char}
    (h : IsExponent cs) : ∃ q, q.isComplete = true ∧ p.run? cs = some q := by
  rcases h with rfl | ⟨e, he, s, hs, digits, hdigits, rfl⟩
  · refine ⟨p, ?_, rfl⟩
    revert p
    decide
  · have hmark : ∀ e ∈ ['e', 'E'], ∀ p ∈ [zero, integer, fraction], p.next? e = some mark :=
      List.all_iff_forall_prop.mp (by decide)
    -- With or without a sign, the digits come to the last phase.
    obtain ⟨q, hq, hrun⟩ : ∃ q ∈ [mark, sign], mark.run? s = some q := by
      revert s
      decide
    have hnext : ∀ c, c.isDigit = true → q.next? c = some exponent := by
      have hdigits : ∀ c ∈ decimalDigits, ∀ q ∈ [mark, sign], q.next? c = some exponent :=
        List.all_iff_forall_prop.mp (by decide)
      exact fun c hc => hdigits c (mem_of_isDigit hc) q hq
    refine ⟨exponent, rfl, ?_⟩
    rw [run?, hmark e he p hp, Option.bind_some, run?_append, hrun, Option.bind_some]
    exact run?_digits hnext (fun c hc => by simp [next?, hc]) hdigits

end Numeral

open Numeral (Phase)

/-- The machine gets through a number. Its first character is a sign, or what may follow one. -/
theorem IsNumber.exists_run? {text : List Char} (h : IsNumber text) :
    ∃ c cs p q, text = c :: cs ∧ (c = '-' ∧ p = .minus ∨ Phase.minus.next? c = some p) ∧
      Phase.run? p cs = some q ∧ q.isComplete = true := by
  obtain ⟨s, hs, whole, fraction, exponent, hwhole, hfraction, hexponent, rfl⟩ := h
  obtain ⟨p, hp, hrun⟩ := Phase.run?_whole hwhole
  obtain ⟨q, hq, hfractionRun⟩ := Phase.run?_fraction hp hfraction
  obtain ⟨r, hr, hexponentRun⟩ := Phase.run?_exponent hq hexponent
  have hunsigned : Phase.minus.run? (whole ++ (fraction ++ exponent)) = some r := by
    rw [Phase.run?_append, hrun, Option.bind_some, Phase.run?_append, hfractionRun,
      Option.bind_some, hexponentRun]
  rcases List.mem_pair.mp hs with rfl | rfl
  · cases hcs : whole ++ (fraction ++ exponent) with
    | nil =>
      rw [hcs] at hunsigned
      cases hunsigned
      cases hr
    | cons c cs =>
      rw [hcs, Phase.run?] at hunsigned
      obtain ⟨first, hfirst, hrest⟩ := Option.bind_eq_some_iff.mp hunsigned
      exact ⟨c, cs, first, r, rfl, Or.inr hfirst, hrest, hr⟩
  · exact ⟨'-', _, .minus, r, rfl, Or.inl ⟨rfl, rfl⟩, hunsigned, hr⟩

end RecordSql.Document
