import RecordSql.Proofs.ColumnNames
import RecordSql.Proofs.Accounts

/-!
# `RecordSql.Proofs.LabelCharacters`: the characters of labels

The segments of a label can contain any text: the name of a table, of an index or of a referenced
table. But a label is in camel case, which keeps letters and numbers only and joins their case forms
with nothing between them. So what is true of all these forms (`Text.HoldsOfForms`) is true of every
character of a label: it has no white space (`isBlank_of_mem_label`) and never goes over the end of
a line, and that of ASCII characters consists of ASCII letters and digits.

The words of a label begin with an uppercase form, which can be any character of the tables and
need not be a letter. So these are checked entry by entry, as those of the lowercase forms are for
column names.
-/

set_option autoImplicit false

namespace RecordSql.Letter

open RecordSql.Text (isBlank)

/-! ### Uppercase forms -/

/-- The shifts lead to no white space. -/
theorem isBlank_shifts : ∀ s ∈ upperShifts, ∀ n ∈ s.run.codes,
    isBlank (Char.ofNat ((n : Int) + s.distance).toNat) = false := by
  decide +kernel

/-- Nor do the longer forms. -/
theorem isBlank_forms : ∀ form ∈ upperForms, ∀ n ∈ form.2, isBlank (Char.ofNat n) = false := by
  decide +kernel

/-- The uppercase form of an ASCII letter or digit is not white space. -/
theorem isBlank_toUpper {c : Char} (h : isAlphanumeric c = true) (hascii : isAscii c = true) :
    isBlank c.toUpper = false :=
  Text.forall_isAscii (P := fun c => isAlphanumeric c = true → isBlank c.toUpper = false)
    (by decide +kernel) hascii h

/-- The uppercase form of a letter or number has no white space. -/
theorem isBlank_of_mem_upper {c e : Char} (h : isAlphanumeric c = true) (he : e ∈ upper c) :
    isBlank e = false := by
  unfold upper at he
  split at he
  · rename_i hascii
    rw [List.mem_singleton] at he
    subst he
    exact isBlank_toUpper h hascii
  · -- A character without an entry is its own uppercase form.
    have hc := Text.isBlank_eq_false_of_isAlphanumeric h
    exact forall_mem_mapped (P := fun b => isBlank b = false) isBlank_forms isBlank_shifts hc e he

/-! ### ASCII letters and digits -/

/-- ASCII letters and digits are letters and numbers. -/
theorem isAlphanumeric_of_isAlphanum {c : Char} (hascii : isAscii c = true)
    (h : c.isAlphanum = true) : isAlphanumeric c = true := by
  unfold isAlphanumeric isAlphabetic isNumber
  rw [if_pos hascii, if_pos hascii]
  exact h

end RecordSql.Letter

namespace RecordSql.Text

/-! ### Camel case -/

/-- The property holds of all that camel case can make of the letters and numbers of a text: of
their case forms, and of the sigma at the end of a word. -/
structure HoldsOfForms (P : Char → Prop) (cs : List Char) : Prop where
  lower : ∀ c ∈ cs, Letter.isAlphanumeric c = true → ∀ e ∈ Letter.lower c, P e
  upper : ∀ c ∈ cs, Letter.isAlphanumeric c = true → ∀ e ∈ Letter.upper c, P e
  sigma : 'Σ' ∈ cs → P 'ς'

namespace HoldsOfForms

variable {P : Char → Prop} {cs w : List Char} {e : Char}

/-- It then holds of every word in lowercase. -/
theorem of_mem_lowerWord (h : HoldsOfForms P cs) (hw : w ∈ words cs) (he : e ∈ lowerWord w) :
    P e := by
  refine forall_mem_lowerWord (fun hmem => h.sigma (mem_of_mem_words hw hmem).1) ?_ e he
  intro c hc
  obtain ⟨hmem, halnum⟩ := mem_of_mem_words hw hc
  exact h.lower c hmem halnum

/-- And of every capitalized word. -/
theorem of_mem_capitalize (h : HoldsOfForms P cs) (hw : w ∈ words cs) (he : e ∈ capitalize w) :
    P e := by
  have hletters : ∀ c ∈ w, c ∈ cs ∧ Letter.isAlphanumeric c = true :=
    fun _ hc => mem_of_mem_words hw hc
  cases w with
  | nil => cases he
  | cons c w =>
    obtain ⟨hc, hw⟩ := List.forall_mem_cons.mp hletters
    rcases List.mem_append.mp he with he | he
    · exact h.upper c hc.1 hc.2 e he
    · exact forall_mem_lowerWord (fun hmem => h.sigma (hw _ hmem).1)
        (fun d hd => h.lower d (hw d hd).1 (hw d hd).2) e he

/-- So it holds of upper camel case. -/
theorem of_mem_upperCamel (h : HoldsOfForms P cs) (he : e ∈ upperCamelChars cs) : P e := by
  obtain ⟨w, hw, he⟩ := List.mem_flatMap.mp he
  exact h.of_mem_capitalize hw he

/-- And of lower camel case. -/
theorem of_mem_lowerCamel (h : HoldsOfForms P cs) (he : e ∈ lowerCamelChars cs) : P e := by
  unfold lowerCamelChars at he
  split at he
  · cases he
  · rename_i first rest hcons
    have hmem : ∀ v ∈ first :: rest, v ∈ words cs := fun _ hv => hcons ▸ hv
    obtain ⟨hfirst, hrest⟩ := List.forall_mem_cons.mp hmem
    rcases List.mem_append.mp he with he | he
    · exact h.of_mem_lowerWord hfirst he
    · obtain ⟨v, hv, he⟩ := List.mem_flatMap.mp he
      exact h.of_mem_capitalize (hrest v hv) he

end HoldsOfForms

/-- No form has white space. -/
theorem holdsOfForms_not_isBlank (cs : List Char) : HoldsOfForms (isBlank · = false) cs where
  lower _ _ halnum _ he := (Letter.isNameChar_of_mem_lower halnum he).1
  upper _ _ halnum _ he := Letter.isBlank_of_mem_upper halnum he
  sigma _ := by decide

/-- The forms of ASCII letters and digits are ASCII letters and digits. -/
theorem holdsOfForms_isAlphanum {cs : List Char} (hcs : ∀ c ∈ cs, Letter.isAscii c = true) :
    HoldsOfForms (fun c => Letter.isAscii c = true ∧ c.isAlphanum = true) cs where
  lower c hc halnum e he := by
    have hascii := hcs c hc
    rw [Letter.lower, if_pos hascii, List.mem_singleton] at he
    exact he ▸ forall_isAscii (P := fun c => Letter.isAlphanumeric c = true →
      Letter.isAscii c.toLower = true ∧ c.toLower.isAlphanum = true) (by decide +kernel) hascii halnum
  upper c hc halnum e he := by
    have hascii := hcs c hc
    rw [Letter.upper, if_pos hascii, List.mem_singleton] at he
    exact he ▸ forall_isAscii (P := fun c => Letter.isAlphanumeric c = true →
      Letter.isAscii c.toUpper = true ∧ c.toUpper.isAlphanum = true) (by decide +kernel) hascii halnum
  sigma hsigma := absurd (hcs 'Σ' hsigma) (by decide)

end RecordSql.Text

namespace RecordSql

/-! ### Labels -/

/-- No label has white space, whatever its segments are. -/
theorem Identifier.isBlank_of_mem_label {segments : List String} {c : Char}
    (hc : c ∈ (Identifier.label segments).toList) : Text.isBlank c = false := by
  unfold Identifier.label Text.lowerCamel Text.upperCamel at hc
  dsimp only at hc
  split at hc <;> rw [String.toList_ofList] at hc
  · exact (Text.holdsOfForms_not_isBlank _).of_mem_lowerCamel hc
  · exact (Text.holdsOfForms_not_isBlank _).of_mem_upperCamel hc

namespace Catalog

/-- The labels of an offer are made of segments. -/
theorem Offer.exists_of_mem_labels {o : Offer} {label : String} (h : label ∈ o.labels) :
    ∃ segments, label = Identifier.label segments := by
  rcases List.mem_cons.mp h with h | h
  · exact ⟨_, h⟩
  · obtain ⟨q, -, hq⟩ := Option.map_eq_some_iff.mp (Option.mem_toList.mp h)
    exact ⟨_, hq.symm⟩

/-- Nor does the label of a statement of a catalog. -/
theorem isBlank_of_mem_label {d : Sql.Dialect} {t : Table} {c : Catalog} (hc : build d t = .ok c)
    {s : Statement} (hs : s ∈ c.statements) {b : Char} (hb : b ∈ s.label.toList) :
    Text.isBlank b = false := by
  obtain ⟨o, -, hgives⟩ := exists_offer_of_mem_build hc hs
  obtain ⟨segments, hlabel⟩ := Offer.exists_of_mem_labels hgives.label
  rw [hlabel] at hb
  exact Identifier.isBlank_of_mem_label hb

end Catalog

end RecordSql
