import RecordSql.Document.Reader
import RecordSql.Proofs.Scanning

/-!
# `RecordSql.Proofs.Reading`: the reader reads every document

The reader keeps its own stack, so a value in the middle of a document is not read by a call of
its own. What is said of it instead is where its tokens lead: to the state in which the value has
been put into the innermost open array or object (`ReadsIn`). For that the stack
must have room for the arrays and objects of the value.

With the tokens of documents (`IsDocument.scan_eq`) this makes the reader complete: it reads
every text of the grammar whose nesting is within the limit, and finds the value that the text
spells (`IsDocument.read?_eq`).
-/

set_option autoImplicit false

namespace RecordSql.Document

variable {limit : Nat}

/-- Goes on with the tokens after the one that led here. -/
def Progress.resume (limit : Nat) (ts : List Token) : Progress → Option (Value × List Token)
  | .done v => some (v, ts)
  | .more expect stack => readTokens limit expect stack ts
  | .failed => none

/-- Tokens are taken one after the other. -/
theorem readTokens_cons (expect : Expect) (stack : List Frame) (t : Token) (ts : List Token) :
    readTokens limit expect stack (t :: ts)
      = (Progress.step limit expect stack t).resume limit ts := by
  rw [readTokens]
  cases Progress.step limit expect stack t <;> rfl

/-- The tokens of the value lead to where it has been put in its place, if there is room for so
many arrays and objects on the stack. -/
def ReadsIn (limit room : Nat) (v : Value) : Prop :=
  ∀ (stack : List Frame) (ts : List Token), stack.length + room ≤ limit →
    readTokens limit .value stack (v.tokens ++ ts) = (Progress.place v stack).resume limit ts

/-! ### Arrays -/

/-- No value begins with the end of an array. -/
theorem readTokens_firstItem (v : Value) (stack : List Frame) (ts : List Token) :
    readTokens limit .firstItem stack (v.tokens ++ ts)
      = readTokens limit .value stack (v.tokens ++ ts) := by
  have hfirst : ∃ t rest, v.tokens = t :: rest ∧ t ≠ .closeArray := by
    cases v with
    | array vs => cases vs <;> exact ⟨_, _, rfl, by simp⟩
    | object es => cases es <;> exact ⟨_, _, rfl, by simp⟩
    | _ => exact ⟨_, _, rfl, by simp⟩
  obtain ⟨t, rest, htokens, ht⟩ := hfirst
  rw [htokens, List.cons_append, readTokens_cons, readTokens_cons]
  cases t <;> first | rfl | exact absurd rfl ht

variable {room : Nat} {stack : List Frame}

/-- Further items are put after those that are done. -/
theorem readTokens_itemsTokens (hroom : stack.length + 1 + room ≤ limit) {vs : List Value}
    (h : ∀ v ∈ vs, ReadsIn limit room v) (done : List Value) (ts : List Token) :
    readTokens limit .separator (.items done :: stack) (itemsTokens vs ++ .closeArray :: ts)
      = (Progress.place (.array (done.reverse ++ vs)) stack).resume limit ts := by
  induction vs generalizing done with
  | nil =>
    rw [itemsTokens, List.nil_append, readTokens_cons, List.append_nil]
    rfl
  | cons v vs ih =>
    have hv := h v List.mem_cons_self (.items done :: stack) (itemsTokens vs ++ .closeArray :: ts)
      hroom
    rw [itemsTokens, List.cons_append, List.append_assoc, readTokens_cons]
    show readTokens limit .value (.items done :: stack) _ = _
    rw [hv]
    show readTokens limit .separator (.items (v :: done) :: stack) _ = _
    rw [ih (fun w hw => h w (List.mem_cons_of_mem v hw)), List.reverse_cons, List.append_assoc,
      List.singleton_append]

/-- An array is read if its items are. -/
theorem readsIn_array {vs : List Value} (h : ∀ v ∈ vs, ReadsIn limit room v) :
    ReadsIn limit (room + 1) (.array vs) := by
  intro stack ts hroom
  have hroom' : stack.length + 1 + room ≤ limit := by omega
  have hopen : Progress.value limit stack .openArray = .more .firstItem (.items [] :: stack) :=
    if_pos (by omega)
  cases vs with
  | nil =>
    show readTokens limit .value stack (.openArray :: .closeArray :: ts) = _
    rw [readTokens_cons, show Progress.step limit .value stack .openArray = _ from hopen]
    show readTokens limit .firstItem _ _ = _
    rw [readTokens_cons]
    rfl
  | cons v vs =>
    have hv := h v List.mem_cons_self (.items [] :: stack) (itemsTokens vs ++ .closeArray :: ts)
      hroom'
    rw [Value.tokens, List.cons_append, List.append_assoc, List.append_assoc,
      List.singleton_append, readTokens_cons,
      show Progress.step limit .value stack .openArray = _ from hopen]
    show readTokens limit .firstItem _ _ = _
    rw [readTokens_firstItem, hv]
    show readTokens limit .separator (.items [v] :: stack) _ = _
    rw [readTokens_itemsTokens hroom' (fun w hw => h w (List.mem_cons_of_mem v hw))]
    rfl

/-! ### Objects -/

/-- An entry is put after those that are done. -/
theorem readTokens_entryTokens (hroom : stack.length + 1 + room ≤ limit) {e : String × Value}
    (h : ReadsIn limit room e.2) {expect : Expect} (hexpect : expect = .firstKey ∨ expect = .key)
    (done : List (String × Value)) (ts : List Token) :
    readTokens limit expect (.entries done :: stack) (entryTokens e ++ ts)
      = readTokens limit .separator (.entries (e :: done) :: stack) ts := by
  obtain ⟨name, v⟩ := e
  have hv := h (.entry done name :: stack) ts hroom
  have hkey : Progress.step limit expect (.entries done :: stack) (.string name)
      = .more (.colon name) (.entries done :: stack) := by
    rcases hexpect with rfl | rfl <;> rfl
  rw [entryTokens, List.cons_append, List.cons_append, readTokens_cons, hkey]
  show readTokens limit (.colon name) _ _ = _
  rw [readTokens_cons]
  show readTokens limit .value (.entry done name :: stack) _ = _
  rw [hv]
  rfl

/-- Further entries are put after those that are done. -/
theorem readTokens_entriesTokens (hroom : stack.length + 1 + room ≤ limit)
    {es : List (String × Value)} (h : ∀ e ∈ es, ReadsIn limit room e.2)
    (done : List (String × Value)) (ts : List Token) :
    readTokens limit .separator (.entries done :: stack) (entriesTokens es ++ .closeObject :: ts)
      = (Progress.place (.object (done.reverse ++ es)) stack).resume limit ts := by
  induction es generalizing done with
  | nil =>
    rw [entriesTokens, List.nil_append, readTokens_cons, List.append_nil]
    rfl
  | cons e es ih =>
    rw [entriesTokens, List.cons_append, List.append_assoc, readTokens_cons]
    show readTokens limit .key (.entries done :: stack) _ = _
    rw [readTokens_entryTokens hroom (h e List.mem_cons_self) (Or.inr rfl),
      ih (fun f hf => h f (List.mem_cons_of_mem e hf)), List.reverse_cons, List.append_assoc,
      List.singleton_append]

/-- An object is read if its values are. -/
theorem readsIn_object {es : List (String × Value)} (h : ∀ e ∈ es, ReadsIn limit room e.2) :
    ReadsIn limit (room + 1) (.object es) := by
  intro stack ts hroom
  have hroom' : stack.length + 1 + room ≤ limit := by omega
  have hopen : Progress.value limit stack .openObject = .more .firstKey (.entries [] :: stack) :=
    if_pos (by omega)
  cases es with
  | nil =>
    show readTokens limit .value stack (.openObject :: .closeObject :: ts) = _
    rw [readTokens_cons, show Progress.step limit .value stack .openObject = _ from hopen]
    show readTokens limit .firstKey _ _ = _
    rw [readTokens_cons]
    rfl
  | cons e es =>
    rw [Value.tokens, List.cons_append, List.append_assoc, List.append_assoc,
      List.singleton_append, readTokens_cons,
      show Progress.step limit .value stack .openObject = _ from hopen]
    show readTokens limit .firstKey _ _ = _
    rw [readTokens_entryTokens hroom' (h e List.mem_cons_self) (Or.inl rfl),
      readTokens_entriesTokens hroom' (fun f hf => h f (List.mem_cons_of_mem e hf))]
    rfl

/-! ### Documents -/

/-- A value is read where there is room for it. -/
theorem Value.Fits.readsIn {v : Value} (h : v.Fits room) : ReadsIn limit room v := by
  induction h with
  | array _ ih => exact readsIn_array ih
  | object _ ih => exact readsIn_object ih
  | _ =>
    intro stack ts _
    show readTokens limit .value stack (_ :: ts) = _
    rw [readTokens_cons]
    rfl

/-- A document of a value for which there is room is read to its end. -/
theorem IsDocument.read?_of_readsIn {text : String} {v : Value} (h : IsDocument text v)
    (hreads : ReadsIn limit limit v) : read? limit text = some ⟨v, true⟩ := by
  have hread := hreads [] [] (by simp)
  rw [List.append_nil] at hread
  rw [read?, h.scan_eq, hread]
  rfl

/-- The reader reads every document whose nesting is within the limit, to its end. -/
theorem IsDocument.read?_eq {text : String} {v : Value} (h : IsDocument text v)
    (hv : v.Fits limit) : read? limit text = some ⟨v, true⟩ :=
  h.read?_of_readsIn hv.readsIn

end RecordSql.Document
