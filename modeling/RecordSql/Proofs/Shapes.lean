import RecordSql.Proofs.Denotations

/-!
# `RecordSql.Proofs.Shapes`: one record or a list of them

A document holds the definition of one record or a list of definitions, and nothing says which.
A definition can be a list itself, the list of its fields. The two are still never confused: the
first field is a string (`exists_head?_of_nested?`), and no definition is a string
(`ne_string_of_nestedList?`).

`shapes_are_disjoint` draws the conclusions. It does not matter which of the two is tried first,
and a list of definitions is read as what its items are.
-/

set_option autoImplicit false

namespace RecordSql.Document

open RecordSql.Record (Nested Tree)

/-- The records of a document, if a list is tried first. -/
def recordsListFirst? (v : Value) : Option (List Nested) :=
  match nestedList? v with
  | some ds => some ds
  | none => (nested? v).map fun d => [d]

/-- The field trees of a document, with a given way to find the records in a value. -/
def readTreesBy (records? : Value → Option (List Nested)) (text : String) :
    Except DocumentError (List Tree) :=
  match read? nestingLimit text with
  | none => .error .notJson
  | some reading =>
    match records? reading.value with
    | none => .error .notRecords
    | some ds => if reading.isWhole then .ok (ds.map Nested.toTree) else .error .notJson

variable {items : List Value} {ds : List Nested}

/-- If a definition is a list, it begins with a string. -/
theorem exists_head?_of_nested? {d : Nested} (h : nested? (.array items) = some d) :
    ∃ s, items.head? = some (.string s) := by
  obtain ⟨hslots, -, -, -⟩ := (nested?_eq_some_iff d _).mp h
  rw [List.head?_eq_getElem?, ← hslots.getD_eq 0]
  exact ⟨_, rfl⟩

/-- A list of definitions has a definition for each of its items. -/
theorem forall₂_of_nestedList? (h : nestedList? (.array items) = some ds) :
    List.Forall₂ (fun v d => nested? v = some d) items ds :=
  ((nestedAll?_eq_some_iff ds items).mp h).imp fun v d => (nested?_eq_some_iff d v).mpr

/-- The items of a list of definitions are no strings. -/
theorem ne_string_of_nestedList? (h : nestedList? (.array items) = some ds) {v : Value}
    (hv : v ∈ items) (s : String) : v ≠ .string s := by
  rintro rfl
  have hitems : List.Forall₂ (fun d v => nested? v = some d) ds items :=
    (forall₂_of_nestedList? h).flip
  obtain ⟨d, -, hd⟩ := Catalog.exists_of_mem_forall₂ hitems hv
  cases hd

/-- No value is both a definition and a list of definitions. -/
theorem nested?_eq_none_or_nestedList?_eq_none (v : Value) :
    nested? v = none ∨ nestedList? v = none := by
  cases v with
  | array items =>
    refine or_iff_not_imp_left.mpr fun hone => ?_
    refine Option.eq_none_iff_forall_ne_some.mpr fun ds hmany => ?_
    -- The first item would be a string and a definition.
    obtain ⟨d, hd⟩ := Option.ne_none_iff_exists'.mp hone
    obtain ⟨s, hs⟩ := exists_head?_of_nested? hd
    exact ne_string_of_nestedList? hmany (List.mem_of_mem_head? hs) s rfl
  | object entries => exact Or.inr rfl
  | _ => exact Or.inl rfl

/-- A list of definitions is read as what its items are. -/
theorem records?_of_nestedList? {v : Value} (h : nestedList? v = some ds) :
    records? v = some ds := by
  rcases nested?_eq_none_or_nestedList?_eq_none v with hone | hmany
  · rw [records?, hone, h]
  · rw [hmany] at h
    cases h

/-- The order in which the two are tried makes no difference. -/
theorem recordsListFirst?_eq (v : Value) : recordsListFirst? v = records? v := by
  cases hmany : nestedList? v with
  | some ds => rw [records?_of_nestedList? hmany, recordsListFirst?, hmany]
  | none =>
    rw [recordsListFirst?, hmany, records?, hmany]
    cases nested? v <;> rfl

/-- A text that is one whole value is read as the records of the value. -/
theorem readTrees_of_records? {text : String} {v : Value}
    (hread : read? nestingLimit text = some ⟨v, true⟩) (h : records? v = some ds) :
    readTrees text = .ok (ds.map Nested.toTree) := by
  rw [readTrees, hread]
  simp [h]

/-- A document is one definition or a list of definitions, never both. So it does not matter which
of the two is tried first. An array that is one definition begins with a string, and an array
that is a list of definitions has no string among its items. An array whose items are definitions
is read as their trees in order, and an array that is read as a list gives as many trees as it has
items. -/
theorem shapes_are_disjoint :
    (∀ v, nested? v = none ∨ nestedList? v = none) ∧
    (∀ text, readTreesBy recordsListFirst? text = readTrees text) ∧
    (∀ items d, nested? (.array items) = some d → ∃ s, items.head? = some (.string s)) ∧
    (∀ items ds, nestedList? (.array items) = some ds → ∀ s, Value.string s ∉ items) ∧
    (∀ text items ds, read? nestingLimit text = some ⟨.array items, true⟩ →
      List.Forall₂ (fun v d => nested? v = some d) items ds →
      readTrees text = .ok (ds.map Nested.toTree)) ∧
    ∀ text items ds, read? nestingLimit text = some ⟨.array items, true⟩ →
      nestedList? (.array items) = some ds →
      ∃ ts, readTrees text = .ok ts ∧ ts.length = items.length := by
  refine ⟨nested?_eq_none_or_nestedList?_eq_none, fun text => ?_,
    fun items d => exists_head?_of_nested?,
    fun items ds hmany s hs => ne_string_of_nestedList? hmany hs s rfl,
    fun text items ds hread hitems => ?_, fun text items ds hread hmany => ?_⟩
  · rw [show recordsListFirst? = records? from funext recordsListFirst?_eq]
    rfl
  · have hmany : nestedList? (.array items) = some ds :=
      (nestedAll?_eq_some_iff ds items).mpr <|
        hitems.imp fun v d => (nested?_eq_some_iff d v).mp
    exact readTrees_of_records? hread (records?_of_nestedList? hmany)
  · refine ⟨_, readTrees_of_records? hread (records?_of_nestedList? hmany), ?_⟩
    rw [List.length_map, (forall₂_of_nestedList? hmany).length_eq]

/-- A list of two strings is one definition, and a list with such a list has one definition. -/
theorem shapes_are_disjoint_pair :
    let pair := [Value.string "A", .string "B"]
    let d := Nested.field "A" "B" none none []
    nested? (.array pair) = some d ∧ nestedList? (.array pair) = none ∧
    nested? (.array [.array pair]) = none ∧
    readTrees "[[\"A\",\"B\"]]" = .ok [d.toTree] := by
  intro pair d
  have hone : nested? (.array pair) = some d := rfl
  have hmany : nestedList? (.array [.array pair]) = some [d] := rfl
  have hread : read? nestingLimit "[[\"A\",\"B\"]]" = some ⟨.array [.array pair], true⟩ := rfl
  obtain ⟨hnever, -, -, -, hlist, -⟩ := shapes_are_disjoint
  refine ⟨hone, (hnever _).resolve_left ?_, (hnever _).resolve_right ?_, ?_⟩
  · rw [hone]
    exact Option.some_ne_none d
  · rw [hmany]
    exact Option.some_ne_none [d]
  · exact hlist _ _ [d] hread (List.Forall₂.cons hone List.Forall₂.nil)

end RecordSql.Document
