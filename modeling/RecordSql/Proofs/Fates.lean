import Mathlib.Data.List.Forall2
import RecordSql.Proofs.Draft

/-!
# `RecordSql.Proofs.Fates`: what decides about an offer

When a draft takes up an offer, it compares texts, but what it does with the offer is told by a
`Fate`: the label under which the statement is added, is found to be there already, or is dropped.
`take_eq_undergo` says that the fate is all there is to it.

So two drafts do the same with two offers as soon as they compare alike, whatever the texts are.
`Draft.Alike` relates drafts whose statements have the same labels and kinds, and texts related by
some `R`. If equal texts are related to equal ones only (`Respects`), then offers with related
texts have the same fate in both drafts (`fate_eq`), the drafts stay related (`alike_take`), and so
on through any number of offers (`fates_eq`, `alike_foldl`).
-/

set_option autoImplicit false

namespace RecordSql.Catalog

/-- What becomes of an offer. -/
inductive Fate where
  /-- Its statement is added under a label. -/
  | added (label : String)
  /-- It is passed over, because the statement of a label has its text. -/
  | merged (label : String)
  /-- It is dropped, and this label is named in the warning. -/
  | dropped (label : String)
deriving DecidableEq, Repr

namespace Draft

/-- What becomes of a text under a label; `otherwise` is what becomes of it if the label belongs to
another text. -/
def fateAs (r : Draft) (sql label : String) (otherwise : Fate) : Fate :=
  match r.holder? label with
  | none => .added label
  | some s => if s.sql = sql then .merged label else otherwise

/-- What becomes of an offer. -/
def fate (r : Draft) (o : Offer) : Fate :=
  let label := Identifier.label o.label
  r.fateAs o.sql label <|
    match o.qualifier with
    | none => .dropped label
    | some q =>
      let label := Identifier.label (Offer.qualifiedLabel o.label q)
      r.fateAs o.sql label (.dropped label)

/-- The draft after an offer has had its fate. -/
def undergo (r : Draft) (o : Offer) : Fate → Draft
  | .added label => r.add ⟨label, o.kind, o.sql⟩
  | .merged _ => r
  | .dropped label => r.drop label

/-- What becomes of offers that are taken up one after the other. -/
def fates (r : Draft) : List Offer → List Fate
  | [] => []
  | o :: os => r.fate o :: (r.take o).fates os

/-- Taking up a statement under a label is what its fate says. -/
theorem offerAs_eq_undergo (r : Draft) (o : Offer) (label : String) (otherwise : Fate) :
    r.offerAs o.kind o.sql label (r.undergo o otherwise)
      = r.undergo o (r.fateAs o.sql label otherwise) := by
  unfold offerAs fateAs
  cases r.holder? label with
  | none => rfl
  | some s =>
    by_cases hsql : s.sql = o.sql
    · simp [hsql, undergo]
    · simp [hsql]

/-- Taking up an offer is what its fate says. -/
theorem take_eq_undergo (r : Draft) (o : Offer) : r.take o = r.undergo o (r.fate o) := by
  unfold take fate
  rw [← offerAs_eq_undergo]
  cases o.qualifier with
  | none => rfl
  | some q =>
    dsimp only
    rw [← offerAs_eq_undergo]
    rfl

end Draft

/-! ### Drafts with other texts -/

section

variable (R : String → String → Prop)

/-- Related texts are equal exactly if the texts to which they are related are. -/
def Respects : Prop :=
  ∀ ⦃a a' b b' : String⦄, R a a' → R b b' → (a = b ↔ a' = b')

/-- Two offers differ in their texts only, and these are related. -/
structure Offer.Alike (o o' : Offer) : Prop where
  kind : o.kind = o'.kind
  text : R o.sql o'.sql
  label : o.label = o'.label
  qualifier : o.qualifier = o'.qualifier

/-- Two statements differ in their texts only, and these are related. -/
structure StatementsAlike (s s' : Statement) : Prop where
  label : s.label = s'.label
  kind : s.kind = s'.kind
  text : R s.sql s'.sql

/-- Two drafts differ in the texts of their statements only, and these are related. -/
structure Draft.Alike (r r' : Draft) : Prop where
  table : r.table = r'.table
  statements : List.Forall₂ (StatementsAlike R) r.statements r'.statements
  labels : r.labels = r'.labels
  dropped : r.dropped = r'.dropped

end

/-- Related lists have related members at each place. -/
theorem rel_getElem? {α β : Type} {S : α → β → Prop} {xs : List α} {ys : List β}
    (h : List.Forall₂ S xs ys) (i : Nat) : Option.Rel S xs[i]? ys[i]? := by
  induction h generalizing i with
  | nil => exact Option.Rel.none
  | cons hxy _ ih =>
    cases i with
    | zero => exact Option.Rel.some hxy
    | succ i => exact ih i

namespace Draft

variable {R : String → String → Prop} {r r' : Draft} {o o' : Offer}

/-- A label belongs to related statements, or to none on both sides. -/
theorem Alike.holder? (h : r.Alike R r') (label : String) :
    Option.Rel (StatementsAlike R) (r.holder? label) (r'.holder? label) := by
  unfold Draft.holder?
  rw [← h.labels]
  cases r.labels.lookup label with
  | none => exact Option.Rel.none
  | some i => exact rel_getElem? h.statements i

/-- Related texts have the same fate under a label. -/
theorem Alike.fateAs_eq (hR : Respects R) (h : r.Alike R r') {sql sql' : String}
    (hsql : R sql sql') (label : String) (otherwise : Fate) :
    r.fateAs sql label otherwise = r'.fateAs sql' label otherwise := by
  have hholder := h.holder? label
  unfold fateAs
  generalize r.holder? label = s at hholder ⊢
  generalize r'.holder? label = s' at hholder ⊢
  cases hholder with
  | none => rfl
  | some halike =>
    have hiff := hR halike.text hsql
    dsimp only
    exact if_congr hiff rfl rfl

/-- Related offers have the same fate in related drafts. -/
theorem Alike.fate_eq (hR : Respects R) (h : r.Alike R r') (ho : o.Alike R o') :
    r.fate o = r'.fate o' := by
  unfold fate
  rw [← ho.label, ← ho.qualifier]
  dsimp only
  rw [h.fateAs_eq hR ho.text]
  cases o.qualifier with
  | none => rfl
  | some q =>
    dsimp only
    rw [h.fateAs_eq hR ho.text]

/-- Related drafts stay related when a related offer has the same fate in both. -/
theorem Alike.undergo (h : r.Alike R r') (ho : o.Alike R o') (f : Fate) :
    (r.undergo o f).Alike R (r'.undergo o' f) := by
  cases f with
  | added label =>
    refine ⟨h.table, ?_, ?_, h.dropped⟩
    · exact List.rel_append h.statements
        (List.Forall₂.cons ⟨rfl, ho.kind, ho.text⟩ List.Forall₂.nil)
    · show (label, r.statements.length) :: r.labels = (label, r'.statements.length) :: r'.labels
      rw [h.statements.length_eq, h.labels]
  | merged label => exact h
  | dropped label =>
    refine ⟨h.table, h.statements, h.labels, ?_⟩
    show r.dropped ++ [⟨r.table, label⟩] = r'.dropped ++ [⟨r'.table, label⟩]
    rw [h.dropped, h.table]

/-- Related drafts stay related when they take up related offers. -/
theorem Alike.take (hR : Respects R) (h : r.Alike R r') (ho : o.Alike R o') :
    (r.take o).Alike R (r'.take o') := by
  rw [take_eq_undergo, take_eq_undergo, ← h.fate_eq hR ho]
  exact h.undergo ho (r.fate o)

/-- So do any number of offers. -/
theorem Alike.foldl (hR : Respects R) (h : r.Alike R r') {os os' : List Offer}
    (hos : List.Forall₂ (Offer.Alike R) os os') :
    (os.foldl Draft.take r).Alike R (os'.foldl Draft.take r') := by
  induction hos generalizing r r' with
  | nil => exact h
  | cons ho _ ih => exact ih (h.take hR ho)

/-- Each of them has the same fate in both. -/
theorem Alike.fates_eq (hR : Respects R) (h : r.Alike R r') {os os' : List Offer}
    (hos : List.Forall₂ (Offer.Alike R) os os') : r.fates os = r'.fates os' := by
  induction hos generalizing r r' with
  | nil => rfl
  | cons ho _ ih => rw [fates, fates, h.fate_eq hR ho, ih (h.take hR ho)]

/-- Related drafts have the same labels and kinds. -/
theorem Alike.map_eq (h : r.Alike R r') :
    r.statements.map (fun s => (s.label, s.kind))
      = r'.statements.map fun s => (s.label, s.kind) := by
  have hall := h.statements
  generalize r.statements = ss at hall ⊢
  generalize r'.statements = ss' at hall ⊢
  induction hall with
  | nil => rfl
  | cons hs _ ih => rw [List.map_cons, List.map_cons, hs.label, hs.kind, ih]

end Draft

end RecordSql.Catalog
