import Mathlib.Data.List.Basic
import RecordSql.Table.Registry

/-!
# `RecordSql.Proofs.Registry`: a registry groups what is put into it

Items are put into a registry one after the other, each under its own name. The registry
finds the entry of a name through its map of places, so its result depends on that map
being right after every step. `Registry.Groups` is the invariant: the map holds exactly
the places of the names, and every entry is made of the items of its name and of no other.

* `Registry.groups_update`: one more item keeps the invariant.
* `Registry.groups_foldl`: so do any number of items.
* `Registry.Groups.entries_eq`: so the entries are `groupedBy`, the groups in closed form.
* `map_nameOf_groupedBy`, `eq_make_of_mem_groupedBy`, `flatMap_groupedBy_perm`: the groups
  have the names of the items in the order of first occurrence, each is made of all items
  of its name, and together they hold every item as often as before.
-/

set_option autoImplicit false

namespace RecordSql.Table

section Distinct

variable {α : Type} [DecidableEq α]

/-- One more element joins the distinct ones at the end, unless it is there already. -/
theorem eraseDups_concat (xs : List α) (x : α) :
    (xs ++ [x]).eraseDups = if x ∈ xs then xs.eraseDups else xs.eraseDups ++ [x] := by
  rw [List.eraseDups_append]
  split
  · rename_i h
    simp [List.removeAll, h]
  · rename_i h
    simp [List.removeAll, h, List.eraseDups_cons]

/-- The distinct elements of a list are distinct. -/
theorem nodup_eraseDups (xs : List α) : xs.eraseDups.Nodup := by
  -- From the back, where `eraseDups` adds at most one element.
  rw [← xs.reverse_reverse]
  induction xs.reverse with
  | nil => simp
  | cons x ys ih =>
    rw [List.reverse_cons, eraseDups_concat]
    split
    · exact ih
    · rename_i h
      rw [List.nodup_append]
      refine ⟨ih, by simp, ?_⟩
      intro y hy z hz hyz
      rw [List.mem_singleton] at hz
      rw [List.mem_eraseDups] at hy
      exact h (hz ▸ hyz ▸ hy)

end Distinct

namespace Registry

variable {α β : Type}

/-- The entry that the items of one name make: fresh from the first of them, with all of
them put in. -/
def entryOf (fresh : β → α) (put : β → α → α) : List β → Option α
  | [] => none
  | x :: xs => some ((x :: xs).foldl (fun a y => put y a) (fresh x))

/-- One more item of a name that has items already is put into their entry. -/
theorem entryOf_concat (fresh : β → α) (put : β → α → α) {xs : List β} {a : α} (x : β)
    (h : entryOf fresh put xs = some a) : entryOf fresh put (xs ++ [x]) = some (put x a) := by
  cases xs with
  | nil => cases h
  | cons y ys =>
    simp only [entryOf, Option.some.injEq] at h
    simp only [entryOf, List.cons_append, Option.some.injEq]
    rw [← List.cons_append, List.foldl_append, h]
    rfl

variable {key : β → String} {fresh : β → α} {put : β → α → α}

/-- What a registry holds after some items:

- `places`: the map leads exactly from the names of the items, in the order of their first
  occurrence, to their positions;
- `entries`: at each position stands the entry of the items of that name. -/
structure Groups (key : β → String) (fresh : β → α) (put : β → α → α) (xs : List β)
    (r : Registry α) : Prop where
  places : ∀ name i, r.places.lookup name = some i ↔ (xs.map key).eraseDups[i]? = some name
  entries : r.entries.map some
    = (xs.map key).eraseDups.map fun name => entryOf fresh put (xs.filter (key · = name))

/-- An empty registry holds no items. -/
theorem groups_nil : Groups key fresh put [] {} where
  places := by simp
  entries := rfl

/-- There is one entry for each name. -/
theorem Groups.length_eq {xs : List β} {r : Registry α} (h : Groups key fresh put xs r) :
    r.entries.length = (xs.map key).eraseDups.length := by
  have hlen := congrArg List.length h.entries
  rwa [List.length_map, List.length_map] at hlen

/-- A name without a place is not the name of an item. -/
theorem Groups.not_mem {xs : List β} {r : Registry α} (h : Groups key fresh put xs r)
    {name : String} (hnone : r.places.lookup name = none) : name ∉ xs.map key := by
  intro hmem
  obtain ⟨i, hi⟩ := List.getElem?_of_mem (List.mem_eraseDups.mpr hmem)
  rw [(h.places name i).mpr hi] at hnone
  cases hnone

/-- An item of another name changes nothing about the items of a name. -/
theorem filter_concat_of_ne (xs : List β) (x : β) {name : String} (h : key x ≠ name) :
    (xs ++ [x]).filter (key · = name) = xs.filter (key · = name) := by
  simp [List.filter_append, h]

/-- With one more name at the end, a name stands where it stood before, or it is the new
one and stands at the end. -/
theorem getElem?_concat_eq_some_iff (names : List String) (new name : String) (i : Nat) :
    (names ++ [new])[i]? = some name
      ↔ names[i]? = some name ∨ i = names.length ∧ name = new := by
  -- Before the end, at the end, and after it.
  rcases Nat.lt_trichotomy i names.length with hlt | heq | hgt
  · rw [List.getElem?_append_left hlt]
    constructor
    · exact Or.inl
    · rintro (h | ⟨rfl, -⟩)
      · exact h
      · exact absurd hlt (Nat.lt_irrefl _)
  · subst heq
    rw [List.getElem?_concat_length, List.getElem?_eq_none (Nat.le_refl _)]
    simp [eq_comm]
  · rw [List.getElem?_eq_none (Nat.le_of_lt hgt),
      List.getElem?_eq_none (by rw [List.length_append]; exact hgt)]
    simp [Nat.ne_of_gt hgt]

/-- The map of places stays right when a new name joins the names at the end. -/
theorem lookup_cons_iff {places : List (String × Nat)} {names : List String}
    (h : ∀ name i, places.lookup name = some i ↔ names[i]? = some name) {new : String}
    (hnew : new ∉ names) (name : String) (i : Nat) :
    ((new, names.length) :: places).lookup name = some i
      ↔ (names ++ [new])[i]? = some name := by
  rw [List.lookup_cons, getElem?_concat_eq_some_iff]
  by_cases hname : name = new
  · -- The new name stands nowhere among the old ones, so its place is the last.
    subst hname
    have hold : names[i]? ≠ some name := fun hi => hnew (List.mem_of_getElem? hi)
    rw [beq_self_eq_true]
    simp [hold, eq_comm]
  · rw [beq_false_of_ne hname]
    simp [hname, h]

/-- An item of a new name opens a group at the end. -/
theorem groups_open {xs : List β} {r : Registry α} (h : Groups key fresh put xs r) (x : β)
    (hnone : r.places.lookup (key x) = none) :
    Groups key fresh put (xs ++ [x])
      { entries := r.entries ++ [put x (fresh x)]
        places := (key x, r.entries.length) :: r.places } := by
  have hnew : key x ∉ (xs.map key).eraseDups := fun hmem =>
    h.not_mem hnone (List.mem_eraseDups.mp hmem)
  have hnames : ((xs ++ [x]).map key).eraseDups = (xs.map key).eraseDups ++ [key x] := by
    rw [List.map_append, List.map_singleton, eraseDups_concat, if_neg (h.not_mem hnone)]
  constructor
  · intro name i
    rw [hnames, h.length_eq]
    exact lookup_cons_iff h.places hnew name i
  · rw [hnames, List.map_append, List.map_append, h.entries]
    congr 1
    · -- The groups that are there have none of the new item.
      refine List.map_congr_left ?_
      intro name hname
      rw [filter_concat_of_ne]
      intro heq
      exact hnew (heq ▸ hname)
    · have hold : xs.filter (key · = key x) = [] := by
        rw [List.filter_eq_nil_iff]
        intro y hy heq
        exact h.not_mem hnone (List.mem_map.mpr ⟨y, hy, of_decide_eq_true heq⟩)
      have hall : (xs ++ [x]).filter (key · = key x) = [x] := by
        rw [List.filter_append, hold]
        simp
      rw [List.map_singleton, List.map_singleton, hall]
      rfl

/-- An item of a known name joins the group of its name. -/
theorem groups_join {xs : List β} {r : Registry α} (h : Groups key fresh put xs r) (x : β)
    {i : Nat} (hi : r.places.lookup (key x) = some i) :
    Groups key fresh put (xs ++ [x]) { r with entries := r.entries.modify i (put x) } := by
  have hplace : (xs.map key).eraseDups[i]? = some (key x) := (h.places _ _).mp hi
  have hold : key x ∈ xs.map key := List.mem_eraseDups.mp (List.mem_of_getElem? hplace)
  have hnames : ((xs ++ [x]).map key).eraseDups = (xs.map key).eraseDups := by
    rw [List.map_append, List.map_singleton, eraseDups_concat, if_pos hold]
  constructor
  · rw [hnames]
    exact h.places
  · rw [hnames]
    refine List.ext_getElem? ?_
    intro j
    have hj := congrArg (·[j]?) h.entries
    simp only [List.getElem?_map] at hj ⊢
    rw [List.getElem?_modify]
    cases hn : (xs.map key).eraseDups[j]? with
    | none =>
      rw [hn] at hj
      have hnone : r.entries[j]? = none := by simpa using hj
      simp [hnone]
    | some name =>
      rw [hn, Option.map_some] at hj
      obtain ⟨a, ha, hentry⟩ := Option.map_eq_some_iff.mp hj
      rw [ha]
      by_cases hij : i = j
      · -- The place of `x`: the entry there is that of the items of its name.
        subst hij
        rw [hplace] at hn
        cases hn
        have hfilter : (xs ++ [x]).filter (key · = key x) = xs.filter (key · = key x) ++ [x] := by
          simp [List.filter_append]
        simp only [if_true, Option.map_some, hfilter, entryOf_concat fresh put x hentry.symm]
        rfl
      · -- Any other place: names are distinct, so `x` is not among its items.
        have hne : key x ≠ name := by
          intro heq
          subst heq
          exact hij ((List.getElem?_inj (List.getElem?_eq_some_iff.mp hplace).1
            (nodup_eraseDups _)).mp (hplace.trans hn.symm))
        simp only [if_neg hij, Option.map_some, filter_concat_of_ne xs x hne, ← hentry]
        rfl

/-- One more item keeps a registry right. -/
theorem groups_update {xs : List β} {r : Registry α} (h : Groups key fresh put xs r) (x : β) :
    Groups key fresh put (xs ++ [x]) (r.update (key x) (fresh x) (put x)) := by
  unfold update
  split
  · rename_i i hi
    exact groups_join h x hi
  · rename_i hnone
    exact groups_open h x hnone

/-- Any number of items keep a registry right. -/
theorem groups_foldl {xs : List β} {r : Registry α} (h : Groups key fresh put xs r)
    (ys : List β) :
    Groups key fresh put (xs ++ ys)
      (ys.foldl (fun r y => r.update (key y) (fresh y) (put y)) r) := by
  induction ys generalizing xs r with
  | nil => rwa [List.append_nil]
  | cons y ys ih =>
    rw [List.append_cons, List.foldl_cons]
    exact ih (groups_update h y)

end Registry

/-! ### The groups in closed form -/

section Grouped

variable {α β γ : Type} {key : β → String} {make : String → List β → α}

/-- For each distinct name, in the order of first occurrence, what `make` makes of all items
of that name. -/
def groupedBy (key : β → String) (make : String → List β → α) (xs : List β) : List α :=
  (xs.map key).eraseDups.map fun name => make name (xs.filter (key · = name))

/-- A name that items have is the name of one of them. -/
theorem filter_ne_nil_of_mem_eraseDups {xs : List β} {name : String}
    (h : name ∈ (xs.map key).eraseDups) : xs.filter (key · = name) ≠ [] := by
  obtain ⟨x, hx, hkey⟩ := List.mem_map.mp (List.mem_eraseDups.mp h)
  exact List.ne_nil_of_mem (List.mem_filter.mpr ⟨hx, decide_eq_true hkey⟩)

/-- The entries of a registry, where `make` says in one step what the items of a name
make. -/
theorem Registry.Groups.entries_eq {fresh : β → α} {put : β → α → α} {xs : List β}
    {r : Registry α} (h : Groups key fresh put xs r)
    (hmake : ∀ x ys, (x :: ys).foldl (fun a y => put y a) (fresh x) = make (key x) (x :: ys)) :
    r.entries = groupedBy key make xs := by
  -- The invariant speaks of entries as options, so both sides are compared under `some`.
  have hsome : r.entries.map some = (groupedBy key make xs).map some := by
    unfold groupedBy
    rw [h.entries, List.map_map]
    refine List.map_congr_left ?_
    intro name hname
    show entryOf fresh put (xs.filter (key · = name))
      = some (make name (xs.filter (key · = name)))
    have hitems := filter_ne_nil_of_mem_eraseDups hname
    have hnames : ∀ y ∈ xs.filter (key · = name), key y = name := fun y hy =>
      of_decide_eq_true (List.mem_filter.mp hy).2
    -- The fresh entry is named by the first item, and all items have the same name.
    cases hfilter : xs.filter (key · = name) with
    | nil => exact absurd hfilter hitems
    | cons y ys =>
      rw [hfilter] at hnames
      rw [entryOf, hmake y ys, hnames y List.mem_cons_self]
  exact (List.map_inj_right fun _ _ => Option.some.inj).mp hsome

/-- The items of distinct names, name by name, are the items of these names. -/
theorem flatMap_filter_perm_filter (key : β → String) (xs : List β) {names : List String}
    (h : names.Nodup) :
    (names.flatMap fun name => xs.filter (key · = name)).Perm (xs.filter (key · ∈ names)) := by
  induction names with
  | nil => simp
  | cons name names ih =>
    obtain ⟨hname, hnames⟩ := List.nodup_cons.mp h
    rw [List.flatMap_cons]
    -- The items of `name :: names` are those of `name` and the others.
    have hsplit := List.filter_append_perm (key · = name) (xs.filter (key · ∈ name :: names))
    rw [List.filter_filter, List.filter_filter] at hsplit
    have hthese : xs.filter (fun x => decide (key x = name) && decide (key x ∈ name :: names))
        = xs.filter (key · = name) := by
      refine List.filter_congr ?_
      intro x _
      by_cases hx : key x = name <;> simp [hx]
    have hothers : xs.filter (fun x => !decide (key x = name) && decide (key x ∈ name :: names))
        = xs.filter (key · ∈ names) := by
      refine List.filter_congr ?_
      intro x _
      by_cases hx : key x = name
      · simp [hx, hname]
      · simp [hx]
    rw [hthese, hothers] at hsplit
    exact ((ih hnames).append_left _).trans hsplit

/-- The items of all names, name by name, are all items: none is lost and none is there
twice. -/
theorem flatMap_filter_perm (key : β → String) (xs : List β) :
    ((xs.map key).eraseDups.flatMap fun name => xs.filter (key · = name)).Perm xs := by
  -- Every item has one of the names, so the filter passes all of them.
  have hall : xs.filter (key · ∈ (xs.map key).eraseDups) = xs := by
    rw [List.filter_eq_self]
    intro x hx
    exact decide_eq_true (List.mem_eraseDups.mpr (List.mem_map_of_mem hx))
  have hperm := flatMap_filter_perm_filter key xs (nodup_eraseDups (xs.map key))
  rwa [hall] at hperm

variable {nameOf : α → String}

/-- The groups have the distinct names of the items, in the order of first occurrence. -/
theorem map_nameOf_groupedBy (hname : ∀ name items, nameOf (make name items) = name)
    (xs : List β) : (groupedBy key make xs).map nameOf = (xs.map key).eraseDups := by
  unfold groupedBy
  rw [List.map_map]
  calc (xs.map key).eraseDups.map (nameOf ∘ fun name => make name (xs.filter (key · = name)))
      = (xs.map key).eraseDups.map id := List.map_congr_left fun name _ => hname name _
    _ = (xs.map key).eraseDups := List.map_id _

/-- A group is made of all items of its name, and there is one at least. -/
theorem eq_make_of_mem_groupedBy (hname : ∀ name items, nameOf (make name items) = name)
    {xs : List β} {a : α} (h : a ∈ groupedBy key make xs) :
    a = make (nameOf a) (xs.filter (key · = nameOf a)) ∧
      xs.filter (key · = nameOf a) ≠ [] := by
  obtain ⟨name, hmem, rfl⟩ := List.mem_map.mp h
  rw [hname]
  exact ⟨rfl, filter_ne_nil_of_mem_eraseDups hmem⟩

/-- Grouping keeps every item, each under its name and as often as it is there. `view` reads
off a group what `item` reads off its items. -/
theorem flatMap_groupedBy_perm (hname : ∀ name items, nameOf (make name items) = name)
    {view : α → List γ} {item : β → γ}
    (hview : ∀ name items, view (make name items) = items.map item) (xs : List β) :
    ((groupedBy key make xs).flatMap fun a => (view a).map fun c => (nameOf a, c)).Perm
      (xs.map fun x => (key x, item x)) := by
  have hgroup : ∀ name ∈ (xs.map key).eraseDups,
      (view (make name (xs.filter (key · = name)))).map
          (fun c => (nameOf (make name (xs.filter (key · = name))), c))
        = (xs.filter (key · = name)).map fun x => (key x, item x) := by
    intro name _
    rw [hview, hname, List.map_map]
    refine List.map_congr_left ?_
    intro x hx
    rw [of_decide_eq_true (List.mem_filter.mp hx).2]
    rfl
  -- Group by group these are the items of the distinct names, which are all items.
  unfold groupedBy
  rw [List.flatMap_map, List.flatMap_congr hgroup, ← List.map_flatMap]
  exact (flatMap_filter_perm key xs).map _

end Grouped

end RecordSql.Table
