import Mathlib.Data.List.Forall2
import RecordSql.Document.Decode
import RecordSql.Proofs.RoundTrip

/-!
# `RecordSql.Proofs.Structures`: the ways to write a structure

A structure may be written as the list of its fields or as an object, with any keys that it does
not know and in any order. `Value.HasSlots` says this as a relation between a value and what the
fields of a structure hold, without looking at how an object is searched. `slots?_eq_some_iff`
compares it with the search: it finds what the relation says, and it finds nothing else.

The parts of a structure are treated in the same way. A field with a default may be left out
(`OrDefault`), text may be null (`OrNull`), and a list has one item for each of its members
(`ListOf`). Each comes with the decoder that it describes, for any relation that its content
satisfies.

The module ends with the nesting of values (`Value.depth`) and the room that the reader needs for
them.
-/

set_option autoImplicit false

namespace RecordSql.Document

/-! ### Results of a list -/

/-- The items of a list have results if each of them has its own. -/
theorem mapM_eq_some_iff {α β : Type} {f : α → Option β} {xs : List α} {ys : List β} :
    xs.mapM f = some ys ↔ List.Forall₂ (fun x y => f x = some y) xs ys := by
  induction xs generalizing ys with
  | nil => simp [eq_comm]
  | cons x xs ih =>
    simp only [List.mapM_cons, Option.bind_eq_bind, Option.bind_eq_some_iff, ih,
      List.forall₂_cons_left_iff]
    constructor
    · rintro ⟨y, hy, ys', hys, hcons⟩
      exact ⟨y, ys', hy, hys, (Option.some.inj hcons).symm⟩
    · rintro ⟨y, ys', hy, hys, rfl⟩
      exact ⟨y, hy, ys', hys, rfl⟩

/-! ### Fields of an object -/

/-- The entry of a field, if the field is given. -/
def entryOf (name : String) (slot : Option Value) : List (String × Value) :=
  (slot.map (name, ·)).toList

/-- The entries of the fields that are given. -/
def entriesOf (names : List String) (slots : List (Option Value)) : List (String × Value) :=
  (List.zipWith entryOf names slots).flatten

/-- The entry of a field has its name. -/
theorem key_of_mem_entryOf {name : String} {slot : Option Value} {e : String × Value}
    (h : e ∈ entryOf name slot) : e.1 = name := by
  cases slot with
  | none => cases h
  | some v => rw [List.mem_singleton.mp h]

/-- The entries of fields have the names of the fields. -/
theorem key_mem_of_mem_entriesOf {names : List String} {slots : List (Option Value)}
    {e : String × Value} (h : e ∈ entriesOf names slots) : e.1 ∈ names := by
  induction names generalizing slots with
  | nil => cases h
  | cons name names ih =>
    obtain _ | ⟨slot, slots⟩ := slots
    · cases h
    rcases List.mem_append.mp h with h | h
    · exact List.mem_cons.mpr (Or.inl (key_of_mem_entryOf h))
    · exact List.mem_cons_of_mem name (ih h)

/-- The entries of fields hold what the fields hold. -/
theorem slot_mem_of_mem_entriesOf {names : List String} {slots : List (Option Value)}
    {e : String × Value} (h : e ∈ entriesOf names slots) : some e.2 ∈ slots := by
  induction names generalizing slots with
  | nil => cases h
  | cons name names ih =>
    obtain _ | ⟨slot, slots⟩ := slots
    · cases h
    rcases List.mem_append.mp h with h | h
    · obtain _ | v := slot
      · cases h
      · rw [List.mem_singleton.mp h]
        exact List.mem_cons_self
    · exact List.mem_cons_of_mem slot (ih h)

/-- Only the entry of a field comes in question where there is at most one. -/
theorem eq_entryOf_of_perm {es : List (String × Value)} {name : String} {slot : Option Value}
    (h : es.Perm (entryOf name slot)) : es = entryOf name slot := by
  cases slot with
  | none => exact List.perm_nil.mp h
  | some v => exact List.perm_singleton.mp h

variable {entries : List (String × Value)}

/-- The search for a field finds what its only entry holds. -/
theorem atMostOne?_filter_eq_some_iff {name : String} {slot : Option Value} :
    atMostOne? (entries.filter (·.1 == name)) = some slot
      ↔ entries.filter (·.1 == name) = entryOf name slot := by
  have hkeys : ∀ e ∈ entries.filter (·.1 == name), e.1 = name := fun e he =>
    beq_iff_eq.mp (List.mem_filter.mp he).2
  generalize entries.filter (·.1 == name) = found at hkeys
  match found with
  | [] => cases slot <;> simp [atMostOne?, entryOf]
  | [e] =>
    obtain rfl : e.1 = name := hkeys e (List.mem_singleton.mpr rfl)
    cases slot <;> simp [atMostOne?, entryOf, Prod.ext_iff]
  | e :: f :: es => cases slot <;> simp [atMostOne?, entryOf]

/-- The search for all fields finds what they hold if the object has the entries of the fields
that are given, once each and in any order, and besides only entries under other keys. -/
theorem forall₂_atMostOne?_iff {names : List String} (hnames : names.Nodup)
    {slots : List (Option Value)} :
    List.Forall₂ (fun name slot => atMostOne? (entries.filter (·.1 == name)) = some slot)
        names slots
      ↔ slots.length = names.length ∧ ∃ others, (∀ e ∈ others, e.1 ∉ names) ∧
          entries.Perm (entriesOf names slots ++ others) := by
  -- The object stays the same all the way; what is not yet searched for counts among the others.
  induction names generalizing slots with
  | nil =>
    rw [List.forall₂_nil_left_iff]
    constructor
    · rintro rfl
      exact ⟨rfl, entries, fun _ _ => List.not_mem_nil, List.Perm.refl entries⟩
    · rintro ⟨hlength, -⟩
      exact List.eq_nil_of_length_eq_zero hlength
  | cons name names ih =>
    obtain ⟨hname, hnames⟩ := List.nodup_cons.mp hnames
    rw [List.forall₂_cons_left_iff]
    -- Of the entries of the later fields, none has this name.
    have hlater : ∀ slots, (entriesOf names slots).filter (·.1 == name) = [] := fun slots =>
      List.filter_eq_nil_iff.mpr fun e he hkey =>
        hname (beq_iff_eq.mp hkey ▸ key_mem_of_mem_entriesOf he)
    constructor
    · rintro ⟨slot, slots, hslot, hslots, rfl⟩
      obtain ⟨hlength, others, hothers, hperm⟩ := (ih hnames).mp hslots
      have hfound : (others.filter (·.1 == name)).Perm (entryOf name slot) := by
        rw [← atMostOne?_filter_eq_some_iff.mp hslot]
        have hfilter := hperm.filter (·.1 == name)
        rw [List.filter_append, hlater, List.nil_append] at hfilter
        exact hfilter.symm
      refine ⟨congrArg (· + 1) hlength, others.filter (fun e => !(e.1 == name)), ?_, ?_⟩
      · intro e he
        obtain ⟨hmem, hkey⟩ := List.mem_filter.mp he
        exact List.not_mem_cons_of_ne_of_not_mem (by simpa using hkey) (hothers e hmem)
      · have hothers : others.Perm (entryOf name slot ++ others.filter fun e => !(e.1 == name)) :=
          (List.filter_append_perm _ others).symm.trans (hfound.append_right _)
        refine hperm.trans ((hothers.append_left _).trans ?_)
        rw [← List.append_assoc]
        exact List.perm_append_comm.append_right _
    · rintro ⟨hlength, others, hothers, hperm⟩
      obtain _ | ⟨slot, slots⟩ := slots
      · cases hlength
      have hslot : entries.filter (·.1 == name) = entryOf name slot := by
        have hself : (entryOf name slot).filter (·.1 == name) = entryOf name slot :=
          List.filter_eq_self.mpr fun e he => beq_iff_eq.mpr (key_of_mem_entryOf he)
        have hrest : others.filter (·.1 == name) = [] :=
          List.filter_eq_nil_iff.mpr fun e he hkey =>
            hothers e he (List.mem_cons.mpr (Or.inl (beq_iff_eq.mp hkey)))
        have hfilter := hperm.filter (·.1 == name)
        rw [show entriesOf (name :: names) (slot :: slots)
            = entryOf name slot ++ entriesOf names slots from rfl, List.filter_append,
          List.filter_append, hself, hlater, hrest, List.append_nil, List.append_nil] at hfilter
        exact eq_entryOf_of_perm hfilter
      refine ⟨slot, slots, atMostOne?_filter_eq_some_iff.mpr hslot, (ih hnames).mpr ?_, rfl⟩
      refine ⟨Nat.succ.inj hlength, entryOf name slot ++ others, ?_, hperm.trans ?_⟩
      · intro e he hmem
        rcases List.mem_append.mp he with he | he
        · exact hname (key_of_mem_entryOf he ▸ hmem)
        · exact hothers e he (List.mem_cons_of_mem name hmem)
      · rw [← List.append_assoc]
        exact List.perm_append_comm.append_right others

/-! ### Structures -/

/-- The value is a structure whose fields hold this, given the names of the fields in order and
what there may be under keys that the structure does not know. -/
inductive Value.HasSlots (Unknown : Value → Prop) (names : List String) :
    Value → List (Option Value) → Prop where
  /-- The list of the fields, of which the last ones may be left out. -/
  | array {items : List Value} {missing : Nat} (h : items.length + missing = names.length) :
      HasSlots Unknown names (.array items) (items.map some ++ List.replicate missing none)
  /-- The fields that are given under their names, and unknown keys, in any order. -/
  | object {slots : List (Option Value)} {entries others : List (String × Value)}
      (hlength : slots.length = names.length)
      (hothers : ∀ e ∈ others, e.1 ∉ names ∧ Unknown e.2)
      (hentries : entries.Perm (entriesOf names slots ++ others)) :
      HasSlots Unknown names (.object entries) slots

variable {names : List String} {slots : List (Option Value)} {v : Value}

/-- A structure has a slot for each of its fields. -/
theorem Value.HasSlots.length_eq {Unknown : Value → Prop} (h : v.HasSlots Unknown names slots) :
    slots.length = names.length := by
  cases h with
  | array h => rw [List.length_append, List.length_map, List.length_replicate, h]
  | object hlength => exact hlength

/-- More may be allowed under unknown keys. -/
theorem Value.HasSlots.mono {Unknown Unknown' : Value → Prop} (hmono : ∀ w, Unknown w → Unknown' w)
    (h : v.HasSlots Unknown names slots) : v.HasSlots Unknown' names slots := by
  cases h with
  | array h => exact .array h
  | object hlength hothers hentries =>
    exact .object hlength (fun e he => (hothers e he).imp_right (hmono e.2)) hentries

/-- A list leaves no slot out before its end. -/
theorem getD_map_some_append (items : List Value) (missing position : Nat) :
    (items.map some ++ List.replicate missing none).getD position none = items[position]? := by
  rw [List.getD_eq_getElem?_getD]
  by_cases hlt : position < items.length
  · rw [List.getElem?_append_left (by simpa using hlt)]
    simp [hlt]
  · rw [List.getElem?_append_right (by simpa using hlt), List.getElem?_replicate,
      List.getElem?_eq_none (Nat.le_of_not_lt hlt)]
    split <;> rfl

/-- The slots of a list are its items. -/
theorem Value.HasSlots.getD_eq {Unknown : Value → Prop} {items : List Value}
    (h : (Value.array items).HasSlots Unknown names slots) (position : Nat) :
    slots.getD position none = items[position]? := by
  cases h
  exact getD_map_some_append items _ position

/-- The fields of a structure are those that the value has, and every structure is found. -/
theorem slots?_eq_some_iff (hnames : names.Nodup) :
    v.slots? names = some slots ↔ v.HasSlots (fun _ => True) names slots := by
  cases v with
  | array items =>
    constructor
    · intro h
      obtain ⟨hle, rfl⟩ : items.length ≤ names.length ∧
          items.map some ++ List.replicate (names.length - items.length) none = slots := by
        simpa [Value.slots?] using h
      exact .array (Nat.add_sub_cancel' hle)
    · rintro ⟨h⟩
      show (if items.length ≤ names.length then _ else none) = _
      rw [if_pos (h ▸ Nat.le_add_right _ _), ← h, Nat.add_sub_cancel_left]
  | object entries =>
    show names.mapM (fun name => atMostOne? (entries.filter (·.1 == name))) = some slots ↔ _
    rw [mapM_eq_some_iff, forall₂_atMostOne?_iff hnames]
    constructor
    · rintro ⟨hlength, others, hothers, hperm⟩
      exact .object hlength (fun e he => ⟨hothers e he, trivial⟩) hperm
    · intro h
      obtain _ | ⟨hlength, hothers, hperm⟩ := h
      rename_i others
      exact ⟨hlength, others, fun e he => (hothers e he).1, hperm⟩
  | _ => constructor <;> intro h <;> cases h

/-! ### Fields -/

section Fields

variable {α : Type}

/-- A field with a default: left out where it holds the default, or given. -/
inductive OrDefault (default : α) (Denotes : Value → α → Prop) : Option Value → α → Prop where
  | leftOut : OrDefault default Denotes none default
  | given {v : Value} {a : α} (h : Denotes v a) : OrDefault default Denotes (some v) a

/-- Something that may be null. -/
inductive OrNull (Denotes : Value → α → Prop) : Value → Option α → Prop where
  | null : OrNull Denotes .null none
  | some {v : Value} {a : α} (h : Denotes v a) : OrNull Denotes v (some a)

/-- A list, item by item. -/
inductive ListOf (Denotes : Value → α → Prop) : Value → List α → Prop where
  | array {items : List Value} {xs : List α} (h : List.Forall₂ Denotes items xs) :
      ListOf Denotes (.array items) xs

variable {Denotes Denotes' : Value → α → Prop} {decode : Value → Option α}

/-- What is given may be written in more ways. -/
theorem OrDefault.mono {default : α} {slot : Option Value} {a : α}
    (hmono : ∀ v, Denotes v a → Denotes' v a) (h : OrDefault default Denotes slot a) :
    OrDefault default Denotes' slot a := by
  cases h with
  | leftOut => exact .leftOut
  | given h => exact .given (hmono _ h)

/-- What is not null may be written in more ways. -/
theorem OrNull.mono {v : Value} {a : Option α} (hmono : ∀ v a, Denotes v a → Denotes' v a)
    (h : OrNull Denotes v a) : OrNull Denotes' v a := by
  cases h with
  | null => exact .null
  | some h => exact .some (hmono _ _ h)

/-- A field with a default is decoded as what it is written as. -/
theorem optional_eq_some_iff {a : α} (h : ∀ v, decode v = some a ↔ Denotes v a) {default : α}
    {slot : Option Value} :
    optional default decode slot = some a ↔ OrDefault default Denotes slot a := by
  cases slot with
  | none =>
    constructor
    · rintro ⟨⟩
      exact .leftOut
    · rintro ⟨⟩
      rfl
  | some v =>
    show decode v = some a ↔ _
    rw [h]
    constructor
    · exact .given
    · rintro ⟨⟩
      assumption

/-- What may be null is decoded as what it is written as, if null denotes nothing else. -/
theorem nullable?_eq_some_iff (h : ∀ v a, decode v = some a ↔ Denotes v a)
    (hnull : decode .null = none) {v : Value} {a : Option α} :
    v.nullable? decode = some a ↔ OrNull Denotes v a := by
  constructor
  · intro hdecode
    cases v with
    | null =>
      obtain rfl : none = a := Option.some.inj hdecode
      exact .null
    | _ =>
      obtain ⟨b, hb, rfl⟩ := Option.map_eq_some_iff.mp hdecode
      exact .some ((h _ b).mp hb)
  · rintro (_ | hdenotes)
    · rfl
    · rename_i b
      have hdecode := (h v b).mpr hdenotes
      cases v with
      | null => rw [hnull] at hdecode; cases hdecode
      | _ => exact congrArg (Option.map some) hdecode

end Fields

/-! ### Simple values -/

/-- The value is a truth value. -/
def DenotesFlag (v : Value) (b : Bool) : Prop :=
  v = .bool b

/-- The value is a string. -/
def DenotesText (v : Value) (s : String) : Prop :=
  v = .string s

/-- The value is a size: a natural number of at most 64 bits. -/
def DenotesSize (v : Value) (n : Nat) : Prop :=
  v = .natural n ∧ n < sizeBound

/-- The value is one of a set of names: the name as a string, or as the only key of an object
that holds null. -/
def DenotesName {α : Type} (name : α → String) (v : Value) (a : α) : Prop :=
  v = .string (name a) ∨ v = .object [(name a, .null)]

/-- Truth values are decoded. -/
theorem bool?_eq_some_iff (v : Value) (b : Bool) : v.bool? = some b ↔ DenotesFlag v b := by
  cases v <;> simp [Value.bool?, DenotesFlag]

/-- Strings are decoded. -/
theorem string?_eq_some_iff (v : Value) (s : String) : v.string? = some s ↔ DenotesText v s := by
  cases v <;> simp [Value.string?, DenotesText]

/-- Sizes are decoded. -/
theorem size?_eq_some_iff (v : Value) (n : Nat) : v.size? = some n ↔ DenotesSize v n := by
  cases v with
  | natural m =>
    simp only [Value.size?, Option.ite_none_right_eq_some, Option.some.injEq, DenotesSize,
      Value.natural.injEq]
    exact ⟨fun ⟨hlt, heq⟩ => ⟨heq, heq ▸ hlt⟩, fun ⟨heq, hlt⟩ => ⟨heq ▸ hlt, heq⟩⟩
  | _ => simp [Value.size?, DenotesSize]

/-- Names are decoded, if a name is decoded as what it is the name of. -/
theorem choice?_eq_some_iff {α : Type} {name : α → String} {ofName? : String → Option α}
    (h : ∀ s a, ofName? s = some a ↔ s = name a) (v : Value) (a : α) :
    v.choice? ofName? = some a ↔ DenotesName name v a := by
  unfold Value.choice? DenotesName
  split
  · simp [h]
  · simp [h]
  · rename_i hstring hobject
    constructor
    · rintro ⟨⟩
    · rintro (hv | hv)
      · exact absurd hv (hstring _)
      · exact absurd hv (hobject _)

/-! ### Nesting -/

mutual

/-- How deep arrays and objects are nested in a value. -/
def Value.depth : Value → Nat
  | .array items => depthOfItems items + 1
  | .object entries => depthOfEntries entries + 1
  | _ => 0

/-- How deep arrays and objects are nested in values. -/
def depthOfItems : List Value → Nat
  | [] => 0
  | v :: items => max v.depth (depthOfItems items)

/-- How deep arrays and objects are nested in the values of entries. -/
def depthOfEntries : List (String × Value) → Nat
  | [] => 0
  | (_, v) :: entries => max v.depth (depthOfEntries entries)

end

/-- Items are nested as deep as the deepest of them. -/
theorem depthOfItems_le_iff {items : List Value} {n : Nat} :
    depthOfItems items ≤ n ↔ ∀ v ∈ items, v.depth ≤ n := by
  induction items with
  | nil => simp [depthOfItems]
  | cons v items ih => rw [depthOfItems, max_le_iff, ih, List.forall_mem_cons]

/-- Entries are nested as deep as the deepest of their values. -/
theorem depthOfEntries_le_iff {entries : List (String × Value)} {n : Nat} :
    depthOfEntries entries ≤ n ↔ ∀ e ∈ entries, e.2.depth ≤ n := by
  induction entries with
  | nil => simp [depthOfEntries]
  | cons e entries ih => rw [depthOfEntries, max_le_iff, ih, List.forall_mem_cons]

/-- A structure is one level deeper than the fields that are given and what is under unknown
keys. -/
theorem Value.HasSlots.depth_le {Unknown : Value → Prop} {n : Nat}
    (h : v.HasSlots Unknown names slots) (hslots : ∀ w, some w ∈ slots → w.depth ≤ n)
    (hunknown : ∀ w, Unknown w → w.depth ≤ n) : v.depth ≤ n + 1 := by
  cases h with
  | array h =>
    refine Nat.succ_le_succ (depthOfItems_le_iff.mpr fun w hw => hslots w ?_)
    exact List.mem_append.mpr (Or.inl (List.mem_map.mpr ⟨w, hw, rfl⟩))
  | object hlength hothers hentries =>
    refine Nat.succ_le_succ (depthOfEntries_le_iff.mpr fun e he => ?_)
    rcases List.mem_append.mp (hentries.mem_iff.mp he) with he | he
    · exact hslots e.2 (slot_mem_of_mem_entriesOf he)
    · exact hunknown e.2 (hothers e he).2

variable {limit : Nat}

mutual

/-- A value is read where there is room for its nesting. -/
theorem Value.readsIn_of_depth_le : ∀ (v : Value) {room : Nat}, v.depth ≤ room →
    ReadsIn limit room v
  | .array items, _ + 1, h => readsIn_array (readsIn_items items (Nat.le_of_succ_le_succ h))
  | .object entries, _ + 1, h => readsIn_object (readsIn_entries entries (Nat.le_of_succ_le_succ h))
  | .null, _, _ => Value.Fits.null.readsIn
  | .bool _, _, _ => Value.Fits.bool.readsIn
  | .natural _, _, _ | .real _, _, _ => fun _ _ _ => by
    rw [Value.tokens, List.singleton_append, readTokens_cons]
    rfl
  | .string _, _, _ => Value.Fits.string.readsIn

/-- Items are read where there is room for the deepest of them. -/
theorem readsIn_items : ∀ (items : List Value) {room : Nat}, depthOfItems items ≤ room →
    ∀ v ∈ items, ReadsIn limit room v
  | [], _, _ => fun _ hv => nomatch hv
  | v :: items, _, h => List.forall_mem_cons.mpr
    ⟨v.readsIn_of_depth_le (le_of_max_le_left h), readsIn_items items (le_of_max_le_right h)⟩

/-- The values of entries are read where there is room for the deepest of them. -/
theorem readsIn_entries : ∀ (entries : List (String × Value)) {room : Nat},
    depthOfEntries entries ≤ room → ∀ e ∈ entries, ReadsIn limit room e.2
  | [], _, _ => fun _ he => nomatch he
  | (_, v) :: entries, _, h => List.forall_mem_cons.mpr
    ⟨v.readsIn_of_depth_le (le_of_max_le_left h), readsIn_entries entries (le_of_max_le_right h)⟩

end

/-- Every document whose nesting is within the limit is read to its end. -/
theorem IsDocument.read?_of_depth_le {text : String} {v : Value} (h : IsDocument text v)
    (hdepth : v.depth ≤ limit) : read? limit text = some ⟨v, true⟩ :=
  h.read?_of_readsIn (v.readsIn_of_depth_le hdepth)

end RecordSql.Document
